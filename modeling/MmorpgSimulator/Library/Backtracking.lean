import Mathlib

set_option autoImplicit false

namespace Backtracking

-- A pattern as a backtracking matcher tries it at the front of a text: every way to
-- match, with what is left of the text, in the order of the attempts.
abbrev Matcher (Symbol Result : Type) := List Symbol → List (Result × List Symbol)

variable {Symbol Result Other : Type} [DecidableEq Symbol]

def accept (result : Result) : Matcher Symbol Result := fun text => [(result, text)]

def andThen (first : Matcher Symbol Result) (next : Result → Matcher Symbol Other) : Matcher Symbol Other :=
  fun text => (first text).flatMap (fun taken => next taken.1 taken.2)

def literal (word : List Symbol) : Matcher Symbol Unit :=
  fun text => if word.isPrefixOf text then [((), text.drop word.length)] else []

-- c*, as many symbols of the class as there are, then fewer.
def many (class_ : Symbol → Bool) : Matcher Symbol (List Symbol)
  | [] => [([], [])]
  | symbol :: rest =>
      if class_ symbol then (many class_ rest).map (fun taken => (symbol :: taken.1, taken.2)) ++ [([], symbol :: rest)]
      else [([], symbol :: rest)]

-- c+
def several (class_ : Symbol → Bool) : Matcher Symbol (List Symbol)
  | [] => []
  | symbol :: rest => if class_ symbol then (many class_ rest).map (fun taken => (symbol :: taken.1, taken.2)) else []

-- (..)?
def perhaps (pattern : Matcher Symbol Result) : Matcher Symbol (Option Result) :=
  fun text => (pattern text).map (fun taken => (some taken.1, taken.2)) ++ [(none, text)]

def matchFront (pattern : Matcher Symbol Result) (text : List Symbol) : Option (Result × List Symbol) := (pattern text).head?

-- The matches from left to right, none overlapping another, of a pattern that never
-- matches the empty text.
def scan (pattern : Matcher Symbol Result) : Nat → List Symbol → List Result
  | 0, _ => []
  | fuel + 1, text =>
      match matchFront pattern text with
      | some (found, rest) => found :: scan pattern fuel rest
      | none =>
          match text with
          | [] => []
          | _ :: rest => scan pattern fuel rest

def findAll (pattern : Matcher Symbol Result) (text : List Symbol) : List Result := scan pattern (text.length + 1) text

def Consumes (pattern : Matcher Symbol Result) : Prop := ∀ text found rest, (found, rest) ∈ pattern text → rest.length < text.length

section Shapes

variable (class_ : Symbol → Bool)

theorem literal_shape (word text rest : List Symbol) (taken : ((), rest) ∈ literal word text) : text = word ++ rest := by
  unfold literal at taken
  split at taken
  · rename_i initial
    obtain ⟨behind, rfl⟩ := List.isPrefixOf_iff_prefix.mp initial
    rw [List.drop_left] at taken
    rw [(Prod.mk.inj (List.mem_singleton.mp taken)).2]
  · exact absurd taken List.not_mem_nil

omit [DecidableEq Symbol] in
theorem many_shape (text run rest : List Symbol) (taken : (run, rest) ∈ many class_ text) :
    text = run ++ rest ∧ ∀ symbol ∈ run, class_ symbol = true := by
  induction text generalizing run with
  | nil =>
      obtain ⟨rfl, rfl⟩ := Prod.mk.inj (List.mem_singleton.mp taken)
      exact ⟨rfl, nofun⟩
  | cons symbol text ih =>
      unfold many at taken
      split at taken
      · rename_i inside
        rcases List.mem_append.mp taken with longer | none
        · obtain ⟨⟨shorter, left⟩, listed, same⟩ := List.mem_map.mp longer
          obtain ⟨rfl, rfl⟩ := Prod.mk.inj same
          obtain ⟨rfl, all⟩ := ih shorter listed
          exact ⟨rfl, List.forall_mem_cons.mpr ⟨inside, all⟩⟩
        · obtain ⟨rfl, rfl⟩ := Prod.mk.inj (List.mem_singleton.mp none)
          exact ⟨rfl, nofun⟩
      · obtain ⟨rfl, rfl⟩ := Prod.mk.inj (List.mem_singleton.mp taken)
        exact ⟨rfl, nofun⟩

omit [DecidableEq Symbol] in
theorem several_shape (text run rest : List Symbol) (taken : (run, rest) ∈ several class_ text) :
    text = run ++ rest ∧ ∀ symbol ∈ run, class_ symbol = true := by
  cases text with
  | nil => exact absurd taken List.not_mem_nil
  | cons symbol text =>
      by_cases inside : class_ symbol = true
      · rw [several, if_pos inside] at taken
        obtain ⟨⟨shorter, left⟩, listed, same⟩ := List.mem_map.mp taken
        obtain ⟨rfl, rfl⟩ := Prod.mk.inj same
        obtain ⟨rfl, all⟩ := many_shape class_ text shorter _ listed
        exact ⟨rfl, List.forall_mem_cons.mpr ⟨inside, all⟩⟩
      · rw [several, if_neg inside] at taken
        exact absurd taken List.not_mem_nil

omit [DecidableEq Symbol] in
theorem and_then_mem (first : Matcher Symbol Result) (next : Result → Matcher Symbol Other) (text rest : List Symbol) (found : Other)
    (taken : (found, rest) ∈ andThen first next text) :
    ∃ result middle, (result, middle) ∈ first text ∧ (found, rest) ∈ next result middle := by
  obtain ⟨⟨result, middle⟩, one, other⟩ := List.mem_flatMap.mp taken
  exact ⟨result, middle, one, other⟩

end Shapes

section Steps

variable (class_ : Symbol → Bool) (next : List Symbol → Matcher Symbol Result)

theorem literal_then (word rest : List Symbol) (after : Unit → Matcher Symbol Result) :
    andThen (literal word) after (word ++ rest) = after () rest := by
  have initial : word.isPrefixOf (word ++ rest) = true := List.isPrefixOf_iff_prefix.mpr (List.prefix_append word rest)
  simp [andThen, literal, initial]

theorem literal_fails (word text : List Symbol) (after : Unit → Matcher Symbol Result) (elsewhere : ¬ word <+: text) :
    andThen (literal word) after text = [] := by
  have other : ¬ word.isPrefixOf text = true := fun initial => elsewhere (List.isPrefixOf_iff_prefix.mp initial)
  simp [andThen, literal, other]

theorem literal_elsewhere (mark symbol : Symbol) (text : List Symbol) (after : Unit → Matcher Symbol Result) (other : symbol ≠ mark) :
    andThen (literal [mark]) after (symbol :: text) = [] :=
  literal_fails _ _ _ (fun initial => other (List.cons_prefix_cons.mp initial).1.symm)

theorem literal_outside (mark symbol : Symbol) (text : List Symbol) (after : Unit → Matcher Symbol Result) (outside : class_ mark = false)
    (inside : class_ symbol = true) : andThen (literal [mark]) after (symbol :: text) = [] := by
  have other : symbol ≠ mark := by
    intro same
    rw [same, outside] at inside
    exact absurd inside Bool.false_ne_true
  exact literal_elsewhere mark symbol text after other

-- The text does not go on with a symbol of the class.
def Ends (text : List Symbol) : Prop := ∀ symbol ∈ text.head?, class_ symbol = false

omit [DecidableEq Symbol] in
theorem many_then (run rest : List Symbol) (all : ∀ symbol ∈ run, class_ symbol = true) (ends : Ends class_ rest)
    (stuck : ∀ taken symbol text, class_ symbol = true → next taken (symbol :: text) = []) :
    andThen (many class_) next (run ++ rest) = next run rest := by
  induction run generalizing next with
  | nil =>
      cases rest with
      | nil => simp [andThen, many]
      | cons symbol rest =>
          have outside : class_ symbol = false := ends symbol rfl
          simp [andThen, many, outside]
  | cons symbol run ih =>
      obtain ⟨inside, others⟩ := List.forall_mem_cons.mp all
      have longer := ih (fun taken => next (symbol :: taken)) others (fun taken => stuck (symbol :: taken))
      rw [andThen] at longer
      rw [andThen, List.cons_append, many, if_pos inside, List.flatMap_append, List.flatMap_map, longer, List.flatMap_singleton,
        stuck [] symbol _ inside, List.append_nil]

omit [DecidableEq Symbol] in
theorem several_then (run rest : List Symbol) (some_ : run ≠ []) (all : ∀ symbol ∈ run, class_ symbol = true) (ends : Ends class_ rest)
    (stuck : ∀ taken symbol text, class_ symbol = true → next taken (symbol :: text) = []) :
    andThen (several class_) next (run ++ rest) = next run rest := by
  cases run with
  | nil => exact absurd rfl some_
  | cons symbol run =>
      obtain ⟨inside, others⟩ := List.forall_mem_cons.mp all
      have longer := many_then class_ (fun taken => next (symbol :: taken)) run rest others ends (fun taken => stuck (symbol :: taken))
      rw [andThen] at longer
      rw [andThen, List.cons_append, several, if_pos inside, List.flatMap_map, longer]

omit [DecidableEq Symbol] in
theorem several_fails (text : List Symbol) (ends : Ends class_ text) : andThen (several class_) next text = [] := by
  cases text with
  | nil => rfl
  | cons symbol rest =>
      have outside : class_ symbol = false := ends symbol rfl
      simp [andThen, several, outside]

omit [DecidableEq Symbol] in
theorem several_starts (symbol : Symbol) (text : List Symbol) (outside : class_ symbol = false) :
    andThen (several class_) next (symbol :: text) = [] :=
  several_fails class_ next _ (fun _ same => Option.some.inj same ▸ outside)

end Steps

section Scanning

variable (pattern : Matcher Symbol Result)

omit [DecidableEq Symbol] in
theorem scan_enough (consumes : Consumes pattern) (fuel more : Nat) (text : List Symbol) (enough : text.length < fuel) (other : text.length < more) :
    scan pattern fuel text = scan pattern more text := by
  induction fuel generalizing more text with
  | zero => exact absurd enough (Nat.not_lt_zero _)
  | succ fuel ih =>
      cases more with
      | zero => exact absurd other (Nat.not_lt_zero _)
      | succ more =>
          unfold scan
          cases here : matchFront pattern text with
          | some taken =>
              have shorter := consumes text taken.1 taken.2 (List.mem_of_mem_head? here)
              simp only
              rw [ih more taken.2 (by omega) (by omega)]
          | none =>
              cases text with
              | nil => rfl
              | cons symbol rest =>
                  rw [List.length_cons] at enough other
                  exact ih more rest (by omega) (by omega)

omit [DecidableEq Symbol] in
theorem find_all_match (consumes : Consumes pattern) (text rest : List Symbol) (found : Result) (here : pattern text = [(found, rest)]) :
    findAll pattern text = found :: findAll pattern rest := by
  have shorter := consumes text found rest (by rw [here]; exact List.mem_singleton_self _)
  unfold findAll
  conv_lhs => unfold scan
  rw [matchFront, here]
  simp only [List.head?_cons]
  rw [scan_enough pattern consumes text.length (rest.length + 1) rest shorter (Nat.lt_succ_self _)]

omit [DecidableEq Symbol] in
theorem find_all_skip (gap rest : List Symbol) (barren : ∀ part, part <:+ gap → part ≠ [] → pattern (part ++ rest) = []) :
    findAll pattern (gap ++ rest) = findAll pattern rest := by
  induction gap with
  | nil => rfl
  | cons symbol gap ih =>
      have here : pattern (symbol :: (gap ++ rest)) = [] := barren (symbol :: gap) List.suffix_rfl (List.cons_ne_nil _ _)
      have later := ih (fun part suffix => barren part (suffix.trans (List.suffix_cons symbol gap)))
      rw [← later]
      change scan pattern ((gap ++ rest).length + 1 + 1) (symbol :: (gap ++ rest)) = scan pattern ((gap ++ rest).length + 1) (gap ++ rest)
      conv_lhs => unfold scan
      rw [matchFront, here]
      rfl

omit [DecidableEq Symbol] in
theorem find_all_nil (consumes : Consumes pattern) : findAll pattern [] = [] := by
  have none : matchFront pattern [] = none := by
    cases here : matchFront pattern [] with
    | none => rfl
    | some taken => exact absurd (consumes [] taken.1 taken.2 (List.mem_of_mem_head? here)) (Nat.not_lt_zero _)
  unfold findAll scan
  rw [none]

end Scanning

end Backtracking
