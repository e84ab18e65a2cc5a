import Mathlib

set_option autoImplicit false

namespace SqlText

-- A statement as the server reads it: UTF-16 code units.
abbrev Text := List UInt16

def quote : UInt16 := 39
def backslash : UInt16 := 92
def comma : UInt16 := 44
def opening : UInt16 := 40
def closing : UInt16 := 41

-- What a backslash and the unit after it stand for inside a string literal. The
-- two wildcards of LIKE keep their backslash.
def escaped (unit : UInt16) : Text :=
  if unit = 48 then [0]
  else if unit = 98 then [8]
  else if unit = 110 then [10]
  else if unit = 114 then [13]
  else if unit = 116 then [9]
  else if unit = 90 then [26]
  else if unit = 37 ∨ unit = 95 then [backslash, unit]
  else [unit]

-- The inside of a string literal, read from behind its opening quote: the value
-- and what is left behind the closing one. A doubled quote stands for itself.
def literalBody : Text → Option (Text × Text)
  | [] => none
  | [unit] => if unit = quote then some ([], []) else none
  | unit :: next :: rest =>
      if unit = quote then
        if next = quote then (literalBody rest).map (fun out => (quote :: out.1, out.2)) else some ([], next :: rest)
      else if unit = backslash then (literalBody rest).map (fun out => (escaped next ++ out.1, out.2))
      else (literalBody (next :: rest)).map (fun out => (unit :: out.1, out.2))

def isSpace (unit : UInt16) : Bool := unit = 32 ∨ (9 ≤ unit ∧ unit ≤ 13)
def isDigit (unit : UInt16) : Bool := 48 ≤ unit ∧ unit ≤ 57
def isLetter (unit : UInt16) : Bool := (65 ≤ unit ∧ unit ≤ 90) ∨ (97 ≤ unit ∧ unit ≤ 122) ∨ unit = 95

def skip (source : Text) : Text := source.dropWhile isSpace

def word (source : Text) : Text × Text := ((skip source).takeWhile isLetter, (skip source).dropWhile isLetter)

def symbol (unit : UInt16) (source : Text) : Option Text :=
  match skip source with
  | [] => none
  | first :: rest => if first = unit then some rest else none

inductive Argument where
  | number (digits : Text)
  | literal (value : Text)
deriving DecidableEq, Repr

def argument (source : Text) : Option (Argument × Text) :=
  match skip source with
  | [] => none
  | first :: rest =>
      if first = quote then (literalBody rest).map (fun out => (.literal out.1, out.2))
      else if isDigit first then some (.number ((first :: rest).takeWhile isDigit), (first :: rest).dropWhile isDigit)
      else none

-- So many arguments and as many commas less one.
def arguments : Nat → Text → Option (List Argument × Text)
  | 0, source => some ([], source)
  | 1, source => (argument source).map (fun out => ([out.1], out.2))
  | count + 2, source => (argument source).bind (fun out =>
      (symbol comma out.2).bind (fun rest => (arguments (count + 1) rest).map (fun more => (out.1 :: more.1, more.2))))

structure Call where
  procedure : Text
  arguments : List Argument
deriving DecidableEq, Repr

def units (source : String) : Text := source.toList.map (fun letter => UInt16.ofNat letter.toNat)

def parseCall (count : Nat) (source : Text) : Option Call :=
  if (word source).1 = units "CALL" then
    let name := word (word source).2
    (symbol opening name.2).bind (fun inside => (arguments count inside).bind (fun out =>
      (symbol closing out.2).bind (fun rest => if skip rest = [] then some ⟨name.1, out.1⟩ else none)))
  else none

section Literals

-- A text that a string literal can hold as it is: no quote, and no backslash but before a wildcard.
def Verbatim : Text → Prop
  | [] => True
  | [unit] => unit ≠ quote ∧ unit ≠ backslash
  | unit :: next :: rest => unit ≠ quote ∧ (unit = backslash → next = 37 ∨ next = 95) ∧ Verbatim (next :: rest)

theorem literal_plain (unit next : UInt16) (rest : Text) (unquoted : unit ≠ quote) (plain : unit ≠ backslash) :
    literalBody (unit :: next :: rest) = (literalBody (next :: rest)).map (fun out => (unit :: out.1, out.2)) := by
  rw [literalBody, if_neg unquoted, if_neg plain]

theorem literal_escape (next : UInt16) (rest : Text) :
    literalBody (backslash :: next :: rest) = (literalBody rest).map (fun out => (escaped next ++ out.1, out.2)) := by
  rw [literalBody, if_neg (by decide), if_pos rfl]

theorem literal_doubled (rest : Text) :
    literalBody (quote :: quote :: rest) = (literalBody rest).map (fun out => (quote :: out.1, out.2)) := by
  rw [literalBody, if_pos rfl, if_pos rfl]

theorem literal_closed (next : UInt16) (rest : Text) (single : next ≠ quote) :
    literalBody (quote :: next :: rest) = some ([], next :: rest) := by
  rw [literalBody, if_pos rfl, if_neg single]

theorem literal_open (source : Text) (unquoted : quote ∉ source) : literalBody source = none := by
  induction source using List.twoStepInduction with
  | nil => rfl
  | singleton unit =>
      have apart : unit ≠ quote := fun same => unquoted (same ▸ List.mem_cons_self)
      rw [literalBody, if_neg apart]
  | cons_cons unit next rest ih ihNext =>
      have apart : unit ≠ quote := fun same => unquoted (same ▸ List.mem_cons_self)
      have later : quote ∉ next :: rest := fun member => unquoted (List.mem_cons_of_mem unit member)
      by_cases escapes : unit = backslash
      · rw [escapes, literal_escape, ih (fun member => later (List.mem_cons_of_mem next member))]
        rfl
      · rw [literal_plain unit next rest apart escapes, ihNext next later]
        rfl

theorem wildcard_escaped (next : UInt16) (wildcard : next = 37 ∨ next = 95) : escaped next = [backslash, next] := by
  rcases wildcard with rfl | rfl <;> rfl

theorem escaped_single (next : UInt16) (ordinary : ¬ (next = 37 ∨ next = 95)) : ∃ unit, escaped next = [unit] := by
  rw [escaped, if_neg ordinary]
  repeat' split
  all_goals exact ⟨_, rfl⟩

theorem verbatim_tail (unit : UInt16) (rest : Text) (verbatim : Verbatim (unit :: rest)) : Verbatim rest := by
  cases rest with
  | nil => trivial
  | cons next later => exact verbatim.2.2

theorem literal_verbatim (source : Text) (behind : Text) (verbatim : Verbatim source) (single : behind.head? ≠ some quote) :
    literalBody (source ++ quote :: behind) = some (source, behind) := by
  induction source using List.twoStepInduction with
  | nil =>
      cases behind with
      | nil => rfl
      | cons next rest => exact literal_closed next rest (fun same => single (congrArg some same))
  | singleton unit =>
      have closed : literalBody (quote :: behind) = some ([], behind) := by
        cases behind with
        | nil => rfl
        | cons next rest => exact literal_closed next rest (fun same => single (congrArg some same))
      rw [List.cons_append, List.nil_append, literal_plain unit quote behind verbatim.1 verbatim.2, closed]
      rfl
  | cons_cons unit next rest ih ihNext =>
      obtain ⟨unquoted, wildcard, later⟩ := verbatim
      by_cases escapes : unit = backslash
      · rw [escapes, List.cons_append, List.cons_append, literal_escape, ih (verbatim_tail next rest later),
          wildcard_escaped next (wildcard escapes)]
        rfl
      · have tail := ihNext next later
        rw [List.cons_append] at tail
        rw [List.cons_append, List.cons_append, literal_plain unit next _ unquoted escapes, tail]
        rfl

theorem verbatim_cons (unit : UInt16) (rest : Text) (unquoted : unit ≠ quote) (plain : unit ≠ backslash) (verbatim : Verbatim rest) :
    Verbatim (unit :: rest) := by
  cases rest with
  | nil => exact ⟨unquoted, plain⟩
  | cons next later => exact ⟨unquoted, fun escapes => absurd escapes plain, verbatim⟩

theorem verbatim_wildcard (next : UInt16) (rest : Text) (wildcard : next = 37 ∨ next = 95) (verbatim : Verbatim rest) :
    Verbatim (backslash :: next :: rest) := by
  refine ⟨by decide, fun _ => wildcard, ?_⟩
  rcases wildcard with rfl | rfl
  · exact verbatim_cons 37 rest (by decide) (by decide) verbatim
  · exact verbatim_cons 95 rest (by decide) (by decide) verbatim

-- Whatever stands between the quotes, the value is no longer than it, and shorter unless it is held as it is.
theorem literal_short (source behind value rest : Text) (unquoted : quote ∉ behind) (more : behind ≠ [])
    (read : literalBody (source ++ quote :: behind) = some (value, rest)) :
    value.length ≤ source.length ∧ (value.length = source.length → value = source ∧ Verbatim source) := by
  have unended := literal_open behind unquoted
  have closed : literalBody (quote :: behind) = some ([], behind) := by
    cases behind with
    | nil => exact absurd rfl more
    | cons next later => exact literal_closed next later (fun same => unquoted (same ▸ List.mem_cons_self))
  induction source using List.twoStepInduction generalizing value with
  | nil =>
      rw [List.nil_append, closed] at read
      obtain rfl := congrArg Prod.fst (Option.some.inj read)
      exact ⟨le_refl _, fun _ => ⟨rfl, trivial⟩⟩
  | singleton unit =>
      rw [List.cons_append, List.nil_append] at read
      by_cases quoted : unit = quote
      · rw [quoted, literal_doubled, unended] at read
        exact absurd read nofun
      · by_cases escapes : unit = backslash
        · rw [escapes, literal_escape, unended] at read
          exact absurd read nofun
        · rw [literal_plain unit quote behind quoted escapes, closed] at read
          obtain rfl := congrArg Prod.fst (Option.some.inj read)
          exact ⟨le_refl _, fun _ => ⟨rfl, quoted, escapes⟩⟩
  | cons_cons unit next later ih ihNext =>
      rw [List.cons_append, List.cons_append] at read
      by_cases quoted : unit = quote
      · by_cases doubled : next = quote
        · rw [quoted, doubled, literal_doubled, Option.map_eq_some_iff] at read
          obtain ⟨⟨inner, left⟩, tail, same⟩ := read
          obtain ⟨rfl, rfl⟩ := Prod.mk.inj same
          have bound := (ih inner tail).1
          simp only [List.length_cons]
          exact ⟨by omega, fun full => absurd full (by omega)⟩
        · rw [quoted, literal_closed next _ doubled] at read
          obtain rfl := congrArg Prod.fst (Option.some.inj read)
          exact ⟨Nat.zero_le _, fun full => absurd full (Nat.succ_ne_zero _).symm⟩
      · by_cases escapes : unit = backslash
        · rw [escapes, literal_escape, Option.map_eq_some_iff] at read
          obtain ⟨⟨inner, left⟩, tail, same⟩ := read
          obtain ⟨rfl, rfl⟩ := Prod.mk.inj same
          obtain ⟨bound, held⟩ := ih inner tail
          by_cases wildcard : next = 37 ∨ next = 95
          · rw [wildcard_escaped next wildcard]
            simp only [List.cons_append, List.nil_append, List.length_cons]
            refine ⟨by omega, fun full => ?_⟩
            obtain ⟨same, verbatim⟩ := held (by omega)
            rw [same, escapes]
            exact ⟨rfl, verbatim_wildcard next later wildcard verbatim⟩
          · obtain ⟨single, short⟩ := escaped_single next wildcard
            rw [short]
            simp only [List.cons_append, List.nil_append, List.length_cons]
            exact ⟨by omega, fun full => absurd full (by omega)⟩
        · rw [literal_plain unit next _ quoted escapes, Option.map_eq_some_iff] at read
          obtain ⟨⟨inner, left⟩, tail, same⟩ := read
          obtain ⟨rfl, rfl⟩ := Prod.mk.inj same
          obtain ⟨bound, held⟩ := ihNext next inner tail
          simp only [List.length_cons] at bound held ⊢
          refine ⟨by omega, fun full => ?_⟩
          obtain ⟨same, verbatim⟩ := held (by omega)
          rw [same]
          exact ⟨rfl, quoted, fun escape => absurd escape escapes, verbatim⟩

end Literals

section Words

theorem take_units (keep : UInt16 → Bool) (front rest : Text) (all : ∀ unit ∈ front, keep unit = true)
    (stop : ∀ unit ∈ rest.head?, keep unit = false) :
    (front ++ rest).takeWhile keep = front ∧ (front ++ rest).dropWhile keep = rest := by
  induction front with
  | nil =>
      cases rest with
      | nil => exact ⟨rfl, rfl⟩
      | cons unit later =>
          have stops := stop unit rfl
          simp [stops]
  | cons unit front ih =>
      have kept := all unit List.mem_cons_self
      have tail := ih (fun other member => all other (List.mem_cons_of_mem unit member))
      simp [kept, tail.1, tail.2]

def decimal (number : Nat) : Text := if number = 0 then [48] else (Nat.digits 10 number).reverse.map (fun digit => UInt16.ofNat (48 + digit))

theorem decimal_digits (number : Nat) : ∀ unit ∈ decimal number, isDigit unit = true := by
  intro unit member
  rw [decimal] at member
  split at member
  · rw [List.mem_singleton.mp member]
    decide
  · obtain ⟨digit, listed, rfl⟩ := List.mem_map.mp member
    have small : digit < 10 := Nat.digits_lt_base (by decide) (List.mem_reverse.mp listed)
    interval_cases digit <;> decide

theorem decimal_nonempty (number : Nat) : decimal number ≠ [] := by
  rw [decimal]
  split
  · exact List.cons_ne_nil _ _
  · rename_i positive
    simpa [Nat.digits_eq_nil_iff_eq_zero] using positive

end Words

section Calls

variable (rest : Text)

theorem symbol_here (unit : UInt16) (visible : isSpace unit = false) : symbol unit (unit :: rest) = some rest := by
  rw [symbol, skip, List.dropWhile_cons, if_neg (by simp [visible])]
  simp

theorem skip_space : skip (32 :: rest) = skip rest := rfl

theorem argument_space : argument (32 :: rest) = argument rest := by rw [argument, argument, skip_space]

theorem argument_number (number : Nat) (stop : ∀ unit ∈ rest.head?, isDigit unit = false) :
    argument (decimal number ++ rest) = some (.number (decimal number), rest) := by
  obtain ⟨taken, left⟩ := take_units isDigit (decimal number) rest (decimal_digits number) stop
  cases shape : decimal number with
  | nil => exact absurd shape (decimal_nonempty number)
  | cons first later =>
      have digit : isDigit first = true := decimal_digits number first (shape ▸ List.mem_cons_self)
      have visible : isSpace first = false := by
        simp only [isDigit, decide_eq_true_eq, isSpace, decide_eq_false_iff_not, UInt16.le_iff_toNat_le, ← UInt16.toNat_inj,
          UInt16.toNat_ofNat] at digit ⊢
        omega
      have unquoted : first ≠ quote := by
        rintro rfl
        exact absurd digit (by decide)
      have skipped : skip (first :: later ++ rest) = first :: (later ++ rest) := by
        rw [skip, List.cons_append, List.dropWhile_cons, if_neg (by simp [visible])]
      rw [shape, List.cons_append] at taken left
      rw [argument, skipped]
      simp only [if_neg unquoted, if_pos digit, taken, left]

theorem letter_visible (unit : UInt16) (letter : isLetter unit = true) : isSpace unit = false := by
  simp only [isLetter, decide_eq_true_eq, isSpace, decide_eq_false_iff_not, UInt16.le_iff_toNat_le, ← UInt16.toNat_inj,
    UInt16.toNat_ofNat] at letter ⊢
  omega

theorem word_here (front : Text) (some_ : front ≠ []) (spelled : front.all isLetter = true)
    (stop : ∀ unit ∈ rest.head?, isLetter unit = false) : word (front ++ rest) = (front, rest) := by
  have letters : ∀ unit ∈ front, isLetter unit = true := List.all_eq_true.mp spelled
  have skipped : skip (front ++ rest) = front ++ rest := by
    cases front with
    | nil => exact absurd rfl some_
    | cons unit later =>
        rw [skip, List.cons_append, List.dropWhile_cons, if_neg (by simp [letter_visible unit (letters unit List.mem_cons_self)])]
  obtain ⟨taken, left⟩ := take_units isLetter front rest letters stop
  rw [word, skipped, taken, left]

theorem word_space : word (32 :: rest) = word rest := by rw [word, word, skip_space]

theorem argument_literal : argument (quote :: rest) = (literalBody rest).map (fun out => (.literal out.1, out.2)) := rfl

end Calls

end SqlText
