import Mathlib

set_option autoImplicit false

namespace Scanning

-- How a routine ends: it returns, it throws, or the language leaves open what it does.
inductive Ending (Result : Type*) where
  | returned (result : Result)
  | thrown
  | undefined
deriving DecidableEq, Repr

def andThen {First Second : Type*} (first : Option (Ending First)) (second : First → Option (Ending Second)) : Option (Ending Second) :=
  match first with
  | none => none
  | some (.returned result) => second result
  | some .thrown => some .thrown
  | some .undefined => some .undefined

theorem and_then_returned {First Second : Type*} (first : Option (Ending First)) (second : First → Option (Ending Second)) (result : Second)
    (ended : andThen first second = some (.returned result)) :
    ∃ middle, first = some (.returned middle) ∧ second middle = some (.returned result) := by
  cases first with
  | none => exact absurd ended nofun
  | some ending =>
      cases ending with
      | returned middle => exact ⟨middle, rfl, ended⟩
      | thrown => exact absurd ended (by simp [andThen])
      | undefined => exact absurd ended (by simp [andThen])

variable {Symbol : Type*} [DecidableEq Symbol]

-- The first place of a symbol from a position on; a search behind the end finds nothing.
def find (symbol : Symbol) (text : List Symbol) (start : Nat) : Option Nat :=
  ((text.drop start).findIdx? (fun other => other = symbol)).map (fun index => start + index)

-- stop - start + 1 in 64 bits, where a search without a result stands for 2^64 - 1.
def extent (start : Nat) : Option Nat → Nat
  | some stop => stop - start + 1
  | none => (2 ^ 64 - start) % 2 ^ 64

-- stop + 1 in 64 bits.
def resume : Option Nat → Nat
  | some stop => stop + 1
  | none => 0

def slice (text : List Symbol) (start : Nat) (stop : Option Nat) : List Symbol := (text.drop start).take (extent start stop)

omit [DecidableEq Symbol] in
theorem slice_sublist (text : List Symbol) (start : Nat) (stop : Option Nat) : (slice text start stop).Sublist text :=
  (List.take_sublist _ _).trans (List.drop_sublist _ _)

section Finding

variable (symbol : Symbol) (text : List Symbol) (start : Nat)

theorem find_some (place : Nat) (found : find symbol text start = some place) :
    start ≤ place ∧ text[place]? = some symbol ∧ ∀ other, start ≤ other → text[other]? = some symbol → place ≤ other := by
  obtain ⟨index, at_, rfl⟩ := Option.map_eq_some_iff.mp found
  obtain ⟨bound, here, first⟩ := List.findIdx?_eq_some_iff_getElem.mp at_
  have length : index < text.length - start := by simpa using bound
  refine ⟨Nat.le_add_right _ _, ?_, fun other from_ occurs => ?_⟩
  · rw [List.getElem_drop] at here
    rw [List.getElem?_eq_getElem (by omega)]
    exact congrArg some (of_decide_eq_true here)
  · by_contra early
    have before : other - start < index := by omega
    have missed := first (other - start) before
    have place : start + (other - start) = other := by omega
    rw [List.getElem_drop] at missed
    simp only [place] at missed
    obtain ⟨inside, same⟩ := List.getElem?_eq_some_iff.mp occurs
    exact missed (decide_eq_true same)

theorem find_none (absent : find symbol text start = none) (other : Nat) (from_ : start ≤ other) : text[other]? ≠ some symbol := by
  intro occurs
  have nowhere := List.findIdx?_eq_none_iff.mp (Option.map_eq_none_iff.mp absent)
  have member : symbol ∈ text.drop start := by
    refine List.mem_iff_getElem?.mpr ⟨other - start, ?_⟩
    rw [List.getElem?_drop]
    rwa [show start + (other - start) = other by omega]
  have same := nowhere symbol member
  simp at same

theorem find_before (place : Nat) (from_ : start ≤ place) (occurs : text[place]? = some symbol) :
    ∃ first, find symbol text start = some first ∧ start ≤ first ∧ first ≤ place := by
  cases found : find symbol text start with
  | none => exact absurd occurs (find_none symbol text start found place from_)
  | some first =>
      obtain ⟨late, _, least⟩ := find_some symbol text start first found
      exact ⟨first, rfl, late, least place from_ occurs⟩

omit [DecidableEq Symbol] in
theorem place_inside (place : Nat) (occurs : text[place]? = some symbol) : place < text.length :=
  (List.getElem?_eq_some_iff.mp occurs).1

theorem find_behind (front rest : List Symbol) (inside : start ≤ front.length) (passed : symbol ∉ front.drop start) :
    find symbol (front ++ symbol :: rest) start = some front.length := by
  have absent : (front.drop start).findIdx? (fun other => other = symbol) = none := by
    rw [List.findIdx?_eq_none_iff]
    intro other member
    exact decide_eq_false (fun same => passed (same ▸ member))
  rw [find, List.drop_append_of_le_length inside, List.findIdx?_append, absent, List.findIdx?_cons, decide_eq_true rfl, if_pos rfl]
  simp only [Option.none_or, Option.map_some, List.length_drop, Option.some.injEq]
  omega

theorem find_absent (passed : symbol ∉ text.drop start) : find symbol text start = none := by
  refine Option.map_eq_none_iff.mpr (List.findIdx?_eq_none_iff.mpr ?_)
  intro other member
  exact decide_eq_false (fun same => passed (same ▸ member))

end Finding

section Loop

variable {Table : Type*} (opening closing : Symbol) (read : Table → List Symbol → Option Table) (text : List Symbol)

-- while ((pos = text.find(opening, pos)) != npos): the object runs to the next
-- closing symbol, is read into the table, and the search goes on behind it. No
-- result within so many turns is none.
def objectLoop : Nat → Nat → Table → Option (Ending Table)
  | 0, _, _ => none
  | fuel + 1, pos, table =>
      match find opening text pos with
      | none => some (.returned table)
      | some start =>
          match read table (slice text start (find closing text start)) with
          | none => some .undefined
          | some table => objectLoop fuel (resume (find closing text start)) table

def Closed : Prop := ∀ start : Nat, text[start]? = some opening → ∃ stop : Nat, start < stop ∧ text[stop]? = some closing

def objectsFrom (pos : Nat) : List (List Symbol) :=
  match _begins : find opening text pos with
  | none => []
  | some start =>
      match _ends : find closing text start with
      | none => []
      | some stop => slice text start (some stop) :: objectsFrom (stop + 1)
termination_by text.length - pos
decreasing_by
  have first := find_some opening text pos start _begins
  have last := find_some closing text start stop _ends
  have inside := place_inside closing text stop last.2.1
  omega

def objects : List (List Symbol) := objectsFrom opening closing text 0

theorem unclosed_never_returns (open_ : Nat) (occurs : text[open_]? = some opening)
    (unclosed : ∀ stop, open_ < stop → text[stop]? ≠ some closing) (fuel pos : Nat) (before : pos ≤ open_) (table result : Table)
    (apart : opening ≠ closing) : objectLoop opening closing read text fuel pos table ≠ some (.returned result) := by
  induction fuel generalizing pos table with
  | zero => exact nofun
  | succ fuel ih =>
      obtain ⟨start, found, _, least⟩ := find_before opening text pos open_ before occurs
      simp only [objectLoop, found]
      cases taken : read table (slice text start (find closing text start)) with
      | none => simp
      | some next =>
          refine ih (resume (find closing text start)) ?_ next
          cases ends : find closing text start with
          | none => exact Nat.zero_le _
          | some stop =>
              obtain ⟨_, closes, _⟩ := find_some closing text start stop ends
              by_contra late
              have behind : open_ ≤ stop := Nat.le_of_lt_succ (Nat.lt_of_not_le late)
              rcases Nat.lt_or_eq_of_le behind with after | rfl
              · exact unclosed stop after closes
              · exact apart (Option.some.inj (occurs.symm.trans closes))

theorem closed_loop_ends (closed : Closed opening closing text) (pos fuel : Nat) (table : Table)
    (enough : (objectsFrom opening closing text pos).length < fuel) :
    objectLoop opening closing read text fuel pos table =
      some (((objectsFrom opening closing text pos).foldlM read table).elim .undefined .returned) := by
  induction pos using objectsFrom.induct opening closing text generalizing fuel table with
  | case1 pos absent =>
      cases fuel with
      | zero => exact absurd enough (Nat.not_lt_zero _)
      | succ fuel =>
          rw [objectsFrom, absent, objectLoop, absent]
          rfl
  | case2 pos start begins absent =>
      obtain ⟨_, occurs, _⟩ := find_some opening text pos start begins
      obtain ⟨stop, after, closes⟩ := closed start occurs
      exact absurd closes (find_none closing text start absent stop (Nat.le_of_lt after))
  | case3 pos start begins stop ends ih =>
      have shape : objectsFrom opening closing text pos =
          slice text start (some stop) :: objectsFrom opening closing text (stop + 1) := by
        rw [objectsFrom, begins]
        simp only
        rw [ends]
      cases fuel with
      | zero => exact absurd enough (Nat.not_lt_zero _)
      | succ fuel =>
          rw [shape, List.length_cons] at enough
          rw [shape, List.foldlM_cons]
          simp only [objectLoop, begins, ends]
          cases taken : read table (slice text start (some stop)) with
          | none => rfl
          | some next => exact ih fuel next (by omega)

theorem more_turns (fuel extra pos : Nat) (table : Table) (ending : Ending Table)
    (ended : objectLoop opening closing read text fuel pos table = some ending) :
    objectLoop opening closing read text (fuel + extra) pos table = some ending := by
  induction fuel generalizing pos table with
  | zero => exact absurd ended nofun
  | succ fuel ih =>
      rw [Nat.succ_add]
      rw [objectLoop] at ended ⊢
      cases begins : find opening text pos with
      | none =>
          rw [begins] at ended
          exact ended
      | some start =>
          rw [begins] at ended
          simp only at ended ⊢
          cases taken : read table (slice text start (find closing text start)) with
          | none =>
              rw [taken] at ended
              exact ended
          | some next =>
              rw [taken] at ended
              exact ih _ _ ended

theorem loop_returns_iff (apart : opening ≠ closing) (table result : Table) :
    (∃ fuel, objectLoop opening closing read text fuel 0 table = some (.returned result)) ↔
      Closed opening closing text ∧ (objects opening closing text).foldlM read table = some result := by
  constructor
  · intro returns
    obtain ⟨fuel, ended⟩ := returns
    have closed : Closed opening closing text := by
      by_contra open_
      simp only [Closed, not_forall, not_exists, not_and] at open_
      obtain ⟨start, occurs, unclosed⟩ := open_
      exact unclosed_never_returns opening closing read text start occurs unclosed fuel 0 (Nat.zero_le _) table result apart ended
    have longer := more_turns opening closing read text fuel ((objects opening closing text).length + 1) 0 table _ ended
    have whole := closed_loop_ends opening closing read text closed 0 (fuel + ((objects opening closing text).length + 1)) table
      (show (objects opening closing text).length < _ by omega)
    refine ⟨closed, ?_⟩
    have same := Option.some.inj (longer.symm.trans whole)
    rw [objects]
    cases folded : (objectsFrom opening closing text 0).foldlM read table with
    | none =>
        rw [folded] at same
        exact absurd same nofun
    | some last =>
        rw [folded] at same
        exact congrArg some (Ending.returned.inj same).symm
  · intro readable
    obtain ⟨closed, folded⟩ := readable
    refine ⟨(objects opening closing text).length + 1, ?_⟩
    have ended := closed_loop_ends opening closing read text closed 0 ((objects opening closing text).length + 1) table (Nat.lt_succ_self _)
    rw [objects] at folded
    rwa [folded] at ended

omit [DecidableEq Symbol] in
theorem extent_window (front body behind : List Symbol) :
    slice (front ++ opening :: (body ++ closing :: behind)) front.length (some (front ++ opening :: body).length) =
      opening :: (body ++ [closing]) := by
  have span : (front ++ opening :: body).length - front.length + 1 = (opening :: (body ++ [closing])).length := by
    simp only [List.length_append, List.length_cons, List.length_nil]
    omega
  have same : opening :: (body ++ closing :: behind) = (opening :: (body ++ [closing])) ++ behind := by simp
  rw [slice, List.drop_left, extent, span, same, List.take_left]

theorem find_closing (apart : opening ≠ closing) (front body behind : List Symbol) (bodyClear : closing ∉ body) :
    find closing (front ++ opening :: (body ++ closing :: behind)) front.length = some (front ++ opening :: body).length := by
  have whole : front ++ opening :: (body ++ closing :: behind) = (front ++ opening :: body) ++ closing :: behind := by simp
  rw [whole]
  refine find_behind closing _ _ behind (by simp) ?_
  rw [List.drop_left, List.mem_cons]
  exact not_or.mpr ⟨apart.symm, bodyClear⟩

theorem object_turn (apart : opening ≠ closing) (front gap body behind : List Symbol) (pos fuel : Nat) (table : Table)
    (inside : pos ≤ front.length) (passed : opening ∉ front.drop pos) (gapClear : opening ∉ gap) (bodyClear : closing ∉ body) :
    objectLoop opening closing read (front ++ (gap ++ opening :: (body ++ closing :: behind))) (fuel + 1) pos table =
      match read table (opening :: (body ++ [closing])) with
      | none => some .undefined
      | some next => objectLoop opening closing read (front ++ (gap ++ opening :: (body ++ closing :: behind))) fuel
          (front ++ gap ++ opening :: body ++ [closing]).length next := by
  have begins : find opening (front ++ gap ++ opening :: (body ++ closing :: behind)) pos = some (front ++ gap).length := by
    refine find_behind opening pos (front ++ gap) _ (by rw [List.length_append]; omega) ?_
    rw [List.drop_append_of_le_length inside, List.mem_append]
    exact not_or.mpr ⟨passed, gapClear⟩
  have ends := find_closing opening closing apart (front ++ gap) body behind bodyClear
  have object := extent_window opening closing (front ++ gap) body behind
  have place : resume (some (front ++ gap ++ opening :: body).length) = (front ++ gap ++ opening :: body ++ [closing]).length := by
    simp only [resume, List.length_append, List.length_singleton]
  rw [← List.append_assoc, objectLoop, begins]
  simp only [ends]
  rw [object, place]

-- Objects one after another, what stands between them holding no opening symbol, are
-- read one after another. The separator behind an object belongs to what the next search passes over.
theorem joined_loop (separator tail : List Symbol) (apart : opening ≠ closing) (clear : opening ∉ separator) (last : opening ∉ tail)
    (parts : List (List Symbol × List Symbol)) (clean : ∀ part ∈ parts, opening ∉ part.1 ∧ closing ∉ part.2) (front : List Symbol)
    (pos fuel : Nat) (table : Table) (inside : pos ≤ front.length) (passed : opening ∉ front.drop pos) (enough : parts.length < fuel) :
    objectLoop opening closing read
        (front ++ (separator.intercalate (parts.map (fun part => part.1 ++ opening :: (part.2 ++ [closing]))) ++ tail)) fuel pos table =
      some (((parts.map (fun part => opening :: (part.2 ++ [closing]))).foldlM read table).elim .undefined .returned) := by
  induction parts generalizing front pos fuel table with
  | nil =>
      cases fuel with
      | zero => exact absurd enough (Nat.not_lt_zero _)
      | succ fuel =>
          have none : find opening (front ++ tail) pos = none := by
            apply find_absent
            rw [List.drop_append_of_le_length inside, List.mem_append]
            exact not_or.mpr ⟨passed, last⟩
          change objectLoop opening closing read (front ++ tail) (fuel + 1) pos table = _
          rw [objectLoop, none]
          rfl
  | cons part rest ih =>
      cases fuel with
      | zero => exact absurd enough (Nat.not_lt_zero _)
      | succ fuel =>
          obtain ⟨gapClear, bodyClear⟩ := clean part List.mem_cons_self
          have shorter : rest.length < fuel := Nat.lt_of_succ_lt_succ enough
          have cleanRest := fun other member => clean other (List.mem_cons_of_mem part member)
          -- What follows the object, with its separator if another one comes.
          obtain ⟨behind, joined, later⟩ : ∃ behind, separator.intercalate
                ((part :: rest).map (fun part => part.1 ++ opening :: (part.2 ++ [closing]))) ++ tail =
              part.1 ++ opening :: (part.2 ++ closing :: behind) ∧
              ∀ (before : List Symbol) (next : Table), objectLoop opening closing read (before ++ behind) fuel before.length next =
                some (((rest.map (fun part => opening :: (part.2 ++ [closing]))).foldlM read next).elim .undefined .returned) := by
            cases shape : rest with
            | nil =>
                rw [shape] at ih shorter
                refine ⟨tail, by simp, fun before next => ?_⟩
                exact ih nofun before before.length fuel next (Nat.le_refl _) (by simp) shorter
            | cons second others =>
                rw [shape] at ih shorter cleanRest
                refine ⟨separator ++ (separator.intercalate
                  ((second :: others).map (fun part => part.1 ++ opening :: (part.2 ++ [closing]))) ++ tail), ?_, fun before next => ?_⟩
                · simp only [List.map_cons, List.intercalate_cons_cons, List.append_assoc, List.cons_append, List.nil_append]
                · have goesOn := ih cleanRest (before ++ separator) before.length fuel next (by simp) (by simpa using clear) shorter
                  rwa [List.append_assoc] at goesOn
          rw [joined, object_turn opening closing read apart front part.1 part.2 behind pos fuel table inside passed gapClear bodyClear,
            List.map_cons, List.foldlM_cons]
          cases taken : read table (opening :: (part.2 ++ [closing])) with
          | none => rfl
          | some next =>
              have goesOn := later (front ++ part.1 ++ opening :: part.2 ++ [closing]) next
              have same : front ++ part.1 ++ opening :: part.2 ++ [closing] ++ behind =
                  front ++ (part.1 ++ opening :: (part.2 ++ closing :: behind)) := by simp
              rwa [same] at goesOn

theorem objects_count (pos : Nat) : (objectsFrom opening closing text pos).length ≤ (text.drop pos).count opening := by
  induction pos using objectsFrom.induct opening closing text with
  | case1 pos absent =>
      rw [objectsFrom, absent]
      exact Nat.zero_le _
  | case2 pos start begins absent =>
      rw [objectsFrom, begins]
      simp only
      rw [absent]
      exact Nat.zero_le _
  | case3 pos start begins stop ends ih =>
      have shape : objectsFrom opening closing text pos =
          slice text start (some stop) :: objectsFrom opening closing text (stop + 1) := by
        rw [objectsFrom, begins]
        simp only
        rw [ends]
      obtain ⟨late, occurs, _⟩ := find_some opening text pos start begins
      obtain ⟨after, _, _⟩ := find_some closing text start stop ends
      obtain ⟨bound, here⟩ := List.getElem?_eq_some_iff.mp occurs
      have front : text.drop start = opening :: text.drop (start + 1) := by rw [List.drop_eq_getElem_cons bound, here]
      have earlier := ((List.drop_suffix_drop_left text late).sublist.count_le opening)
      have later := ((List.drop_suffix_drop_left text (show start + 1 ≤ stop + 1 by omega)).sublist.count_le opening)
      rw [front, List.count_cons_self] at earlier
      rw [shape, List.length_cons]
      omega

theorem loop_never_throws (fuel pos : Nat) (table : Table) : objectLoop opening closing read text fuel pos table ≠ some .thrown := by
  induction fuel generalizing pos table with
  | zero => exact nofun
  | succ fuel ih =>
      rw [objectLoop]
      cases find opening text pos with
      | none => exact nofun
      | some start =>
          simp only
          cases read table (slice text start (find closing text start)) with
          | none => exact nofun
          | some next => exact ih _ next

omit [DecidableEq Symbol] in
theorem fold_reads_iff (fine : List Symbol → Prop) (each : ∀ table object, (read table object).isSome ↔ fine object)
    (table : Table) (all : List (List Symbol)) : (all.foldlM read table).isSome ↔ ∀ object ∈ all, fine object := by
  induction all generalizing table with
  | nil => simp
  | cons object rest ih =>
      rw [List.foldlM_cons, List.forall_mem_cons, ← each table object]
      cases taken : read table object with
      | none => simp
      | some next => simpa using ih next

omit [DecidableEq Symbol] in
theorem fold_keeps (invariant : Table → Prop)
    (each : ∀ table object next, read table object = some next → invariant table → invariant next) (table result : Table)
    (all : List (List Symbol)) (folded : all.foldlM read table = some result) (start : invariant table) : invariant result := by
  induction all generalizing table with
  | nil =>
      obtain rfl := Option.some.inj folded
      exact start
  | cons object rest ih =>
      rw [List.foldlM_cons] at folded
      obtain ⟨next, taken, later⟩ := Option.bind_eq_some_iff.mp folded
      exact ih next later (each table object next taken start)

omit [DecidableEq Symbol] in
theorem entries_count {Entry : Type*} (entries : Table → List Entry)
    (one : ∀ table object next, read table object = some next → (entries next).length = (entries table).length + 1) (table result : Table)
    (all : List (List Symbol)) (folded : all.foldlM read table = some result) :
    (entries result).length = (entries table).length + all.length := by
  induction all generalizing table with
  | nil =>
      obtain rfl := Option.some.inj folded
      rfl
  | cons object rest ih =>
      rw [List.foldlM_cons] at folded
      obtain ⟨next, taken, later⟩ := Option.bind_eq_some_iff.mp folded
      rw [ih next later, one table object next taken, List.length_cons]
      omega

end Loop

end Scanning
