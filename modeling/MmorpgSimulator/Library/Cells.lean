import Mathlib

set_option autoImplicit false

namespace Cells

variable {Cell : Type*} (Occupied : Cell → Prop) [DecidablePred Occupied]

-- What a row of cells holds, with multiplicity and without the empty cells.
def contents (cells : List Cell) : Multiset Cell := (cells.filter (fun cell => Occupied cell) : List Cell)

def single (cell : Cell) : Multiset Cell := if Occupied cell then {cell} else 0

@[simp] theorem contents_nil : contents Occupied [] = 0 := rfl

theorem contents_cons (cell : Cell) (rest : List Cell) :
    contents Occupied (cell :: rest) = single Occupied cell + contents Occupied rest := by
  by_cases full : Occupied cell <;> simp [contents, single, full]

theorem contents_append (first second : List Cell) :
    contents Occupied (first ++ second) = contents Occupied first + contents Occupied second := by
  simp [contents]

theorem mem_contents (cell : Cell) (cells : List Cell) :
    cell ∈ contents Occupied cells ↔ cell ∈ cells ∧ Occupied cell := by
  simp [contents]

theorem single_occupied (cell : Cell) (full : Occupied cell) : single Occupied cell = {cell} := if_pos full

theorem single_empty (cell : Cell) (empty : ¬ Occupied cell) : single Occupied cell = 0 := if_neg empty

theorem contents_set (cells : List Cell) (index : Nat) (bound : index < cells.length) (cell : Cell) :
    contents Occupied (cells.set index cell) + single Occupied cells[index] =
      contents Occupied cells + single Occupied cell := by
  induction cells generalizing index with
  | nil => exact absurd bound (Nat.not_lt_zero index)
  | cons head rest ih =>
      cases index with
      | zero =>
          simp only [List.set_cons_zero, contents_cons, List.getElem_cons_zero]
          exact (add_right_comm _ _ _).trans (by rw [add_comm (single Occupied cell)]; exact add_right_comm _ _ _)
      | succ index =>
          have tail := ih index (Nat.lt_of_succ_lt_succ bound)
          simp only [List.set_cons_succ, contents_cons, List.getElem_cons_succ, add_assoc, tail]

end Cells
