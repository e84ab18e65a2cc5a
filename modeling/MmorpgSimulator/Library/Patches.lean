import Mathlib

set_option autoImplicit false

namespace Patches

variable {Cell : Type*} {size : Nat}

-- Writes at indices, one after the other; those out of bounds have no effect.
def patch (cells : Vector Cell size) (writes : List (Nat × Cell)) : Vector Cell size :=
  writes.foldl (fun cells write => cells.setIfInBounds write.1 write.2) cells

def writesBelow (bound : Nat) (entry : Nat → Option Cell) : List (Nat × Cell) :=
  (List.range bound).filterMap (fun index => (entry index).map (fun cell => (index, cell)))

theorem patch_append (cells : Vector Cell size) (first second : List (Nat × Cell)) :
    patch cells (first ++ second) = patch (patch cells first) second :=
  List.foldl_append

def last (index : Nat) : List (Nat × Cell) → Option Cell
  | [] => none
  | write :: rest => (last index rest).or (if write.1 = index then some write.2 else none)

theorem last_append (index : Nat) (first second : List (Nat × Cell)) : last index (first ++ second) = (last index second).or (last index first) := by
  induction first with
  | nil => exact Option.or_none.symm
  | cons write rest ih => rw [List.cons_append, last, ih, last, Option.or_assoc]

theorem patch_last (cells : Vector Cell size) (writes : List (Nat × Cell)) (index : Fin size) :
    (patch cells writes)[index] = (last index writes).getD cells[index] := by
  induction writes generalizing cells with
  | nil => rfl
  | cons write rest ih =>
      rw [patch, List.foldl_cons, ← patch, ih, last]
      by_cases same : write.1 = index.val
      · cases last index rest <;> simp [same]
      · cases last index rest <;> simp [same]

theorem writes_below_succ (bound : Nat) (entry : Nat → Option Cell) :
    writesBelow (bound + 1) entry = writesBelow bound entry ++ ((entry bound).map (fun cell => (bound, cell))).toList := by
  rw [writesBelow, List.range_succ, List.filterMap_append]
  cases written : entry bound with
  | none => simp [writesBelow, written]
  | some cell => simp [writesBelow, written]

theorem patch_below (cells : Vector Cell size) (entry : Nat → Option Cell) (bound : Nat) (index : Fin size) :
    (patch cells (writesBelow bound entry))[index] = if index.val < bound then (entry index).getD cells[index] else cells[index] := by
  induction bound with
  | zero => rfl
  | succ bound ih =>
      rw [writes_below_succ, patch_append]
      simp only [Fin.getElem_fin] at ih ⊢
      by_cases here : bound = index.val
      · subst here
        cases written : entry index.val with
        | none => simpa [patch, written] using ih
        | some cell => simp [patch]
      · have same : index.val < bound + 1 ↔ index.val < bound := by omega
        simp only [same, ← ih]
        cases entry bound with
        | none => rfl
        | some cell => exact Vector.getElem_setIfInBounds_ne index.isLt here

end Patches
