import Mathlib

set_option autoImplicit false

namespace Ascending

variable {Entry Key : Type*}

theorem earlier [DecidableEq Entry] {before : Entry → Entry → Prop} {entries : List Entry} (ascending : entries.Pairwise before)
    {one other : Entry} (first : one ∈ entries) (second : other ∈ entries) (places : entries.idxOf one ≤ entries.idxOf other) :
    one = other ∨ before one other := by
  rcases Nat.lt_or_eq_of_le places with less | same
  · have related := List.pairwise_iff_getElem.mp ascending _ _ (List.idxOf_lt_length_iff.mpr first) (List.idxOf_lt_length_iff.mpr second) less
    rw [List.getElem_idxOf, List.getElem_idxOf] at related
    exact .inr related
  · exact .inl ((List.idxOf_inj first).mp same)

theorem found [DecidableEq Key] (key : Entry → Key) (entries : List Entry)
    (apart : entries.Pairwise (fun one other => key one ≠ key other)) (entry : Entry) (stored : entry ∈ entries) :
    entries.find? (fun other => key other = key entry) = some entry := by
  induction entries with
  | nil => exact absurd stored List.not_mem_nil
  | cons first rest ih =>
      obtain ⟨away, later⟩ := List.pairwise_cons.mp apart
      rcases List.mem_cons.mp stored with rfl | behind
      · exact List.find?_cons_of_pos (decide_eq_true rfl)
      · rw [List.find?_cons_of_neg (by simpa using away entry behind)]
        exact ih later behind

end Ascending
