import Mathlib

set_option autoImplicit false

namespace Weighted

variable {Entry : Type*} (weight : Entry → Int)

def total (entries : List Entry) : Int := (entries.map weight).sum

-- A draw by running sums: the first entry at which the sum has passed the roll.
def draw (roll : Int) : Int → List Entry → Option Entry
  | _, [] => none
  | acc, entry :: rest => if roll < acc + weight entry then some entry else draw roll (acc + weight entry) rest

-- The same in a number type that holds some values only: none where a sum is none of them.
def drawWithin (held : Int → Bool) (roll : Int) : Int → List Entry → Option (Option Entry)
  | _, [] => some none
  | acc, entry :: rest =>
      if held (acc + weight entry) then
        if roll < acc + weight entry then some (some entry) else drawWithin held roll (acc + weight entry) rest
      else none

def Fair (entries : List Entry) : Prop := ∀ entry ∈ entries, 0 ≤ weight entry

section Totals

theorem total_cons (entry : Entry) (rest : List Entry) : total weight (entry :: rest) = weight entry + total weight rest := by
  simp [total]

theorem total_append (front rest : List Entry) : total weight (front ++ rest) = total weight front + total weight rest := by
  simp [total]

theorem total_nonneg (entries : List Entry) (fair : Fair weight entries) : 0 ≤ total weight entries := by
  refine List.sum_nonneg (fun amount member => ?_)
  obtain ⟨entry, listed, rfl⟩ := List.mem_map.mp member
  exact fair entry listed

theorem total_initial (front entries : List Entry) (initial : front <+: entries) (fair : Fair weight entries) :
    0 ≤ total weight front ∧ total weight front ≤ total weight entries := by
  obtain ⟨rest, rfl⟩ := initial
  have first := total_nonneg weight front (fun entry member => fair entry (List.mem_append_left rest member))
  have second := total_nonneg weight rest (fun entry member => fair entry (List.mem_append_right front member))
  rw [total_append]
  omega

end Totals

section Drawing

variable (roll acc : Int) (entries : List Entry)

theorem draw_stretch (entry : Entry) (below : acc ≤ roll) (drawn : draw weight roll acc entries = some entry) :
    ∃ front rest, entries = front ++ entry :: rest ∧ acc + total weight front ≤ roll ∧ roll < acc + total weight front + weight entry := by
  induction entries generalizing acc with
  | nil => exact absurd drawn nofun
  | cons first others ih =>
      rw [draw] at drawn
      split at drawn
      · rename_i inside
        obtain rfl := Option.some.inj drawn
        refine ⟨[], others, rfl, ?_, ?_⟩
        · simpa [total] using below
        · simpa [total] using inside
      · rename_i beyond
        obtain ⟨front, rest, rfl, starts, ends⟩ := ih (acc + weight first) (Int.not_lt.mp beyond) drawn
        refine ⟨first :: front, rest, rfl, ?_, ?_⟩
        · rwa [total_cons, ← Int.add_assoc]
        · rwa [total_cons, ← Int.add_assoc]

theorem draw_positive (entry : Entry) (below : acc ≤ roll) (drawn : draw weight roll acc entries = some entry) :
    entry ∈ entries ∧ 0 < weight entry := by
  obtain ⟨front, rest, rfl, starts, ends⟩ := draw_stretch weight roll acc entries entry below drawn
  refine ⟨List.mem_append_right front List.mem_cons_self, ?_⟩
  omega

theorem draw_some (inside : roll < acc + total weight entries) (below : acc ≤ roll) : ∃ entry, draw weight roll acc entries = some entry := by
  induction entries generalizing acc with
  | nil =>
      have none : total weight ([] : List Entry) = 0 := rfl
      omega
  | cons first others ih =>
      rw [draw]
      split
      · exact ⟨first, rfl⟩
      · rename_i beyond
        rw [total_cons, ← Int.add_assoc] at inside
        exact ih (acc + weight first) inside (Int.not_lt.mp beyond)

theorem draw_within (held : Int → Bool) (fits : ∀ front, front <+: entries → held (acc + total weight front) = true) :
    drawWithin weight held roll acc entries = some (draw weight roll acc entries) := by
  induction entries generalizing acc with
  | nil => rfl
  | cons first others ih =>
      have here : held (acc + weight first) = true := by
        have one := fits [first] (List.prefix_append [first] others)
        rwa [total_cons, total, List.map_nil, List.sum_nil, add_zero] at one
      have later := ih (acc + weight first) (fun front initial => by
        have longer := fits (first :: front) (List.prefix_cons_inj first |>.mpr initial)
        rwa [total_cons, ← Int.add_assoc] at longer)
      rw [drawWithin, if_pos here, draw, later]
      split
      · rfl
      · rfl

theorem draw_count (chosen : Entry → Bool) (fair : Fair weight entries) :
    (List.range (total weight entries).toNat).countP (fun step : Nat => (draw weight (acc + step) acc entries).any chosen) =
      (total weight (entries.filter chosen)).toNat := by
  induction entries generalizing acc with
  | nil => rfl
  | cons first others ih =>
      obtain ⟨positive, fairOthers⟩ := List.forall_mem_cons.mp fair
      have behind := total_nonneg weight others fairOthers
      have kept := total_nonneg weight (others.filter chosen) (fun entry member => fairOthers entry (List.mem_of_mem_filter member))
      have size : (total weight (first :: others)).toNat = (weight first).toNat + (total weight others).toNat := by
        rw [total_cons, Int.toNat_add positive behind]
      -- The rolls below the first weight draw the first entry, the others draw from the rest.
      have early : (List.range (weight first).toNat).countP (fun step : Nat => (draw weight (acc + step) acc (first :: others)).any chosen) =
          if chosen first then (weight first).toNat else 0 := by
        have drawn : ∀ step : Nat, step ∈ List.range (weight first).toNat →
            (draw weight (acc + step) acc (first :: others)).any chosen = chosen first := by
          intro step member
          have small := List.mem_range.mp member
          rw [draw, if_pos (by omega), Option.any_some]
        rw [List.countP_congr (fun step member => by rw [drawn step member])]
        cases chosen first <;> simp
      have late : (List.range (total weight others).toNat).countP
          ((fun step : Nat => (draw weight (acc + step) acc (first :: others)).any chosen) ∘ ((weight first).toNat + ·)) =
            (total weight (others.filter chosen)).toNat := by
        rw [← ih (acc + weight first) fairOthers]
        refine List.countP_congr (fun step _ => ?_)
        have place : acc + (((weight first).toNat + step : Nat) : Int) = acc + weight first + step := by omega
        rw [Function.comp_apply, place, draw, if_neg (by omega)]
      rw [size, List.range_add, List.countP_append, List.countP_map, early, late]
      cases picked : chosen first with
      | true => rw [List.filter_cons_of_pos picked, total_cons, Int.toNat_add positive kept, if_pos rfl]
      | false =>
          rw [List.filter_cons_of_neg (by rw [picked]; exact Bool.false_ne_true), if_neg Bool.false_ne_true, Nat.zero_add]

end Drawing

end Weighted
