import MmorpgSimulator.Loaders
import MmorpgSimulator.PartyRuns
import MmorpgSimulator.Library.Weighted

set_option autoImplicit false

namespace MmorpgSimulator

open Scanning

section RollDrop

-- The loop of RollDrop with acc held in an int: none where a sum leaves it, and
-- otherwise the entry at which the loop returns, if it does.
def dropLoop (roll : Int) : Int → List DropEntry → Option (Option DropEntry)
  | _, [] => some none
  | acc, entry :: rest =>
      if fitsInt (acc + entry.weight) then
        if roll < acc + entry.weight then some (some entry) else dropLoop roll (acc + entry.weight) rest
      else none

-- RollDrop on what rand() gives: none where it divides by zero or a sum leaves int.
def rollDropInt (data : GameData) (rand : Nat) : Option UInt16 :=
  if data.dropTable.isEmpty then some 0
  else if data.totalWeight = 0 then none
  else (dropLoop ((rand : Int).tmod data.totalWeight) 0 data.dropTable).map (fun chosen => (chosen.map DropEntry.itemId).getD 0)

example : rollDropInt { emptyData with dropTable := [⟨1, 20⟩, ⟨3, 20⟩, ⟨5, 40⟩], totalWeight := 80 } 32767 = some 5 := by decide

theorem drop_loop_within (roll acc : Int) (table : List DropEntry) :
    dropLoop roll acc table = Weighted.drawWithin DropEntry.weight (fun sum => fitsInt sum) roll acc table := by
  induction table generalizing acc with
  | nil => rfl
  | cons entry rest ih =>
      rw [dropLoop, Weighted.drawWithin, ih]
      simp only [decide_eq_true_eq]

theorem pick_drop_loop (roll acc : Int) (table : List DropEntry) (chosen : Option DropEntry)
    (defined : dropLoop roll acc table = some chosen) : pickDrop roll acc table = (chosen.map DropEntry.itemId).getD 0 := by
  induction table generalizing acc with
  | nil =>
      obtain rfl := Option.some.inj defined
      rfl
  | cons entry rest ih =>
      rw [dropLoop] at defined
      rw [pickDrop]
      split at defined
      · split at defined
        · rename_i inside
          obtain rfl := Option.some.inj defined
          rw [if_pos inside]
          rfl
        · rename_i beyond
          rw [if_neg beyond]
          exact ih (acc + entry.weight) defined
      · exact absurd defined nofun

theorem roll_drop_defined (data : GameData) (s : ServerState) (id : UInt16) (defined : rollDropInt data s.rand = some id) :
    (rollDrop data s).2 = id ∧ (rollDrop data s).1.fault = s.fault := by
  unfold rollDropInt at defined
  unfold rollDrop
  cases empty : data.dropTable.isEmpty with
  | true =>
      rw [if_pos empty] at defined
      exact ⟨Option.some.inj defined, rfl⟩
  | false =>
      rw [empty, if_neg Bool.false_ne_true] at defined
      by_cases zero : data.totalWeight = 0
      · rw [if_pos zero] at defined
        exact absurd defined nofun
      · rw [if_neg zero] at defined
        obtain ⟨chosen, ended, named⟩ := Option.map_eq_some_iff.mp defined
        have picked := pick_drop_loop _ 0 data.dropTable chosen ended
        simp only [if_false, Bool.false_eq_true]
        refine ⟨picked.trans named, ?_⟩
        cases none : s.fault with
        | none => simp [ServerState.fail, ServerState.rolled, none, zero]
        | some reason => simp [ServerState.fail, ServerState.rolled, none]

end RollDrop

section Tables

-- g_dropTable and g_totalWeight as LoadItems leaves them: the total is the sum of
-- the weights, and no running sum is outside of int.
structure Summed (table : List DropEntry × Int) : Prop where
  sum : table.2 = Weighted.total DropEntry.weight table.1
  fits : ∀ front, front <+: table.1 → fitsInt (Weighted.total DropEntry.weight front)

theorem drop_loop_summed (roll : Int) (table : List DropEntry × Int) (summed : Summed table) :
    dropLoop roll 0 table.1 = some (Weighted.draw DropEntry.weight roll 0 table.1) := by
  rw [drop_loop_within]
  refine Weighted.draw_within DropEntry.weight roll 0 table.1 _ (fun front initial => ?_)
  rw [zero_add]
  exact decide_eq_true (summed.fits front initial)

theorem summed_empty : Summed ([], 0) := by
  refine ⟨rfl, fun front initial => ?_⟩
  rw [List.prefix_nil.mp initial]
  decide

theorem read_drop_entry (table next : List DropEntry × Int) (obj : Bytes) (taken : readDrop table obj = some next) :
    ∃ entry : DropEntry, entry.weight = weightOf obj ∧ next = (table.1 ++ [entry], table.2 + entry.weight) ∧ fitsInt next.2 := by
  simp only [readDrop, Option.bind_eq_bind, Option.bind_eq_some_iff, Option.ite_none_right_eq_some, Option.some.injEq] at taken
  obtain ⟨itemId, _, weight, named, fits, rfl⟩ := taken
  exact ⟨⟨UInt16.ofInt itemId, weight⟩, by rw [weightOf, named]; rfl, rfl, fits⟩

theorem read_drop_summed (table : List DropEntry × Int) (obj : Bytes) (next : List DropEntry × Int) (taken : readDrop table obj = some next)
    (summed : Summed table) : Summed next := by
  obtain ⟨entry, _, rfl, fits⟩ := read_drop_entry table next obj taken
  have grown : Weighted.total DropEntry.weight (table.1 ++ [entry]) = table.2 + entry.weight := by
    rw [Weighted.total_append, Weighted.total_cons, ← summed.sum]
    simp [Weighted.total]
  refine ⟨grown.symm, fun front initial => ?_⟩
  rcases List.prefix_concat_iff.mp initial with rfl | shorter
  · rw [grown]
    exact fits
  · exact summed.fits front shorter

theorem drops_fold_weights (all : List Bytes) (table result : List DropEntry × Int) (folded : all.foldlM readDrop table = some result) :
    result.1.map DropEntry.weight = table.1.map DropEntry.weight ++ all.map weightOf := by
  induction all generalizing table with
  | nil =>
      obtain rfl := Option.some.inj folded
      simp
  | cons obj rest ih =>
      rw [List.foldlM_cons] at folded
      obtain ⟨next, taken, later⟩ := Option.bind_eq_some_iff.mp folded
      obtain ⟨entry, weight, rfl, _⟩ := read_drop_entry table next obj taken
      rw [ih _ later, List.map_append, List.map_singleton, weight, List.map_cons, List.append_assoc, List.singleton_append]

end Tables

def DropsWeigh (json : Bytes) : Prop :=
  ∀ drops ∈ dropArray json, objects openBrace closeBrace drops = [] ∨ ((objects openBrace closeBrace drops).map weightOf).sum ≠ 0

section Loaded

variable (json : Bytes) (fuel : Nat) (loaded : LoadedItems) (returned : loadItems fuel json = some (.returned loaded))

include returned

theorem loaded_drops : (dropArray json = none ∧ loaded.dropTable = [] ∧ loaded.totalWeight = 0) ∨
    ∃ drops, dropArray json = some drops ∧
      (objects openBrace closeBrace drops).foldlM readDrop ([], 0) = some (loaded.dropTable, loaded.totalWeight) := by
  obtain ⟨items, _, rest⟩ := and_then_returned _ _ _ returned
  cases named : findText (quoted "dropTable") json with
  | none =>
      rw [named] at rest
      obtain rfl := Ending.returned.inj (Option.some.inj rest)
      exact .inl ⟨by rw [dropArray, named]; rfl, rfl, rfl⟩
  | some key =>
      rw [named] at rest
      obtain ⟨table, loop, last⟩ := and_then_returned _ _ _ rest
      obtain rfl := Ending.returned.inj (Option.some.inj last)
      cases present : dropArray json with
      | none =>
          rw [present] at loop
          exact absurd loop (by simp [loadArray])
      | some drops =>
          rw [present] at loop
          exact .inr ⟨drops, rfl, (load_array_returned readDrop ([], 0) drops fuel table loop).2⟩

theorem loaded_summed : Summed (loaded.dropTable, loaded.totalWeight) := by
  rcases loaded_drops json fuel loaded returned with ⟨_, empty, zero⟩ | ⟨drops, _, folded⟩
  · rw [empty, zero]
    exact summed_empty
  · exact fold_keeps readDrop Summed read_drop_summed ([], 0) _ _ folded summed_empty

theorem loaded_weigh_iff : loaded.dropTable = [] ∨ loaded.totalWeight ≠ 0 ↔ DropsWeigh json := by
  have summed := (loaded_summed json fuel loaded returned).sum
  rcases loaded_drops json fuel loaded returned with ⟨absent, empty, zero⟩ | ⟨drops, present, folded⟩
  · refine iff_of_true (.inl empty) (fun drops member => ?_)
    rw [absent] at member
    exact absurd member nofun
  · have weights := drops_fold_weights _ _ _ folded
    rw [List.map_nil, List.nil_append] at weights
    have none_ : loaded.dropTable = [] ↔ objects openBrace closeBrace drops = [] := by
      rw [← List.map_eq_nil_iff (f := DropEntry.weight), ← List.map_eq_nil_iff (f := weightOf)]
      exact Eq.congr_left weights
    have sums : loaded.totalWeight = ((objects openBrace closeBrace drops).map weightOf).sum := summed.trans (congrArg List.sum weights)
    rw [DropsWeigh, present, none_, sums]
    simp

end Loaded

structure DropTable where
  entries : List DropEntry
  fair : Weighted.Fair DropEntry.weight entries
  positive : 0 < Weighted.total DropEntry.weight entries
  fits : fitsInt (Weighted.total DropEntry.weight entries)

namespace DropTable

variable (table : DropTable)

def sum : Int := Weighted.total DropEntry.weight table.entries

def inside (data : GameData) : GameData := { data with dropTable := table.entries, totalWeight := table.sum }

theorem summed : Summed (table.entries, table.sum) := by
  refine ⟨rfl, fun front initial => ?_⟩
  obtain ⟨low, high⟩ := Weighted.total_initial DropEntry.weight front table.entries initial table.fair
  have most := table.fits.2
  constructor
  · omega
  · omega

theorem some_entries : table.entries.isEmpty = false := by
  cases shape : table.entries with
  | nil =>
      have positive := table.positive
      rw [shape] at positive
      exact absurd positive (Int.lt_irrefl 0)
  | cons entry rest => rfl

variable (data : GameData) (rand : Nat)

theorem roll_drop_draw : rollDropInt (table.inside data) rand =
    some (((Weighted.draw DropEntry.weight ((rand : Int).tmod table.sum) 0 table.entries).map DropEntry.itemId).getD 0) := by
  have other : (table.inside data).totalWeight ≠ 0 := ne_of_gt table.positive
  rw [rollDropInt, if_neg other]
  change (if table.entries.isEmpty then some 0 else
    (dropLoop ((rand : Int).tmod table.sum) 0 table.entries).map (fun chosen => (chosen.map DropEntry.itemId).getD 0)) = _
  rw [table.some_entries, if_neg Bool.false_ne_true, drop_loop_summed _ _ table.summed, Option.map_some]

theorem residue : (rand : Int).tmod table.sum = (rand % table.sum.toNat : Nat) ∧ rand % table.sum.toNat < table.sum.toNat := by
  have positive : 0 < table.sum := table.positive
  have same : (table.sum.toNat : Int) = table.sum := Int.toNat_of_nonneg positive.le
  refine ⟨?_, Nat.mod_lt _ (by omega)⟩
  rw [Int.tmod_eq_emod_of_nonneg (Int.natCast_nonneg rand), Int.natCast_emod, same]

theorem residue_drawn (residue : Nat) (small : residue < table.sum.toNat) :
    ∃ entry ∈ table.entries, 0 < entry.weight ∧ Weighted.draw DropEntry.weight residue 0 table.entries = some entry := by
  have below : (residue : Int) < 0 + Weighted.total DropEntry.weight table.entries := by
    change (residue : Int) < 0 + table.sum
    omega
  obtain ⟨entry, drawn⟩ := Weighted.draw_some DropEntry.weight residue 0 table.entries below (Int.natCast_nonneg residue)
  obtain ⟨listed, positive⟩ := Weighted.draw_positive DropEntry.weight residue 0 table.entries entry (Int.natCast_nonneg residue) drawn
  exact ⟨entry, listed, positive, drawn⟩

theorem roll_drop_residue : rollDropInt (table.inside data) rand = rollDropInt (table.inside data) (rand % table.sum.toNat) := by
  rw [roll_drop_draw, roll_drop_draw, (table.residue rand).1, (table.residue (rand % table.sum.toNat)).1, Nat.mod_mod]

theorem roll_drop_chosen : ∃ entry ∈ table.entries, 0 < entry.weight ∧
    dropLoop ((rand : Int).tmod table.sum) 0 table.entries = some (some entry) ∧
    rollDropInt (table.inside data) rand = some entry.itemId := by
  obtain ⟨same, small⟩ := table.residue rand
  obtain ⟨entry, listed, positive, drawn⟩ := table.residue_drawn _ small
  rw [← same] at drawn
  refine ⟨entry, listed, positive, ?_, ?_⟩
  · rw [drop_loop_summed _ _ table.summed, drawn]
  · rw [roll_drop_draw, drawn]
    rfl

theorem roll_drop_count (id : UInt16) :
    ((List.range table.sum.toNat).countP (fun residue => rollDropInt (table.inside data) residue = some id) : Int) =
      Weighted.total DropEntry.weight (table.entries.filter (fun entry => entry.itemId = id)) := by
  have counted := Weighted.draw_count DropEntry.weight 0 table.entries (fun entry => entry.itemId = id) table.fair
  have kept := Weighted.total_nonneg DropEntry.weight (table.entries.filter (fun entry => entry.itemId = id))
    (fun entry member => table.fair entry (List.mem_of_mem_filter member))
  have each : ∀ residue ∈ List.range table.sum.toNat, (decide (rollDropInt (table.inside data) residue = some id) = true ↔
      (Weighted.draw DropEntry.weight (0 + (residue : Int)) 0 table.entries).any (fun entry => entry.itemId = id) = true) := by
    intro residue member
    have small := List.mem_range.mp member
    obtain ⟨entry, _, _, drawn⟩ := table.residue_drawn residue small
    have same : (residue : Int).tmod table.sum = residue := by rw [(table.residue residue).1, Nat.mod_eq_of_lt small]
    rw [roll_drop_draw, same, zero_add, drawn]
    simp
  rw [List.countP_congr each]
  exact (congrArg Nat.cast counted).trans (Int.toNat_of_nonneg kept)

end DropTable

-- Drops follow their weights: every roll ends the loop at an entry with a weight, and
-- of the residues each item id gets as many as its entries weigh together.
theorem drops_follow_weights :
    (∀ json fuel loaded, loadItems fuel json = some (.returned loaded) → Summed (loaded.dropTable, loaded.totalWeight)) ∧
    ∀ (table : DropTable) (data : GameData),
      (∀ s : ServerState, ∃ entry ∈ table.entries, 0 < entry.weight ∧
        dropLoop ((s.rand : Int).tmod table.sum) 0 table.entries = some (some entry) ∧
        rollDropInt (table.inside data) s.rand = some entry.itemId ∧
        (rollDrop (table.inside data) s).2 = entry.itemId ∧ (rollDrop (table.inside data) s).1.fault = s.fault) ∧
      (∀ rand, rollDropInt (table.inside data) rand = rollDropInt (table.inside data) (rand % table.sum.toNat)) ∧
      ∀ id, ((List.range table.sum.toNat).countP (fun residue => rollDropInt (table.inside data) residue = some id) : Int) =
        Weighted.total DropEntry.weight (table.entries.filter (fun entry => entry.itemId = id)) := by
  refine ⟨fun json fuel loaded returned => loaded_summed json fuel loaded returned, fun table data => ⟨fun s => ?_, ?_, ?_⟩⟩
  · obtain ⟨entry, listed, positive, ended, defined⟩ := table.roll_drop_chosen data s.rand
    exact ⟨entry, listed, positive, ended, defined, roll_drop_defined _ s entry.itemId defined⟩
  · exact table.roll_drop_residue data
  · exact table.roll_drop_count data

-- The table of data/items.json.
def shippedTable : DropTable where
  entries := [⟨1, 20⟩, ⟨3, 20⟩, ⟨5, 40⟩]
  fair := show ∀ drop ∈ _, 0 ≤ DropEntry.weight drop by decide
  positive := by decide
  fits := by decide

theorem shipped_drops :
    shippedTable.sum = 80 ∧ ∀ drop ∈ shippedTable.entries,
      ((List.range 80).countP (fun residue => rollDropInt (shippedTable.inside emptyData) residue = some drop.itemId) : Int) = drop.weight := by
  obtain ⟨_, follows⟩ := drops_follow_weights
  have counted (id : UInt16) := (follows shippedTable emptyData).2.2 id
  refine ⟨by decide, fun drop listed => (counted drop.itemId).trans ?_⟩
  revert drop
  decide

section Safety

def GameData.withItems (data : GameData) (loaded : LoadedItems) : GameData :=
  { data with items := loaded.items, dropTable := loaded.dropTable, totalWeight := loaded.totalWeight }

variable (data : GameData) (s : ServerState)

structure DropsWell : Prop where
  defined : rollDropInt data s.rand = some (rollDrop data s).2
  alive : (rollDrop data s).1.fault = s.fault
  found : (rollDrop data s).2 = 0 ∨ ∃ entry ∈ data.dropTable, 0 < entry.weight ∧ (rollDrop data s).2 = entry.itemId

theorem drops_well_of_defined (id : UInt16) (defined : rollDropInt data s.rand = some id)
    (found : id = 0 ∨ ∃ entry ∈ data.dropTable, 0 < entry.weight ∧ id = entry.itemId) : DropsWell data s := by
  obtain ⟨same, alive⟩ := roll_drop_defined data s id defined
  exact ⟨by rw [same]; exact defined, alive, by rw [same]; exact found⟩

theorem roll_drop_summed (summed : Summed (data.dropTable, data.totalWeight)) (rand : Nat) (other : data.totalWeight ≠ 0) :
    ∃ id, rollDropInt data rand = some id ∧ (id = 0 ∨ ∃ entry ∈ data.dropTable, 0 < entry.weight ∧ id = entry.itemId) := by
  have roll : 0 ≤ (rand : Int).tmod data.totalWeight := Int.tmod_nonneg _ (Int.natCast_nonneg rand)
  have ended := drop_loop_summed ((rand : Int).tmod data.totalWeight) _ summed
  unfold rollDropInt
  cases empty : data.dropTable.isEmpty with
  | true => exact ⟨0, rfl, .inl rfl⟩
  | false =>
      rw [if_neg Bool.false_ne_true, if_neg other, ended]
      cases drawn : Weighted.draw DropEntry.weight ((rand : Int).tmod data.totalWeight) 0 data.dropTable with
      | none => exact ⟨0, rfl, .inl rfl⟩
      | some entry =>
          obtain ⟨listed, positive⟩ := Weighted.draw_positive DropEntry.weight _ 0 data.dropTable entry roll drawn
          exact ⟨entry.itemId, rfl, .inr ⟨entry, listed, positive, rfl⟩⟩

theorem drops_well_iff (summed : Summed (data.dropTable, data.totalWeight)) :
    DropsWell data s ↔ data.dropTable = [] ∨ data.totalWeight ≠ 0 := by
  constructor
  · intro well
    by_contra neither
    obtain ⟨some_, zero⟩ := not_or.mp neither
    have defined := well.defined
    rw [rollDropInt, if_neg (by simpa using some_), if_pos (not_not.mp zero)] at defined
    exact absurd defined nofun
  · rintro (empty | other)
    · have defined : rollDropInt data s.rand = some 0 := by rw [rollDropInt, empty]; rfl
      exact drops_well_of_defined data s 0 defined (.inl rfl)
    · obtain ⟨id, defined, found⟩ := roll_drop_summed data summed s.rand other
      exact drops_well_of_defined data s id defined found

end Safety

theorem accepted_drops_safe_iff (json : Bytes) (fuel : Nat) (loaded : LoadedItems) (returned : loadItems fuel json = some (.returned loaded))
    (data : GameData) (s : ServerState) : DropsWell (data.withItems loaded) s ↔ DropsWeigh json :=
  (drops_well_iff (data.withItems loaded) s (loaded_summed json fuel loaded returned)).trans (loaded_weigh_iff json fuel loaded returned)

-- A negative weight outweighs the other one: the total is -2.
def debtFile : Bytes :=
  text "\x7b\"items\": [\x7b\"id\": 1\x7d], \"dropTable\": [\x7b\"itemId\": 1, \"weight\": 1\x7d, \x7b\"itemId\": 1, \"weight\": -3\x7d]\x7d"

def debtItems : LoadedItems := ⟨[{ id := 1, name := [], type := [] }], [⟨1, 1⟩, ⟨1, -3⟩], -2⟩

theorem debt_loads : loadItems 3 debtFile = some (.returned debtItems) := by decide +kernel

theorem debt_drops_well : DropsWell (emptyData.withItems debtItems) (boot twoCharacters (fun _ => 0)) := by
  have weigh : DropsWeigh debtFile := (loaded_weigh_iff debtFile 3 debtItems debt_loads).mp (.inr (by decide))
  exact (accepted_drops_safe_iff debtFile 3 debtItems debt_loads emptyData (boot twoCharacters (fun _ => 0))).mpr weigh

def weightlessFile : Bytes :=
  text "\x7b\"items\": [\x7b\"id\": 1, \"name\": \"Axe\"\x7d], \"dropTable\": [\x7b\"itemId\": 1\x7d]\x7d"

def weightlessItems : LoadedItems := ⟨[{ id := 1, name := text "Axe", type := [] }], [⟨1, 0⟩], 0⟩

theorem weightless_drop_kills :
    loadItems 2 weightlessFile = some (.returned weightlessItems) ∧ weightlessItems.items ≠ [] ∧
      (rollDrop (emptyData.withItems weightlessItems) (boot twoCharacters (fun _ => 0))).1.fault = some .moduloByZero ∧
      ¬ DropsWell (emptyData.withItems weightlessItems) (boot twoCharacters (fun _ => 0)) := by
  refine ⟨by decide +kernel, List.cons_ne_nil _ _, rfl, fun well => ?_⟩
  exact absurd well.defined nofun

end MmorpgSimulator
