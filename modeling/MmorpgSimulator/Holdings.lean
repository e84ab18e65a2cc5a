import MmorpgSimulator.Ledger
import MmorpgSimulator.Selections

set_option autoImplicit false

namespace MmorpgSimulator

namespace Inventory

def HoldsUid (inv : Inventory) (uid : ItemUid) : Prop := uid ≠ 0 ∧ uid ∈ inv.cells.map InvSlot.itemUid

instance (inv : Inventory) : DecidablePred inv.HoldsUid := fun _ => inferInstanceAs (Decidable (_ ∧ _))

theorem empty_holds_none (uid : ItemUid) : ¬ ({} : Inventory).HoldsUid uid := by
  rintro ⟨positive, listed⟩
  have blank : ∀ other ∈ ({} : Inventory).cells.map InvSlot.itemUid, other = 0 := by decide
  exact positive (blank uid listed)

theorem slot_uid (inv : Inventory) (index : Nat) (uid : ItemUid) (positive : uid ≠ 0) (same : (inv.slot index).itemUid = uid) :
    inv.HoldsUid uid := by
  refine ⟨positive, ?_⟩
  by_cases bound : index < inv.slots.toList.length
  · rw [slot_get inv index bound] at same
    exact List.mem_map.mpr ⟨_, List.mem_append_left _ (List.getElem_mem bound), same⟩
  · have outside : ¬ index < maxInventory := by rwa [slot_count] at bound
    have blank : inv.slot index = {} := by simp [slot, outside]
    rw [blank] at same
    exact absurd same.symm positive

theorem set_slot_holds (inv : Inventory) (index : Nat) (pair : InvSlot) (uid : ItemUid) (holds : (inv.setSlot index pair).HoldsUid uid) :
    inv.HoldsUid uid ∨ uid = pair.itemUid := by
  obtain ⟨positive, listed⟩ := holds
  obtain ⟨cell, member, same⟩ := List.mem_map.mp listed
  rcases List.mem_append.mp member with slotted | worn
  · have written : (inv.setSlot index pair).slots.toList = inv.slots.toList.set index pair := by simp [setSlot]
    rw [written] at slotted
    rcases List.mem_or_eq_of_mem_set slotted with old | fresh
    · exact .inl ⟨positive, List.mem_map.mpr ⟨cell, List.mem_append_left _ old, same⟩⟩
    · exact .inr (by rw [← same, fresh])
  · exact .inl ⟨positive, List.mem_map.mpr ⟨cell, List.mem_append_right _ worn, same⟩⟩

theorem set_weapon_holds (inv : Inventory) (pair : InvSlot) (uid : ItemUid) (holds : (inv.setWeapon pair).HoldsUid uid) :
    inv.HoldsUid uid ∨ uid = pair.itemUid := by
  obtain ⟨positive, listed⟩ := holds
  simp only [cells, List.map_append, List.mem_append, List.map_cons, List.mem_cons, List.map_nil, List.not_mem_nil, or_false] at listed
  rcases listed with slotted | weapon | armor
  · exact .inl ⟨positive, by simp only [cells, List.map_append, List.mem_append]; exact .inl slotted⟩
  · exact .inr weapon
  · exact .inl ⟨positive, by simp only [cells, List.map_append, List.mem_append]; exact .inr (by rw [armor]; exact List.mem_cons_of_mem _ List.mem_cons_self)⟩

theorem set_armor_holds (inv : Inventory) (pair : InvSlot) (uid : ItemUid) (holds : (inv.setArmor pair).HoldsUid uid) :
    inv.HoldsUid uid ∨ uid = pair.itemUid := by
  obtain ⟨positive, listed⟩ := holds
  simp only [cells, List.map_append, List.mem_append, List.map_cons, List.mem_cons, List.map_nil, List.not_mem_nil, or_false] at listed
  rcases listed with slotted | weapon | armor
  · exact .inl ⟨positive, by simp only [cells, List.map_append, List.mem_append]; exact .inl slotted⟩
  · exact .inl ⟨positive, by simp only [cells, List.map_append, List.mem_append]; exact .inr (by rw [weapon]; exact List.mem_cons_self)⟩
  · exact .inr armor

theorem weapon_uid (inv : Inventory) (uid : ItemUid) (positive : uid ≠ 0) (same : uid = inv.weapon.itemUid) : inv.HoldsUid uid :=
  ⟨positive, by rw [same]; exact List.mem_map_of_mem (List.mem_append_right _ List.mem_cons_self)⟩

theorem armor_uid (inv : Inventory) (uid : ItemUid) (positive : uid ≠ 0) (same : uid = inv.armor.itemUid) : inv.HoldsUid uid :=
  ⟨positive, by rw [same]; exact List.mem_map_of_mem (List.mem_append_right _ (List.mem_cons_of_mem _ List.mem_cons_self))⟩

theorem equipped_holds (inv : Inventory) (slot : Nat) (item : ItemData) (uid : ItemUid)
    (holds : (equippedInventory inv slot item).HoldsUid uid) : inv.HoldsUid uid := by
  have positive := holds.1
  rw [equippedInventory] at holds
  split at holds
  · rcases set_weapon_holds _ _ _ holds with laid | chosen
    · rcases set_slot_holds _ _ _ _ laid with kept | weapon
      · exact kept
      · exact weapon_uid inv uid positive weapon
    · exact slot_uid inv slot uid positive chosen.symm
  · rcases set_armor_holds _ _ _ holds with laid | chosen
    · rcases set_slot_holds _ _ _ _ laid with kept | armor
      · exact kept
      · exact armor_uid inv uid positive armor
    · exact slot_uid inv slot uid positive chosen.symm

end Inventory

section Loading

-- The rows LoadInventory makes use of: the first live ones and the two equipment rows.
def Database.loadedRows (db : Database) (charUid : CharUid) : List InventoryRow :=
  (db.liveRows charUid).take maxInventory ++ ((db.equipped charUid 0).toList ++ (db.equipped charUid 1).toList)

def placedCell (row : Option InventoryRow) : InvSlot := (row.map (fun row => ⟨row.itemUid, row.itemTid⟩)).getD {}

theorem placed_uid (row : Option InventoryRow) (uid : ItemUid) (positive : uid ≠ 0) :
    (placedCell row).itemUid = uid ↔ ∃ found, row = some found ∧ found.itemUid = uid := by
  cases row with
  | none => exact ⟨fun same => absurd same.symm positive, nofun⟩
  | some found => exact ⟨fun same => ⟨found, rfl, same⟩, fun ⟨_, same, value⟩ => by rw [← value, ← Option.some.inj same]; rfl⟩

theorem loaded_cells (items : List InventoryRow) (equipment : Nat → Option InventoryRow) :
    (loadedInventory items equipment).cells =
      List.ofFn (fun index : Fin maxInventory => placedCell items[index.val]?) ++ [placedCell (equipment 0), placedCell (equipment 1)] := by
  have slots : (loadedInventory items equipment).slots = Vector.ofFn (fun index : Fin maxInventory => placedCell items[index.val]?) := rfl
  rw [Inventory.cells, slots, Vector.toList_ofFn]
  rfl

theorem placed_contents (count : Nat) (items : List InventoryRow) :
    Cells.contents InvSlot.Holds (List.ofFn (fun index : Fin count => placedCell items[index.val]?)) =
      Cells.contents InvSlot.Holds ((items.take count).map (fun row => placedCell (some row))) := by
  induction count generalizing items with
  | zero => simp
  | succ count ih =>
      rw [List.ofFn_succ, Cells.contents_cons]
      cases items with
      | nil =>
          have rest := ih []
          simp only [List.take_nil, List.map_nil, List.getElem?_nil] at rest ⊢
          have blank : ¬ InvSlot.Holds (placedCell none) := fun full => full rfl
          rw [rest, Cells.single_empty _ _ blank, zero_add]
      | cons row items =>
          rw [List.take_succ_cons, List.map_cons, Cells.contents_cons, ← ih items]
          rfl

theorem loaded_owned (items : List InventoryRow) (equipment : Nat → Option InventoryRow) :
    (loadedInventory items equipment).owned =
      Cells.contents InvSlot.Holds ((items.take maxInventory).map (fun row => placedCell (some row))) +
        (Cells.single InvSlot.Holds (placedCell (equipment 0)) + Cells.single InvSlot.Holds (placedCell (equipment 1))) := by
  rw [Inventory.owned, loaded_cells, Cells.contents_append, placed_contents, Cells.contents_cons, Cells.contents_cons, Cells.contents_nil,
    add_zero]

theorem mem_take_iff (rows : List InventoryRow) (count : Nat) (row : InventoryRow) :
    row ∈ rows.take count ↔ ∃ index, index < count ∧ rows[index]? = some row := by
  simp only [List.mem_iff_getElem?, List.getElem?_take, Option.ite_none_right_eq_some]

theorem loaded_holds (db : Database) (charUid : CharUid) (uid : ItemUid) :
    (loadedInventory (db.liveRows charUid) (db.equipped charUid)).HoldsUid uid ↔
      uid ≠ 0 ∧ ∃ row ∈ db.loadedRows charUid, row.itemUid = uid := by
  rw [Inventory.HoldsUid, loaded_cells]
  refine and_congr_right (fun positive => ?_)
  simp only [List.map_append, List.mem_append, List.map_cons, List.map_nil, List.mem_cons, List.not_mem_nil, or_false,
    Database.loadedRows, Option.mem_toList, or_and_right, exists_or]
  refine or_congr ?_ (or_congr ?_ ?_)
  · rw [List.mem_map]
    constructor
    · rintro ⟨cell, listed, same⟩
      obtain ⟨index, rfl⟩ := List.mem_ofFn.mp listed
      obtain ⟨row, found, value⟩ := (placed_uid _ uid positive).mp same
      exact ⟨row, (mem_take_iff _ _ _).mpr ⟨index.val, index.isLt, found⟩, value⟩
    · rintro ⟨row, listed, value⟩
      obtain ⟨index, bound, found⟩ := (mem_take_iff _ _ _).mp listed
      exact ⟨_, List.mem_ofFn.mpr ⟨⟨index, bound⟩, rfl⟩, (placed_uid _ uid positive).mpr ⟨row, found, value⟩⟩
  · rw [eq_comm, placed_uid _ uid positive]
  · rw [eq_comm, placed_uid _ uid positive]

theorem loaded_row_issued (db : Database) (charUid : CharUid) (row : InventoryRow) (read : row ∈ db.loadedRows charUid) :
    row.itemUid < db.inventory.nextUid := by
  have stored : row ∈ db.inventory.rows := by
    rcases List.mem_append.mp read with live | worn
    · exact List.mem_of_mem_filter (List.mem_of_mem_take live)
    · have found (slot : Nat) (equipped : db.equipped charUid slot = some row) : row ∈ db.inventory.rows := by
        obtain ⟨_, _, joined⟩ := Option.bind_eq_some_iff.mp equipped
        exact List.mem_of_find?_eq_some joined
      rcases List.mem_append.mp worn with weapon | armor
      · exact found 0 (Option.mem_toList.mp weapon)
      · exact found 1 (Option.mem_toList.mp armor)
  exact (db.inventory.issued row stored).2

end Loading

section Taking

-- What a request can do to the items held: the session may come to hold uids that
-- the database has issued meanwhile, the others' items stay as they are.
structure Takes (sid : SessionId) (s t : ServerState) : Prop where
  here : ∀ other, other ∈ s.sessions → other ∈ t.sessions
  next : s.db.inventory.nextUid ≤ t.db.inventory.nextUid
  own : ∀ uid, (t.inventory sid).HoldsUid uid →
    (s.inventory sid).HoldsUid uid ∨ s.db.inventory.nextUid ≤ uid ∧ uid < t.db.inventory.nextUid
  others : ∀ other, other ≠ sid → t.inventory other = s.inventory other

variable (sid : SessionId)

theorem takes_trans {s t u : ServerState} (first : Takes sid s t) (second : Takes sid t u) : Takes sid s u where
  here := fun other present => second.here other (first.here other present)
  next := first.next.trans second.next
  own := by
    intro uid holds
    rcases second.own uid holds with before | ⟨above, below⟩
    · rcases first.own uid before with earlier | ⟨above, below⟩
      · exact .inl earlier
      · exact .inr ⟨above, below.trans_le second.next⟩
    · exact .inr ⟨first.next.trans above, below⟩
  others := fun other apart => (second.others other apart).trans (first.others other apart)

theorem takes_nothing (s t : ServerState) (here : ∀ other, other ∈ s.sessions → other ∈ t.sessions)
    (next : t.db.inventory.nextUid = s.db.inventory.nextUid) (same : ∀ other, t.inventory other = s.inventory other) : Takes sid s t where
  here := here
  next := next.symm.le
  own := fun _ holds => .inl (same sid ▸ holds)
  others := fun other _ => same other

theorem takes_frame : Frame (Takes sid) where
  trans := takes_trans sid
  idle := fun idle => takes_nothing sid _ _ idle.here (by rw [idle.db]) idle.inventories
  profile := fun s owner player _ => takes_nothing sid _ _ (fun other => (mem_set_player s owner other player).mpr) rfl (fun _ => rfl)
  call := fun s _ proc keeps => takes_nothing sid _ _ (fun _ => id)
    (congrArg InventoryTable.nextUid (proc_db_keeps s proc Database.inventory keeps.inventory)) (fun _ => rfl)

theorem takes_set_inventory (s : ServerState) (inv : Inventory) (less : ∀ uid, inv.HoldsUid uid → (s.inventory sid).HoldsUid uid) :
    Takes sid s (s.setInventory sid inv) where
  here := fun _ => id
  next := le_refl _
  own := by
    intro uid holds
    rw [inventory_set_self] at holds
    exact .inl (less uid holds)
  others := fun other apart => inventory_set_other s sid other inv apart

theorem add_item_uid (s : ServerState) (charUid : CharUid) (itemTid : UInt16) :
    s.db.inventory.nextUid ≤ (addItemToDb s charUid itemTid).1.db.inventory.nextUid ∧
      ((addItemToDb s charUid itemTid).2 ≠ 0 → (addItemToDb s charUid itemTid).2 = s.db.inventory.nextUid ∧
        s.db.inventory.nextUid < (addItemToDb s charUid itemTid).1.db.inventory.nextUid) := by
  simp only [addItemToDb, ServerState.executeProc, ServerState.procDb, ServerState.procReply]
  cases s.outcome with
  | ok => exact ⟨Nat.le_succ _, fun _ => ⟨rfl, Nat.lt_succ_self _⟩⟩
  | noRow => exact ⟨Nat.le_succ _, fun positive => absurd rfl positive⟩
  | lost => exact ⟨Nat.le_succ _, fun positive => absurd rfl positive⟩
  | failed => exact ⟨le_refl _, fun positive => absurd rfl positive⟩

theorem takes_fills : Fills (Takes sid) sid where
  fill := by
    intro s slot charUid itemTid
    obtain ⟨grows, fresh⟩ := add_item_uid s charUid itemTid
    refine ⟨fun _ => id, grows, fun uid holds => ?_, fun other apart => inventory_set_other _ sid other _ apart⟩
    rw [inventory_set_self] at holds
    rcases Inventory.set_slot_holds _ _ _ uid holds with kept | rfl
    · exact .inl kept
    · obtain ⟨value, below⟩ := fresh holds.1
      exact .inr ⟨value.symm.le, value ▸ below⟩
  clear := by
    intro s slot
    refine takes_set_inventory sid s _ (fun uid holds => ?_)
    rcases Inventory.set_slot_holds _ _ _ uid holds with kept | blank
    · exact kept
    · exact absurd blank holds.1
  remove := fun s itemUid => takes_nothing sid _ _ (fun _ => id)
    (proc_db_keeps s _ (fun db => db.inventory.nextUid) (fun db result called => by obtain rfl := Option.some.inj called; rfl)) (fun _ => rfl)

theorem takes_wears : Wears (Takes sid) sid where
  swap := fun s slot item => takes_set_inventory sid s _ (Inventory.equipped_holds _ slot item)
  stats := fun s player _ => takes_nothing sid _ _ (fun other => (mem_set_player s sid other player).mpr) rfl (fun _ => rfl)
  equip := fun s charUid slot itemUid => takes_nothing sid _ _ (fun _ => id)
    (proc_db_keeps s _ (fun db => db.inventory.nextUid) (fun db result called => by obtain rfl := Option.some.inj called; rfl)) (fun _ => rfl)

theorem takes_logs : Logs (Takes sid) where
  note := fun s owner qp => takes_nothing sid _ _ (fun _ => id) rfl (fun _ => rfl)
  save := fun s charUid questId state => takes_nothing sid _ _ (fun _ => id)
    (proc_db_keeps s _ (fun db => db.inventory.nextUid) (fun db result called => by obtain rfl := Option.some.inj called; rfl)) (fun _ => rfl)

theorem takes_grows : Grows (Takes sid) (fun _ => Takes sid) :=
  grows_of_progress (takes_frame sid) (fun s owner player _ =>
    takes_nothing sid _ _ (fun other => (mem_set_player s owner other player).mpr) rfl (fun _ => rfl))

end Taking

section Exclusive

variable (data : GameData)

structure Holdings (s : ServerState) : Prop where
  issued : ∀ sid uid, (s.inventory sid).HoldsUid uid → uid < s.db.inventory.nextUid
  apart : ∀ first second uid, first ≠ second → (s.inventory first).HoldsUid uid → ¬ (s.inventory second).HoldsUid uid
  absent : ∀ sid, sid ∉ s.sessions → s.inventory sid = {}

def ItemsExclusive (s : ServerState) : Prop :=
  ∀ first ∈ s.sessions, ∀ second ∈ s.sessions, first ≠ second →
    ∀ uid, (s.inventory first).HoldsUid uid → ¬ (s.inventory second).HoldsUid uid

theorem takes_holdings (sid : SessionId) (s t : ServerState) (here : sid ∈ s.sessions) (takes : Takes sid s t) (held : Holdings s) :
    Holdings t where
  issued := by
    intro owner uid holds
    by_cases own : owner = sid
    · subst own
      rcases takes.own uid holds with before | fresh
      · exact (held.issued owner uid before).trans_le takes.next
      · exact fresh.2
    · rw [takes.others owner own] at holds
      exact (held.issued owner uid holds).trans_le takes.next
  apart := by
    have mixed (other : SessionId) (apart : other ≠ sid) (uid : ItemUid) (own : (t.inventory sid).HoldsUid uid)
        (holds : (s.inventory other).HoldsUid uid) : False := by
      rcases takes.own uid own with before | fresh
      · exact held.apart sid other uid (Ne.symm apart) before holds
      · exact absurd (held.issued other uid holds) (Nat.not_lt.mpr fresh.1)
    intro first second uid differ holds holds'
    by_cases one : first = sid
    · subst one
      rw [takes.others second (Ne.symm differ)] at holds'
      exact mixed second (Ne.symm differ) uid holds holds'
    · rw [takes.others first one] at holds
      by_cases two : second = sid
      · subst two
        exact mixed first one uid holds' holds
      · rw [takes.others second two] at holds'
        exact held.apart first second uid differ holds holds'
  absent := by
    intro owner gone
    have before : owner ∉ s.sessions := fun present => gone (takes.here owner present)
    have other : owner ≠ sid := fun same => before (same ▸ here)
    rw [takes.others owner other]
    exact held.absent owner before

def KeepsHoldings (s t : ServerState) : Prop := Holdings s → Holdings t

theorem idle_holdings (s t : ServerState) (here : ∀ other, other ∈ s.sessions → other ∈ t.sessions)
    (next : t.db.inventory.nextUid = s.db.inventory.nextUid) (same : ∀ sid, t.inventory sid = s.inventory sid) : KeepsHoldings s t := by
  intro held
  refine ⟨fun sid uid holds => ?_, fun first second uid differ holds => ?_, fun sid gone => ?_⟩
  · rw [same] at holds
    rw [next]
    exact held.issued sid uid holds
  · rw [same] at holds ⊢
    exact held.apart first second uid differ holds
  · rw [same]
    exact held.absent sid (fun present => gone (here sid present))

theorem holdings_frame : Frame KeepsHoldings where
  trans := fun first second held => second (first held)
  idle := fun idle => idle_holdings _ _ idle.here (by rw [idle.db]) idle.inventories
  profile := fun s owner player _ => idle_holdings _ _ (fun other => (mem_set_player s owner other player).mpr) rfl (fun _ => rfl)
  call := fun s _ proc keeps => idle_holdings _ _ (fun _ => id)
    (congrArg InventoryTable.nextUid (proc_db_keeps s proc Database.inventory keeps.inventory)) (fun _ => rfl)

theorem departed_holdings (sid : SessionId) (s t : ServerState) (departed : Departed sid s t) (held : Holdings s) : Holdings t where
  issued := by
    intro owner uid holds
    rw [departed.db]
    by_cases leaver : owner = sid
    · rw [leaver, departed.inventory] at holds
      exact absurd holds (Inventory.empty_holds_none uid)
    · rw [departed.inventories owner leaver] at holds
      exact held.issued owner uid holds
  apart := by
    intro first second uid differ holds holds'
    by_cases one : first = sid
    · rw [one, departed.inventory] at holds
      exact Inventory.empty_holds_none uid holds
    · by_cases two : second = sid
      · rw [two, departed.inventory] at holds'
        exact Inventory.empty_holds_none uid holds'
      · rw [departed.inventories first one] at holds
        rw [departed.inventories second two] at holds'
        exact held.apart first second uid differ holds holds'
  absent := by
    intro owner gone
    by_cases leaver : owner = sid
    · rw [leaver, departed.inventory]
    · rw [departed.inventories owner leaver]
      exact held.absent owner (fun present => gone (departed.here owner leaver present))

theorem step_holdings (s : ServerState) (input : Input) (stays : selecting s input = none) (held : Holdings s) :
    Holdings (step data s input) := by
  refine holdings_frame.step_keeps_of data Holdings (fun _ _ kept => kept) s input stays ?works ?departs
    (fun before => ⟨before.issued, before.apart, before.absent⟩) held
  · intro sid request _ unselected here _ before
    exact takes_holdings sid (facing s input) _ here ((takes_frame sid).handle data (takes_fills sid) (takes_wears sid) (takes_logs sid)
      (takes_grows sid) request unselected) before
  · intro sid _ before
    exact departed_holdings sid _ _ (on_disconnect_departed _ sid) (holdings_frame.idle (idle_set_unconnected _ sid) before)

-- A selection that gets its inventory loads nothing that another session holds.
def loadsUnheld (s : ServerState) (input : Input) : Prop :=
  ∀ sid req row, selecting s input = some (sid, req, row) → inventoryAnswer input = .ok →
    ∀ item ∈ s.db.loadedRows req.charUid, ∀ other ∈ s.sessions, other ≠ sid → ¬ (s.inventory other).HoldsUid item.itemUid

theorem select_holdings (s : ServerState) (input : Input) (sid : SessionId) (req : CsCharSelect) (row : Int32 × Int64 × Int64)
    (selects : selecting s input = some (sid, req, row)) (unheld : loadsUnheld s input) (held : Holdings s) :
    Holdings (step data s input) := by
  obtain ⟨loaded, db, others, members⟩ := select_items data s sid req input row selects
  have here := (step_selecting data s sid req input row selects).1
  have own (uid : ItemUid) (holds : ((step data s input).inventory sid).HoldsUid uid) :
      ∃ item ∈ s.db.loadedRows req.charUid, item.itemUid = uid ∧ inventoryAnswer input = .ok := by
    rw [loaded] at holds
    split at holds
    · rename_i answered
      obtain ⟨_, item, read, same⟩ := (loaded_holds s.db req.charUid uid).mp holds
      exact ⟨item, read, same, answered⟩
    · exact absurd holds (Inventory.empty_holds_none uid)
  have mixed (other : SessionId) (apart : other ≠ sid) (uid : ItemUid) (mine : ((step data s input).inventory sid).HoldsUid uid)
      (holds : (s.inventory other).HoldsUid uid) : False := by
    obtain ⟨item, read, rfl, answered⟩ := own uid mine
    by_cases present : other ∈ s.sessions
    · exact unheld sid req row selects answered item read other present apart holds
    · rw [held.absent other present] at holds
      exact Inventory.empty_holds_none _ holds
  refine ⟨fun owner uid holds => ?_, fun first second uid differ holds holds' => ?_, fun owner gone => ?_⟩
  · rw [db]
    by_cases self : owner = sid
    · subst self
      obtain ⟨item, read, rfl, _⟩ := own uid holds
      exact loaded_row_issued s.db req.charUid item read
    · rw [(others owner self).2] at holds
      exact held.issued owner uid holds
  · by_cases one : first = sid
    · subst one
      rw [(others second (Ne.symm differ)).2] at holds'
      exact mixed second (Ne.symm differ) uid holds holds'
    · rw [(others first one).2] at holds
      by_cases two : second = sid
      · subst two
        exact mixed first one uid holds' holds
      · rw [(others second two).2] at holds'
        exact held.apart first second uid differ holds holds'
  · have before : owner ∉ s.sessions := fun present => gone ((members owner).mpr present)
    have other : owner ≠ sid := by
      rintro rfl
      exact before here
    rw [(others owner other).2]
    exact held.absent owner before

theorem boot_holdings (db : Database) (draw : Nat → Nat) : Holdings (boot db draw) := by
  have nothing (sid : SessionId) : (boot db draw).inventory sid = {} := by simp [ServerState.inventory, boot]
  refine ⟨fun sid uid holds => ?_, fun first second uid _ holds => ?_, fun sid _ => nothing sid⟩
  · rw [nothing] at holds
    exact absurd holds (Inventory.empty_holds_none uid)
  · rw [nothing] at holds
    exact absurd holds (Inventory.empty_holds_none uid)

theorem items_exclusive_iff (db : Database) (draw : Nat → Nat) (inputs : List Input) :
    Machine.Throughout (step data) ItemsExclusive (boot db draw) inputs ↔
      Machine.Guarded (step data) loadsUnheld (boot db draw) inputs := by
  apply Machine.throughout_iff_guarded (step data) loadsUnheld Holdings
  · exact fun s held first _ second _ differ uid => held.apart first second uid differ
  · intro s input held unheld
    cases selects : selecting s input with
    | none => exact step_holdings data s input selects held
    | some selection => exact select_holdings data s input selection.1 selection.2.1 selection.2.2 selects unheld held
  · intro s input held unmet exclusive
    simp only [loadsUnheld, not_forall] at unmet
    obtain ⟨sid, req, row, selects, answered, item, read, other, present, apart, twice⟩ := unmet
    obtain ⟨loaded, _, others, members⟩ := select_items data s sid req input row selects
    rw [if_pos answered] at loaded
    have here := (step_selecting data s sid req input row selects).1
    have both := not_not.mp twice
    have mine : ((step data s input).inventory sid).HoldsUid item.itemUid := by
      rw [loaded]
      exact (loaded_holds s.db req.charUid item.itemUid).mpr ⟨both.1, item, read, rfl⟩
    refine exclusive sid ((members sid).mpr here) other ((members other).mpr present) (Ne.symm apart) item.itemUid mine ?_
    rw [(others other apart).2]
    exact both
  · exact boot_holdings db draw

def sharedLogin : List Input :=
  [⟨.accept, [], []⟩, ⟨.accept, [], []⟩, ⟨.packet 1 (.login ⟨[49]⟩), [], []⟩, ⟨.packet 2 (.login ⟨[49]⟩), [], []⟩,
    ⟨.packet 1 (.charSelect ⟨1⟩), [], []⟩, ⟨.packet 1 (.shopBuy ⟨1⟩), [], []⟩, ⟨.packet 2 (.charSelect ⟨1⟩), [], []⟩]

theorem shared_login_shares_item :
    ¬ Machine.Throughout (step shopData) ItemsExclusive (boot richCharacters (fun _ => 0)) sharedLogin := by
  intro holds
  have exclusive := Machine.throughout_run (step shopData) _ _ sharedLogin [] holds
  have twice : 1 ∈ (Machine.run (step shopData) (boot richCharacters (fun _ => 0)) sharedLogin).sessions ∧
      2 ∈ (Machine.run (step shopData) (boot richCharacters (fun _ => 0)) sharedLogin).sessions ∧
      ((Machine.run (step shopData) (boot richCharacters (fun _ => 0)) sharedLogin).inventory 1).HoldsUid 1 ∧
      ((Machine.run (step shopData) (boot richCharacters (fun _ => 0)) sharedLogin).inventory 2).HoldsUid 1 := by
    decide +kernel
  exact exclusive 1 twice.1 2 twice.2.1 (by decide) 1 twice.2.2.1 twice.2.2.2

end Exclusive

end MmorpgSimulator
