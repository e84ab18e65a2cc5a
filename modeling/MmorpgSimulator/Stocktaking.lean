import MmorpgSimulator.Holdings
import MmorpgSimulator.CombatStats
import MmorpgSimulator.QuestRewards
import MmorpgSimulator.Shop
import MmorpgSimulator.Library.Ascending

set_option autoImplicit false

namespace MmorpgSimulator

section Rows

theorem contents_without (rows : List InventoryRow) (ascending : rows.Pairwise (fun a b => a.itemUid < b.itemUid)) (row : InventoryRow)
    (listed : row ∈ rows) :
    Cells.contents InvSlot.Holds ((rows.filter (fun other => other.itemUid ≠ row.itemUid)).map (fun other => placedCell (some other))) +
      Cells.single InvSlot.Holds (placedCell (some row)) = Cells.contents InvSlot.Holds (rows.map (fun other => placedCell (some other))) := by
  induction rows with
  | nil => exact absurd listed List.not_mem_nil
  | cons head rest ih =>
      obtain ⟨above, later⟩ := List.pairwise_cons.mp ascending
      rcases List.mem_cons.mp listed with rfl | deeper
      · have kept : rest.filter (fun other => other.itemUid ≠ row.itemUid) = rest := by
          refine List.filter_eq_self.mpr (fun other member => ?_)
          simpa using (above other member).ne'
        rw [List.filter_cons_of_neg (by simp), kept, List.map_cons, Cells.contents_cons, add_comm]
      · have apart : head.itemUid ≠ row.itemUid := (above row deeper).ne
        rw [List.filter_cons_of_pos (by simpa using apart), List.map_cons, List.map_cons, Cells.contents_cons, Cells.contents_cons, add_assoc,
          ih later deeper]

namespace Database

def stock (db : Database) (charUid : CharUid) : Multiset InvSlot :=
  Cells.contents InvSlot.Holds ((db.liveRows charUid).map (fun row => placedCell (some row)))

variable (db : Database) (charUid : CharUid)

theorem live_rows_ascending : (db.liveRows charUid).Pairwise (fun a b => a.itemUid < b.itemUid) := db.inventory.ascending.filter _

theorem live_row_stored (row : InventoryRow) (live : row ∈ db.liveRows charUid) : row ∈ db.inventory.rows := List.mem_of_mem_filter live

theorem found_row (row : InventoryRow) (stored : row ∈ db.inventory.rows) :
    db.inventory.rows.find? (fun other => other.itemUid = row.itemUid) = some row :=
  Ascending.found InventoryRow.itemUid db.inventory.rows (db.inventory.ascending.imp (fun rises => rises.ne)) row stored

theorem live_rows_add (itemTid : UInt16) :
    (db.spInventoryAdd charUid itemTid).1.liveRows charUid = db.liveRows charUid ++ [⟨db.inventory.nextUid, charUid, itemTid, false⟩] := by
  simp [liveRows, spInventoryAdd, InventoryTable.add]

theorem stock_add (itemTid : UInt16) :
    (db.spInventoryAdd charUid itemTid).1.stock charUid = db.stock charUid + Cells.single InvSlot.Holds ⟨db.inventory.nextUid, itemTid⟩ := by
  rw [stock, live_rows_add, List.map_append, Cells.contents_append, List.map_singleton, Cells.contents_cons, Cells.contents_nil, add_zero]
  rfl

theorem live_rows_remove (itemUid : ItemUid) :
    (db.spInventoryRemove itemUid).liveRows charUid = (db.liveRows charUid).filter (fun row => row.itemUid ≠ itemUid) := by
  simp only [liveRows, spInventoryRemove, InventoryTable.softDelete]
  generalize db.inventory.rows = rows
  induction rows with
  | nil => rfl
  | cons head rest ih =>
      obtain ⟨headUid, owner, itemTid, deleted⟩ := head
      rw [List.map_cons, List.filter_cons, ih]
      by_cases own : owner = charUid
      · by_cases named : headUid = itemUid
        · cases deleted <;> simp [named, own]
        · cases deleted <;> simp [named, own]
      · simp [own]

theorem stock_remove (row : InventoryRow) (live : row ∈ db.liveRows charUid) :
    (db.spInventoryRemove row.itemUid).stock charUid + Cells.single InvSlot.Holds (placedCell (some row)) = db.stock charUid := by
  rw [stock, live_rows_remove]
  exact contents_without (db.liveRows charUid) (db.live_rows_ascending charUid) row live

theorem mem_stock (pair : InvSlot) (owned : pair ∈ db.stock charUid) : ∃ row ∈ db.liveRows charUid, placedCell (some row) = pair := by
  obtain ⟨listed, _⟩ := (Cells.mem_contents InvSlot.Holds pair _).mp owned
  exact List.mem_map.mp listed

def Bare : Prop := ∀ place < 2, ∀ row ∈ db.liveRows charUid, db.equipment charUid place ≠ some row.itemUid

instance : Decidable (db.Bare charUid) := inferInstanceAs (Decidable (∀ place < 2, _))

def Issued : Prop := ∀ place < 2, ∀ itemUid ∈ db.equipment charUid place, itemUid < db.inventory.nextUid

instance : Decidable (db.Issued charUid) := inferInstanceAs (Decidable (∀ place < 2, _))

theorem worn_add (issued : db.Issued charUid) (owner : CharUid) (itemTid : UInt16) (place : Nat) (small : place < 2) :
    (db.spInventoryAdd owner itemTid).1.equipped charUid place = db.equipped charUid place := by
  have equipment : (db.spInventoryAdd owner itemTid).1.equipment charUid place = db.equipment charUid place := rfl
  rw [equipped, equipped, equipment]
  cases named : db.equipment charUid place with
  | none => rfl
  | some itemUid =>
      have later : ¬ db.inventory.nextUid = itemUid := (issued place small itemUid named).ne'
      simp [spInventoryAdd, InventoryTable.add, later]

theorem worn_remove (itemUid : ItemUid) (place : Nat) (kept : db.equipment charUid place ≠ some itemUid) :
    placedCell ((db.spInventoryRemove itemUid).equipped charUid place) = placedCell (db.equipped charUid place) := by
  have equipment : (db.spInventoryRemove itemUid).equipment charUid place = db.equipment charUid place := if_neg kept
  rw [equipped, equipped, equipment]
  cases db.equipment charUid place with
  | none => rfl
  | some worn =>
      simp only [Option.bind_some, spInventoryRemove, InventoryTable.softDelete, List.find?_map, Function.comp_def]
      cases db.inventory.rows.find? (fun row => row.itemUid = worn) <;> rfl

theorem bare_add (bare : db.Bare charUid) (issued : db.Issued charUid) (itemTid : UInt16) :
    (db.spInventoryAdd charUid itemTid).1.Bare charUid := by
  intro place small row live
  rw [live_rows_add] at live
  rcases List.mem_append.mp live with old | fresh
  · exact bare place small row old
  · intro named
    have below := issued place small _ named
    rw [List.mem_singleton.mp fresh] at below
    exact Nat.lt_irrefl _ below

theorem bare_remove (bare : db.Bare charUid) (itemUid : ItemUid) : (db.spInventoryRemove itemUid).Bare charUid := by
  intro place small row live named
  rw [live_rows_remove] at live
  refine bare place small row (List.mem_of_mem_filter live) ?_
  simp only [spInventoryRemove] at named
  split at named
  · exact absurd named nofun
  · exact named

theorem issued_add (issued : db.Issued charUid) (owner : CharUid) (itemTid : UInt16) : (db.spInventoryAdd owner itemTid).1.Issued charUid :=
  fun place small itemUid named => Nat.lt_succ_of_lt (issued place small itemUid named)

theorem issued_remove (issued : db.Issued charUid) (itemUid : ItemUid) : (db.spInventoryRemove itemUid).Issued charUid := by
  intro place small worn named
  refine issued place small worn ?_
  simp only [spInventoryRemove, Option.mem_def] at named ⊢
  split at named
  · exact absurd named nofun
  · exact named

end Database

end Rows

section Goods

variable (sid : SessionId)

structure SameGoods (s t : ServerState) : Prop where
  here : sid ∈ s.sessions → sid ∈ t.sessions
  own : (t.player sid).charUid = (s.player sid).charUid
  inventory : t.inventory sid = s.inventory sid
  table : t.db.inventory = s.db.inventory
  equipment : t.db.equipment = s.db.equipment
  plan : s.dbPlan = [] → t.dbPlan = []

theorem same_goods_player (s : ServerState) (owner : SessionId) (player : PlayerData) (same : player.charUid = (s.player owner).charUid) :
    SameGoods sid s (s.setPlayer owner player) :=
  ⟨(mem_set_player s owner sid player).mpr, same_view_set PlayerData.charUid s owner player same sid, rfl, rfl, rfl, id⟩

theorem plan_tail (plan : List DbOutcome) (empty : plan = []) : plan.tail = [] := by
  rw [empty]
  rfl

theorem goods_frame : Frame (SameGoods sid) where
  trans := fun first second => ⟨fun present => second.here (first.here present), second.own.trans first.own,
    second.inventory.trans first.inventory, second.table.trans first.table, second.equipment.trans first.equipment,
    fun empty => second.plan (first.plan empty)⟩
  idle := fun idle => ⟨idle.here sid, congrArg PlayerData.charUid (idle.players sid), idle.inventories sid, congrArg Database.inventory idle.db,
    congrArg Database.equipment idle.db, idle.plan⟩
  profile := fun s owner player same => same_goods_player sid s owner player (same.view_eq PlayerData.charUid)
  call := fun s _ proc keeps => ⟨id, rfl, rfl, proc_db_keeps s proc Database.inventory keeps.inventory,
    proc_db_keeps s proc Database.equipment keeps.equipment, plan_tail s.dbPlan⟩

theorem goods_logs : Logs (SameGoods sid) where
  note := fun _ _ _ => ⟨id, rfl, rfl, rfl, rfl, id⟩
  save := by
    intro s charUid questId state
    have kept {View : Type} (view : Database → View) (same : ∀ db, view (db.spQuestSave charUid questId state) = view db) :=
      proc_db_keeps s (fun db => some (db.spQuestSave charUid questId state, ())) view (fun db result called => by
        obtain rfl := Option.some.inj called
        exact same db)
    exact ⟨id, rfl, rfl, kept Database.inventory (fun _ => rfl), kept Database.equipment (fun _ => rfl), plan_tail s.dbPlan⟩

end Goods

theorem Inventory.slots_set (inv : Inventory) (index : Nat) (bound : index < maxInventory) (pair : InvSlot) :
    Cells.contents InvSlot.Holds (inv.setSlot index pair).slots.toList + Cells.single InvSlot.Holds (inv.slot index) =
      Cells.contents InvSlot.Holds inv.slots.toList + Cells.single InvSlot.Holds pair := by
  have listed : index < inv.slots.toList.length := by rwa [slot_count]
  have written : (inv.setSlot index pair).slots.toList = inv.slots.toList.set index pair := by simp [setSlot]
  rw [written, slot_get inv index listed]
  exact Cells.contents_set InvSlot.Holds inv.slots.toList index listed pair

theorem Inventory.slot_among (inv : Inventory) (index : Nat) (bound : index < maxInventory) (held : (inv.slot index).itemTid ≠ 0) :
    inv.slot index ∈ Cells.contents InvSlot.Holds inv.slots.toList := by
  have listed : index < inv.slots.toList.length := by rwa [slot_count]
  refine (Cells.mem_contents InvSlot.Holds _ _).mpr ⟨?_, held⟩
  rw [slot_get inv index listed]
  exact List.getElem_mem listed

section Filing

variable (charUid : CharUid) (sid : SessionId)

-- The session plays the character, its slots hold the live rows and its weapon
-- and armor are what the equipment table names, none of which is live.
structure Filed (s : ServerState) : Prop where
  here : sid ∈ s.sessions
  own : (s.player sid).charUid = charUid
  slotted : Cells.contents InvSlot.Holds (s.inventory sid).slots.toList = s.db.stock charUid
  weapon : (s.inventory sid).weapon = placedCell (s.db.equipped charUid 0)
  armor : (s.inventory sid).armor = placedCell (s.db.equipped charUid 1)
  bare : s.db.Bare charUid
  issued : s.db.Issued charUid

def KeepsFiled (s t : ServerState) : Prop := s.dbPlan = [] → Filed charUid sid s → t.dbPlan = [] ∧ Filed charUid sid t

theorem filed_same (s t : ServerState) (here : sid ∈ t.sessions) (own : (t.player sid).charUid = (s.player sid).charUid)
    (inventory : t.inventory sid = s.inventory sid) (table : t.db.inventory = s.db.inventory) (equipment : t.db.equipment = s.db.equipment)
    (filed : Filed charUid sid s) : Filed charUid sid t := by
  have live : t.db.liveRows charUid = s.db.liveRows charUid := by simp only [Database.liveRows, table]
  have stock : t.db.stock charUid = s.db.stock charUid := by simp only [Database.stock, live]
  have worn (place : Nat) : t.db.equipped charUid place = s.db.equipped charUid place := by
    simp only [Database.equipped, table, equipment]
  refine ⟨here, own.trans filed.own, ?_, ?_, ?_, ?_, ?_⟩
  · rw [inventory, stock]
    exact filed.slotted
  · rw [inventory, worn]
    exact filed.weapon
  · rw [inventory, worn]
    exact filed.armor
  · rw [Database.Bare, live, equipment]
    exact filed.bare
  · rw [Database.Issued, table, equipment]
    exact filed.issued

theorem same_goods_filed (s t : ServerState) (same : SameGoods sid s t) : KeepsFiled charUid sid s t :=
  fun plan filed => ⟨same.plan plan, filed_same charUid sid s t (same.here filed.here) same.own same.inventory same.table same.equipment filed⟩

theorem filed_frame : Frame (KeepsFiled charUid sid) :=
  (goods_frame sid).weaken (same_goods_filed charUid sid) (fun first second plan filed => by
    obtain ⟨plan', filed'⟩ := first plan filed
    exact second plan' filed')

theorem filed_store (s : ServerState) (inv : Inventory) (same : s.inventory sid = inv) (slot : Nat) (bound : slot < maxInventory)
    (empty : (inv.slot slot).itemTid = 0) (itemTid : UInt16) :
    KeepsFiled charUid sid s ((addItemToDb s charUid itemTid).1.setInventory sid (inv.setSlot slot ⟨(addItemToDb s charUid itemTid).2, itemTid⟩)) := by
  intro plan filed
  have answered : s.outcome = .ok := by rw [ServerState.outcome, plan]; rfl
  have uid : (addItemToDb s charUid itemTid).2 = s.db.inventory.nextUid := by rw [add_item_answer, addedUid, if_pos answered]
  have stored : (addItemToDb s charUid itemTid).1.db = (s.db.spInventoryAdd charUid itemTid).1 := by
    simp only [addItemToDb, ServerState.executeProc, ServerState.procDb, answered]
  have placed := inv.slots_set slot bound ⟨s.db.inventory.nextUid, itemTid⟩
  rw [Cells.single_empty InvSlot.Holds _ (fun full => full empty), add_zero, ← same, filed.slotted] at placed
  subst same
  rw [uid]
  refine ⟨plan_tail s.dbPlan plan, filed.here, filed.own, ?_, ?_, ?_, ?_, ?_⟩
  · rw [inventory_set_self, placed]
    change _ = (addItemToDb s charUid itemTid).1.db.stock charUid
    rw [stored, Database.stock_add]
  · rw [inventory_set_self]
    change (s.inventory sid).weapon = placedCell ((addItemToDb s charUid itemTid).1.db.equipped charUid 0)
    rw [stored, Database.worn_add _ _ filed.issued _ _ 0 (by decide), filed.weapon]
  · rw [inventory_set_self]
    change (s.inventory sid).armor = placedCell ((addItemToDb s charUid itemTid).1.db.equipped charUid 1)
    rw [stored, Database.worn_add _ _ filed.issued _ _ 1 (by decide), filed.armor]
  · change (addItemToDb s charUid itemTid).1.db.Bare charUid
    rw [stored]
    exact Database.bare_add _ _ filed.bare filed.issued itemTid
  · change (addItemToDb s charUid itemTid).1.db.Issued charUid
    rw [stored]
    exact Database.issued_add _ _ filed.issued charUid itemTid

theorem filed_discard (s : ServerState) (inv : Inventory) (same : s.inventory sid = inv) (slot : Nat) (bound : slot < maxInventory)
    (held : (inv.slot slot).itemTid ≠ 0) :
    KeepsFiled charUid sid s ((removeItemFromDb s (inv.slot slot).itemUid).setInventory sid (inv.setSlot slot {})) := by
  intro plan filed
  subst same
  have answered : s.outcome = .ok := by rw [ServerState.outcome, plan]; rfl
  obtain ⟨row, live, cell⟩ := s.db.mem_stock charUid _ (filed.slotted ▸ Inventory.slot_among _ slot bound held)
  have removed : (removeItemFromDb s ((s.inventory sid).slot slot).itemUid).db = s.db.spInventoryRemove row.itemUid := by
    rw [← cell]
    simp only [removeItemFromDb, ServerState.executeProc, ServerState.procDb, answered]
    rfl
  have gone := s.db.stock_remove charUid row live
  have cleared := (s.inventory sid).slots_set slot bound {}
  rw [Cells.single_empty InvSlot.Holds {} (fun full => full rfl), add_zero, filed.slotted, ← gone, cell] at cleared
  refine ⟨plan_tail s.dbPlan plan, filed.here, filed.own, ?_, ?_, ?_, ?_, ?_⟩
  · rw [inventory_set_self, add_right_cancel cleared]
    change _ = (removeItemFromDb s ((s.inventory sid).slot slot).itemUid).db.stock charUid
    rw [removed]
  · rw [inventory_set_self]
    change (s.inventory sid).weapon = placedCell ((removeItemFromDb s ((s.inventory sid).slot slot).itemUid).db.equipped charUid 0)
    rw [removed, Database.worn_remove _ _ _ 0 (filed.bare 0 (by decide) row live), filed.weapon]
  · rw [inventory_set_self]
    change (s.inventory sid).armor = placedCell ((removeItemFromDb s ((s.inventory sid).slot slot).itemUid).db.equipped charUid 1)
    rw [removed, Database.worn_remove _ _ _ 1 (filed.bare 1 (by decide) row live), filed.armor]
  · change (removeItemFromDb s ((s.inventory sid).slot slot).itemUid).db.Bare charUid
    rw [removed]
    exact Database.bare_remove _ _ filed.bare row.itemUid
  · change (removeItemFromDb s ((s.inventory sid).slot slot).itemUid).db.Issued charUid
    rw [removed]
    exact Database.issued_remove _ _ filed.issued row.itemUid

variable (data : GameData) (s : ServerState)

theorem on_item_use_filed (req : CsItemUse) : KeepsFiled charUid sid s (onItemUse data s sid req) := by
  have frame := filed_frame charUid sid
  have touched := frame.touchInventory (frame.refl s) sid
  rw [onItemUse]
  simp only [inventory_touch, occupied_or_refused]
  by_cases held : occupied (s.inventory sid) req.slot
  · rw [if_neg (not_not.mpr held)]
    cases data.findItem ((s.inventory sid).slot req.slot.toNat).itemTid with
    | none => exact touched
    | some item =>
        simp only
        refine Talks.ite (fun _ => touched) (fun _ => ?_)
        let healed := { s.player sid with hp := min ((s.player sid).hp + item.hp) (s.player sid).maxHp }
        have same : ((s.touchInventory sid).setPlayer sid healed).inventory sid = s.inventory sid := inventory_touch s sid sid
        have used := frame.trans (frame.setPlayer touched sid healed (by exact rfl))
          (filed_discard charUid sid _ _ same req.slot.toNat held.1 held.2)
        exact frame.sendCharInfo (frame.send (frame.broadcast used _) _ _) _
  · rw [if_pos held]
    exact touched

theorem on_shop_sell_filed (req : CsShopSell) : KeepsFiled charUid sid s (onShopSell data s sid req) := by
  have frame := filed_frame charUid sid
  have touched := frame.touchInventory (frame.refl s) sid
  by_cases held : occupied (s.inventory sid) req.slot
  · intro plan filed
    let sold := (s.inventory sid).slot req.slot.toNat
    let removed := removeItemFromDb (s.touchInventory sid) sold.itemUid
    have gone := frame.trans touched (filed_discard charUid sid _ _ (inventory_touch s sid sid) req.slot.toNat held.1 held.2)
    -- Whatever lies in a filed slot has a row, and rows have positive uids.
    have backed : sold.itemUid ≠ 0 := by
      obtain ⟨row, live, cell⟩ := s.db.mem_stock charUid _ (filed.slotted ▸ Inventory.slot_among _ req.slot.toNat held.1 held.2)
      have positive := (s.db.inventory.issued row (s.db.live_row_stored charUid row live)).1
      change ((s.inventory sid).slot req.slot.toNat).itemUid ≠ 0
      rw [← cell]
      exact positive.ne'
    rw [onShopSell]
    simp only [inventory_touch, occupied_or_refused]
    rw [if_neg (not_not.mpr held), if_pos backed]
    have paid := frame.setPlayer gone sid { s.player sid with gold := (s.player sid).gold +
      (((data.findItem sold.itemTid).map (fun item : ItemData => item.price / 5)).getD 0).toUInt64 } (by exact rfl)
    exact frame.send (frame.send (frame.fail paid _ _) _ _) _ _ plan filed
  · rw [on_shop_sell_refused data sid req held]
    exact frame.send touched _ _

theorem on_shop_buy_filed (req : CsShopBuy) : KeepsFiled charUid sid s (onShopBuy data s sid req) := by
  have frame := filed_frame charUid sid
  have start := frame.refl s
  have touched := frame.touchInventory start sid
  intro plan filed
  obtain rfl := filed.own
  rw [onShopBuy]
  cases data.findItem req.itemId with
  | none => exact frame.send start _ _ plan filed
  | some item =>
      simp only [inventory_touch]
      refine Talks.ite (R := KeepsFiled _ sid) (fun _ => frame.send start _ _) (fun _ => ?_) plan filed
      cases free : findEmptySlot (s.inventory sid) with
      | none => exact frame.send touched _ _
      | some slot =>
          obtain ⟨bound, empty⟩ := Inventory.find_empty_slot _ slot free
          let paid := { s.player sid with gold := (s.player sid).gold - item.price.toUInt64 }
          have same : ((s.touchInventory sid).setPlayer sid paid).inventory sid = s.inventory sid := inventory_touch s sid sid
          have bought := frame.trans (frame.setPlayer touched sid paid (by exact rfl))
            (filed_store _ sid _ _ same slot bound empty req.itemId)
          exact frame.send (frame.send (frame.fail bought _ _) _ _) _ _

theorem give_item_filed (itemId : UInt16) : KeepsFiled charUid sid s (giveItem data s sid itemId) := by
  have frame := filed_frame charUid sid
  have touched := frame.touchInventory (frame.refl s) sid
  intro plan filed
  rw [giveItem]
  simp only [inventory_touch]
  cases free : findEmptySlot (s.inventory sid) with
  | none => exact touched plan filed
  | some slot =>
      cases data.findItem itemId with
      | none => exact touched plan filed
      | some item =>
          obtain ⟨bound, empty⟩ := Inventory.find_empty_slot _ slot free
          have own : ((s.touchInventory sid).player sid).charUid = charUid := filed.own
          have given := frame.trans touched (filed_store charUid sid _ _ (inventory_touch s sid sid) slot bound empty itemId)
          simp only [own]
          exact frame.send given _ _ plan filed

theorem filed_grows : Grows (KeepsFiled charUid sid) (fun _ => KeepsFiled charUid sid) :=
  grows_of_progress (filed_frame charUid sid) (fun s owner player same =>
    same_goods_filed charUid sid _ _ (same_goods_player sid s owner player (same.view_eq PlayerData.charUid)))

theorem filed_logs : Logs (KeepsFiled charUid sid) := (goods_logs sid).weaken (same_goods_filed charUid sid)

theorem kill_npc_filed (index : Fin maxNpc) : KeepsFiled charUid sid s (killNpc data s sid index) := by
  have frame := filed_frame charUid sid
  have logs := filed_logs charUid sid
  have shared := frame.shareKill data (filed_grows charUid sid) logs (frame.announceDeath (frame.refl s) index) sid s.npcs[index]
  have rolled := frame.rollDrop data (frame.updateQuestProgress data logs shared sid)
  rw [killNpc]
  refine frame.respawn (Talks.ite (fun _ => ?_) (fun _ => rolled))
  exact frame.trans rolled (give_item_filed charUid sid data _ _)

theorem on_attack_filed (req : CsAttack) : KeepsFiled charUid sid s (onAttack data s sid req) := by
  have frame := filed_frame charUid sid
  rw [onAttack]
  cases findTarget s (s.player sid) req.targetUid with
  | none => exact frame.send (frame.refl s) _ _
  | some index =>
      exact Talks.ite (fun _ => frame.trans (frame.strike sid index) (kill_npc_filed charUid sid data _ index))
        (fun _ => frame.strike sid index)

theorem on_quest_complete_filed (req : CsQuestComplete) : KeepsFiled charUid sid s (onQuestComplete data s sid req) := by
  have frame := filed_frame charUid sid
  have logs := filed_logs charUid sid
  have touched := frame.touchQuestLog (frame.refl s) sid
  cases done : completed data s sid req.questId with
  | none =>
      rw [quest_refused data s sid req done]
      exact frame.send (Talks.ite (fun _ => touched) (fun _ => frame.refl s)) _ _
  | some quest =>
      obtain ⟨state, acts⟩ := quest_granted data s sid req quest done
      have closed : KeepsFiled charUid sid s (questClosed s sid req state) :=
        frame.trans (frame.trans touched (logs.note _ sid _)) (logs.save _ _ _ _)
      have given : KeepsFiled charUid sid (questClosed s sid req state) (questPaid data sid (questClosed s sid req state) quest) := by
        have paid := (filed_grows charUid sid).pay sid quest.rewardExp quest.rewardGold (frame.refl (questClosed s sid req state))
        exact Talks.ite (fun _ => frame.trans paid (give_item_filed charUid sid data _ _)) (fun _ => paid)
      rw [acts]
      refine frame.send (frame.sendCharInfo ((filed_grows charUid sid).level ?told) sid) _ _
      exact frame.send (frame.trans closed given) _ _

theorem Frame.handlePlain {R : ServerState → ServerState → Prop} (frame : Frame R) (logs : Logs R) (request : Request)
    (plain : ¬ Trades request) (stays : ∀ req, request ≠ .charSelect req) : R s (MmorpgSimulator.handle data s sid request) := by
  cases request with
  | login req => exact frame.onLogin data sid req
  | charList => exact frame.sendCharList (frame.refl s) sid
  | charCreate req => exact frame.onCharCreate data sid req
  | charSelect req => exact absurd rfl (stays req)
  | attendanceCheck => exact frame.onAttendanceCheck sid
  | heartbeat => exact frame.send (frame.refl s) _ _
  | move req => exact frame.onMove sid req
  | attack req => exact absurd trivial plain
  | chat req => exact frame.onChat sid req
  | itemUse req => exact absurd trivial plain
  | itemEquip req => exact absurd trivial plain
  | shopOpen => exact frame.send (frame.refl s) _ _
  | shopBuy req => exact absurd trivial plain
  | shopSell req => exact absurd trivial plain
  | questList => exact frame.onQuestList data sid
  | questAccept req => exact frame.onQuestAccept data logs sid req
  | questComplete req => exact absurd trivial plain
  | partyInvite req => exact frame.onPartyInvite sid req
  | partyAccept req => exact frame.onPartyAccept sid req
  | partyLeave => exact frame.removeFromParty (frame.refl s) sid

theorem handle_filed (request : Request) (stays : ∀ req, request ≠ .charSelect req)
    (unworn : ∀ req, request = .itemEquip req → worn data (s.inventory sid) req.slot = none) :
    KeepsFiled charUid sid s (handle data s sid request) := by
  cases request with
  | attack req => exact on_attack_filed charUid sid data s req
  | itemUse req => exact on_item_use_filed charUid sid data s req
  | itemEquip req => exact on_item_equip_unworn data s sid (filed_frame charUid sid).toTalks req (unworn req rfl)
  | shopBuy req => exact on_shop_buy_filed charUid sid data s req
  | shopSell req => exact on_shop_sell_filed charUid sid data s req
  | questComplete req => exact on_quest_complete_filed charUid sid data s req
  | _ => exact (filed_frame charUid sid).handlePlain sid data s (filed_logs charUid sid) _ id stays

end Filing

end MmorpgSimulator
