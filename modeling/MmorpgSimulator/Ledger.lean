import MmorpgSimulator.Accounts

set_option autoImplicit false

namespace MmorpgSimulator

-- What one request books for one session: pairs it gives up, template ids of the
-- pairs it receives by purchase and by announced drop, gold out and gold in.
structure Entry where
  lost : Multiset InvSlot := 0
  bought : Multiset UInt16 := 0
  dropped : Multiset UInt16 := 0
  spent : Nat := 0
  earned : Nat := 0
deriving DecidableEq

namespace Entry

def add (first second : Entry) : Entry :=
  ⟨first.lost + second.lost, first.bought + second.bought, first.dropped + second.dropped, first.spent + second.spent,
    first.earned + second.earned⟩

end Entry

structure Balanced (sid : SessionId) (entry : Entry) (s s' : ServerState) : Prop where
  items : ∃ gained : Multiset InvSlot, gained.map InvSlot.itemTid = entry.bought + entry.dropped ∧
    (s'.inventory sid).owned + entry.lost = (s.inventory sid).owned + gained
  gold : (s.gold sid).toNat + entry.earned < 2 ^ 64 → (s'.gold sid).toNat + entry.spent = (s.gold sid).toNat + entry.earned
  announced : s.line sid = some true →
    (announcedTo s'.sent sid : Multiset UInt16) = (announcedTo s.sent sid : Multiset UInt16) + entry.dropped
  line : s'.line sid = s.line sid

theorem balanced_refl (sid : SessionId) (s : ServerState) : Balanced sid {} s s :=
  ⟨⟨0, rfl, rfl⟩, fun _ => rfl, fun _ => (add_zero _).symm, rfl⟩

theorem balanced_trans (sid : SessionId) (first second : Entry) (s t u : ServerState) (early : Balanced sid first s t)
    (late : Balanced sid second t u) : Balanced sid (first.add second) s u where
  items := by
    obtain ⟨gained, ids, before⟩ := early.items
    obtain ⟨gained', ids', after⟩ := late.items
    refine ⟨gained + gained', ?_, ?_⟩
    · rw [Multiset.map_add, ids, ids']
      simp only [Entry.add]
      abel
    · calc (u.inventory sid).owned + (first.lost + second.lost)
          = ((u.inventory sid).owned + second.lost) + first.lost := by abel
        _ = ((t.inventory sid).owned + first.lost) + gained' := by rw [after]; abel
        _ = (s.inventory sid).owned + (gained + gained') := by rw [before]; abel
  gold := by
    intro bound
    simp only [Entry.add] at bound ⊢
    have before := early.gold (by omega)
    have after := late.gold (by omega)
    omega
  announced := by
    intro open_
    rw [late.announced (early.line.trans open_), early.announced open_, add_assoc]
    rfl
  line := late.line.trans early.line

section Spec

variable (data : GameData) (s : ServerState) (sid : SessionId)

def occupied (inv : Inventory) (slot : UInt8) : Prop := slot.toNat < maxInventory ∧ (inv.slot slot.toNat).itemTid ≠ 0

instance (inv : Inventory) (slot : UInt8) : Decidable (occupied inv slot) := inferInstanceAs (Decidable (_ ∧ _))

def consumable (itemTid : UInt16) : Bool := (data.findItem itemTid).any (fun item => item.type = consumableType)

def affordable (itemId : UInt16) : Bool := (data.findItem itemId).any (fun item => item.price.toUInt64 ≤ s.gold sid)

def roomy : Bool := (findEmptySlot (s.inventory sid)).isSome

def completed (questId : UInt16) : Option QuestData :=
  if isNearQuestNpc (s.player sid) ∧ ((s.questLog sid)[questId]?).any (fun state => state.status = 2) then data.findQuest questId
  else none

def slain (atk : CsAttack) : Option Npc :=
  (findTarget s (s.player sid) atk.targetUid).bind (fun index =>
    if (struck (s.player sid) (getElem s.npcs index index.isLt)).hp = 0 then some (getElem s.npcs index index.isLt) else none)

-- Gold a session draws from a kill: its entries in the killer's party times the share.
def killShare (other : SessionId) (npc : Npc) : Nat :=
  match s.party.playerParty[sid]? with
  | some partyId =>
      if other ∈ s.sessions then
        (s.party.membersOf partyId).count other * (npc.goldReward / UInt32.ofNat (s.party.membersOf partyId).length).toNat
      else 0
  | none => if other = sid then npc.goldReward.toNat else 0

def priceOf (itemId : UInt16) : UInt32 := ((data.findItem itemId).map ItemData.price).getD 0

def delivered (itemId : UInt16) : Multiset UInt16 :=
  if roomy s sid ∧ (data.findItem itemId).isSome then {itemId} else 0

def useEntry (req : CsItemUse) : Entry :=
  if occupied (s.inventory sid) req.slot ∧ consumable data ((s.inventory sid).slot req.slot.toNat).itemTid then
    { lost := {(s.inventory sid).slot req.slot.toNat} }
  else {}

def buyEntry (req : CsShopBuy) : Entry :=
  if affordable data s sid req.itemId ∧ roomy s sid then { bought := {req.itemId}, spent := (priceOf data req.itemId).toNat } else {}

def sellEntry (req : CsShopSell) : Entry :=
  if occupied (s.inventory sid) req.slot then
    { lost := {(s.inventory sid).slot req.slot.toNat},
      earned := (priceOf data ((s.inventory sid).slot req.slot.toNat).itemTid / 5).toNat }
  else {}

def completeEntry (req : CsQuestComplete) : Entry :=
  match completed data s sid req.questId with
  | none => {}
  | some quest =>
      { dropped := if quest.rewardItemId > 0 then delivered data s sid quest.rewardItemId else 0, earned := quest.rewardGold.toNat }

def attackEntry (other : SessionId) (req : CsAttack) : Entry :=
  match slain s sid req with
  | none => {}
  | some npc =>
      { dropped := if other = sid ∧ (rollDrop data s).2 ≠ 0 then delivered data s sid (rollDrop data s).2 else 0,
        earned := killShare s sid other npc }

-- What a request of session sid books for any session: the others draw their
-- share of a kill and nothing else.
def entryOf (other : SessionId) : Request → Entry
  | .itemUse req => if other = sid then useEntry data s sid req else {}
  | .shopBuy req => if other = sid then buyEntry data s sid req else {}
  | .shopSell req => if other = sid then sellEntry data s sid req else {}
  | .questComplete req => if other = sid then completeEntry data s sid req else {}
  | .attack req => attackEntry data s sid other req
  | _ => {}

end Spec

structure Booked (sid : SessionId) (entries : SessionId → Entry) (s s' : ServerState) : Prop where
  balanced : ∀ other, Balanced other (entries other) s s'
  others : ∀ other, other ≠ sid → s'.inventory other = s.inventory other

section Booking

variable {s s' : ServerState} {sid : SessionId} {inventory : SessionId → Inventory} {gold : SessionId → UInt64}
  {drops : SessionId → List UInt16}

theorem becomes_unchanged (h : Becomes s s' s.inventory s.gold (fun _ => [])) : Booked sid (fun _ => {}) s s' where
  balanced := by
    intro other
    refine ⟨⟨0, rfl, by rw [h.inventories other]⟩, fun _ => congrArg (fun g => UInt64.toNat g + 0) (h.golds other), ?_, h.lines other⟩
    intro open_
    rw [h.announced other open_, List.append_nil]
    exact (add_zero _).symm
  others := fun other _ => h.inventories other

theorem becomes_booked (entries : SessionId → Entry) (inv : Inventory) (told : List UInt16)
    (h : Becomes s s' (Function.update s.inventory sid inv) gold (Function.update (fun _ => []) sid told))
    (items : ∃ gained : Multiset InvSlot, gained.map InvSlot.itemTid = (entries sid).bought + (entries sid).dropped ∧
      inv.owned + (entries sid).lost = (s.inventory sid).owned + gained)
    (announced : (told : Multiset UInt16) = (entries sid).dropped)
    (others : ∀ other, other ≠ sid → (entries other).lost = 0 ∧ (entries other).bought = 0 ∧ (entries other).dropped = 0)
    (paid : ∀ other, (s.gold other).toNat + (entries other).earned < 2 ^ 64 →
      (gold other).toNat + (entries other).spent = (s.gold other).toNat + (entries other).earned) : Booked sid entries s s' where
  balanced := by
    intro other
    have goldOf : s'.gold other = gold other := h.golds other
    have inventoryOf := h.inventories other
    refine ⟨?_, fun bound => by rw [goldOf]; exact paid other bound, ?_, h.lines other⟩
    · by_cases self : other = sid
      · subst self
        rw [Function.update_self] at inventoryOf
        rwa [inventoryOf]
      · rw [Function.update_of_ne self] at inventoryOf
        obtain ⟨lost, bought, dropped⟩ := others other self
        rw [inventoryOf, lost, bought, dropped]
        exact ⟨0, rfl, rfl⟩
    · intro open_
      rw [h.announced other open_]
      by_cases self : other = sid
      · subst self
        rw [Function.update_self, ← announced]
        rfl
      · rw [Function.update_of_ne self, (others other self).2.2, List.append_nil, add_zero]
  others := by
    intro other apart
    rw [h.inventories other, Function.update_of_ne apart]

theorem becomes_own (entry : Entry) (inv : Inventory) (purse : UInt64) (told : List UInt16)
    (h : Becomes s s' (Function.update s.inventory sid inv) (Function.update s.gold sid purse) (Function.update (fun _ => []) sid told))
    (items : ∃ gained : Multiset InvSlot, gained.map InvSlot.itemTid = entry.bought + entry.dropped ∧
      inv.owned + entry.lost = (s.inventory sid).owned + gained)
    (paid : (s.gold sid).toNat + entry.earned < 2 ^ 64 → purse.toNat + entry.spent = (s.gold sid).toNat + entry.earned)
    (announced : (told : Multiset UInt16) = entry.dropped) :
    Booked sid (fun other => if other = sid then entry else {}) s s' := by
  apply becomes_booked _ inv told h
  · simpa using items
  · simpa using announced
  · intro other apart
    simp [apart]
  · intro other
    by_cases self : other = sid
    · subst self
      simpa using paid
    · simp [self]

theorem unchanged_own (h : Becomes s s' s.inventory s.gold (fun _ => [])) :
    Booked sid (fun other => if other = sid then {} else {}) s s' := by
  have nothing : (fun other => if other = sid then ({} : Entry) else {}) = fun _ => {} := funext (fun _ => ite_self _)
  rw [nothing]
  exact becomes_unchanged h

end Booking

section Requests

variable (data : GameData) (s : ServerState) (sid : SessionId)

theorem occupied_or_refused (inv : Inventory) (slot : UInt8) :
    (maxInventory ≤ slot.toNat ∨ (inv.slot slot.toNat).itemTid = 0) ↔ ¬ occupied inv slot := by
  rw [occupied, not_and_or, not_lt, not_not]

theorem cleared_items (inv : Inventory) (slot : UInt8) (full : occupied inv slot) :
    ∃ gained : Multiset InvSlot, gained.map InvSlot.itemTid = 0 ∧
      (inv.setSlot slot.toNat {}).owned + {inv.slot slot.toNat} = inv.owned + gained := by
  refine ⟨0, rfl, ?_⟩
  have cleared := Inventory.owned_clear_slot inv slot.toNat full.1
  rw [Cells.single_occupied InvSlot.Holds _ full.2] at cleared
  rw [cleared, add_zero]

theorem filled_items (inv : Inventory) (slot : Nat) (free : findEmptySlot inv = some slot) (itemUid : ItemUid)
    (itemTid : UInt16) (real : itemTid ≠ 0) :
    ∃ gained : Multiset InvSlot, gained.map InvSlot.itemTid = {itemTid} ∧
      (inv.setSlot slot ⟨itemUid, itemTid⟩).owned + 0 = inv.owned + gained := by
  obtain ⟨bound, empty⟩ := Inventory.find_empty_slot inv slot free
  refine ⟨{⟨itemUid, itemTid⟩}, rfl, ?_⟩
  have full : InvSlot.Holds ⟨itemUid, itemTid⟩ := real
  rw [Inventory.owned_fill_slot inv slot bound _ empty, Cells.single_occupied InvSlot.Holds _ full, add_zero]

theorem on_item_use_booked (req : CsItemUse) :
    Booked sid (fun other => if other = sid then useEntry data s sid req else {}) s (onItemUse data s sid req) := by
  have touched := (Becomes.start s).touchInventory sid
  unfold onItemUse useEntry
  simp only [inventory_touch, occupied_or_refused]
  by_cases full : occupied (s.inventory sid) req.slot
  · rw [if_neg (not_not.mpr full)]
    cases known : data.findItem ((s.inventory sid).slot req.slot.toNat).itemTid with
    | none =>
        have useless : ¬ consumable data ((s.inventory sid).slot req.slot.toNat).itemTid := by simp [consumable, known]
        rw [if_neg (fun used => useless used.2)]
        exact unchanged_own touched
    | some item =>
        simp only
        by_cases kind : item.type = consumableType
        · have useful : consumable data ((s.inventory sid).slot req.slot.toNat).itemTid := by simp [consumable, known, kind]
          rw [if_neg (not_not.mpr kind), if_pos ⟨full, useful⟩]
          apply becomes_own _ ((s.inventory sid).setSlot req.slot.toNat {}) (s.gold sid) []
          · rw [Function.update_eq_self, Function.update_eq_self]
            have used := ((touched.keepGold sid { s.player sid with hp := min ((s.player sid).hp + item.hp) (s.player sid).maxHp } rfl).executeProc
              (fun db => some (db.spInventoryRemove ((s.inventory sid).slot req.slot.toNat).itemUid, ()))).setInventory sid
                ((s.inventory sid).setSlot req.slot.toNat {})
            exact ((used.broadcast _ (by rfl)).send _ _ (by rfl)).send _ _ (by rfl)
          · exact cleared_items (s.inventory sid) req.slot full
          · exact fun _ => rfl
          · rfl
        · have useless : ¬ consumable data ((s.inventory sid).slot req.slot.toNat).itemTid := by simp [consumable, known, kind]
          rw [if_pos kind, if_neg (fun used => useless used.2)]
          exact unchanged_own touched
  · rw [if_pos full, if_neg (fun used => full used.1)]
    exact unchanged_own touched

theorem equipped_inventory_owned (inv : Inventory) (slot : UInt8) (item : ItemData) (full : occupied inv slot) :
    (equippedInventory inv slot.toNat item).owned = inv.owned := by
  unfold equippedInventory
  split
  · exact Inventory.owned_equip_weapon inv slot.toNat full.1
  · exact Inventory.owned_equip_armor inv slot.toNat full.1

theorem equipped_player_gold (player : PlayerData) (item : ItemData) : (equippedPlayer player item).gold = player.gold := by
  unfold equippedPlayer
  split <;> rfl

theorem on_item_equip_booked (req : CsItemEquip) :
    Booked sid (fun other => if other = sid then {} else {}) s (onItemEquip data s sid req) := by
  have touched := (Becomes.start s).touchInventory sid
  unfold onItemEquip
  simp only [inventory_touch, occupied_or_refused]
  by_cases full : occupied (s.inventory sid) req.slot
  · rw [if_neg (not_not.mpr full)]
    cases known : data.findItem ((s.inventory sid).slot req.slot.toNat).itemTid with
    | none => exact unchanged_own touched
    | some item =>
        simp only
        by_cases kind : item.type = consumableType
        · rw [if_pos kind]
          exact unchanged_own (touched.send _ _ (by rfl))
        · rw [if_neg kind]
          apply becomes_own {} (equippedInventory (s.inventory sid) req.slot.toNat item) (s.gold sid) []
          · have kept := equipped_player_gold (s.player sid) item
            rw [Function.update_eq_self, Function.update_eq_self]
            have worn := ((touched.setInventory sid (equippedInventory (s.inventory sid) req.slot.toNat item)).keepGold sid
              (equippedPlayer (s.player sid) item) kept).executeProc (fun db => some (db.spEquipItem
                (equippedPlayer (s.player sid) item).charUid (equipSlotOf item) ((s.inventory sid).slot req.slot.toNat).itemUid, ()))
            exact ((worn.send _ _ (by rfl)).send _ _ (by rfl)).send _ _ (by rfl)
          · exact ⟨0, rfl, by rw [equipped_inventory_owned _ _ item full]⟩
          · exact fun _ => rfl
          · rfl
  · rw [if_pos full]
    exact unchanged_own touched

theorem affordable_iff (itemId : UInt16) (item : ItemData) (known : data.findItem itemId = some item) :
    affordable data s sid itemId ↔ ¬ (s.player sid).gold < item.price.toUInt64 := by
  rw [affordable, known, Option.any_some, decide_eq_true_iff, ServerState.gold, UInt64.not_lt]

theorem purchase_gold (gold : UInt64) (price : UInt32) (enough : ¬ gold < price.toUInt64) :
    (gold - price.toUInt64).toNat + price.toNat = gold.toNat := by
  have covered : price.toUInt64 ≤ gold := UInt64.not_lt.mp enough
  have bound : price.toNat ≤ gold.toNat := by simpa [UInt64.le_iff_toNat_le] using covered
  rw [UInt64.toNat_sub_of_le _ _ covered, UInt32.toNat_toUInt64]
  omega

theorem receipt_gold (gold : UInt64) (amount : UInt32) (bound : gold.toNat + amount.toNat < 2 ^ 64) :
    (gold + amount.toUInt64).toNat + 0 = gold.toNat + amount.toNat := by
  rw [UInt64.toNat_add, UInt32.toNat_toUInt64]
  omega

theorem on_shop_buy_becomes (req : CsShopBuy) (here : sid ∈ s.sessions) :
    (¬ (affordable data s sid req.itemId ∧ roomy s sid) ∧ Becomes s (onShopBuy data s sid req) s.inventory s.gold (fun _ => [])) ∨
      ∃ item slot uid, (affordable data s sid req.itemId ∧ roomy s sid) ∧ data.findItem req.itemId = some item ∧
        findEmptySlot (s.inventory sid) = some slot ∧ ¬ (s.player sid).gold < item.price.toUInt64 ∧
          Becomes s (onShopBuy data s sid req) (Function.update s.inventory sid ((s.inventory sid).setSlot slot ⟨uid, req.itemId⟩))
            (Function.update s.gold sid ((s.player sid).gold - item.price.toUInt64)) (fun _ => []) := by
  have start := Becomes.start s
  rw [onShopBuy]
  cases known : data.findItem req.itemId with
  | none =>
      have unsold : ¬ affordable data s sid req.itemId := by simp [affordable, known]
      exact .inl ⟨fun bought => unsold bought.1, start.send _ _ (by rfl)⟩
  | some item =>
      have price := affordable_iff data s sid req.itemId item known
      simp only [inventory_touch]
      by_cases poor : (s.player sid).gold < item.price.toUInt64
      · rw [if_pos poor]
        exact .inl ⟨fun bought => price.mp bought.1 poor, start.send _ _ (by rfl)⟩
      · rw [if_neg poor]
        cases free : findEmptySlot (s.inventory sid) with
        | none =>
            have crowded : ¬ roomy s sid := by simp [roomy, free]
            exact .inl ⟨fun bought => crowded bought.2, (start.touchInventory sid).send _ _ (by rfl)⟩
        | some slot =>
            have room : roomy s sid := by simp [roomy, free]
            have paid := ((start.touchInventory sid).setPlayer sid
              { s.player sid with gold := (s.player sid).gold - item.price.toUInt64 } here).executeProc
                (fun db => some (db.spInventoryAdd (s.player sid).charUid req.itemId))
            have given (uid : ItemUid) := paid.setInventory sid ((s.inventory sid).setSlot slot ⟨uid, req.itemId⟩)
            exact .inr ⟨item, slot, (addItemToDb ((s.touchInventory sid).setPlayer sid
              { s.player sid with gold := (s.player sid).gold - item.price.toUInt64 }) (s.player sid).charUid req.itemId).2,
              ⟨price.mpr poor, room⟩, rfl, rfl, poor, (((given _).fail _ _).send _ _ (by rfl)).send _ _ (by rfl)⟩

theorem on_shop_buy_booked (req : CsShopBuy) (real : ∀ item ∈ data.items, item.id ≠ 0) (here : sid ∈ s.sessions) :
    Booked sid (fun other => if other = sid then buyEntry data s sid req else {}) s (onShopBuy data s sid req) := by
  rcases on_shop_buy_becomes data s sid req here with ⟨refused, after⟩ | ⟨item, slot, uid, bought, known, free, enough, after⟩
  · rw [buyEntry, if_neg refused]
    exact unchanged_own after
  · have cost : priceOf data req.itemId = item.price := by simp [priceOf, known]
    have stocked : req.itemId ≠ 0 := by
      rw [← find_item_id data req.itemId item known]
      exact real item (List.mem_of_find?_eq_some known)
    rw [buyEntry, if_pos bought, cost]
    apply becomes_own _ _ ((s.player sid).gold - item.price.toUInt64) []
    · rw [Function.update_eq_self sid (fun _ => [])]
      exact after
    · exact filled_items (s.inventory sid) slot free _ req.itemId stocked
    · exact fun _ => purchase_gold _ _ enough
    · rfl

theorem on_shop_sell_booked (req : CsShopSell) (here : sid ∈ s.sessions) :
    Booked sid (fun other => if other = sid then sellEntry data s sid req else {}) s (onShopSell data s sid req) := by
  have touched := (Becomes.start s).touchInventory sid
  unfold onShopSell sellEntry
  simp only [inventory_touch, occupied_or_refused]
  by_cases full : occupied (s.inventory sid) req.slot
  · rw [if_neg (not_not.mpr full), if_pos full]
    have price : ((data.findItem ((s.inventory sid).slot req.slot.toNat).itemTid).map (fun item => item.price / 5)).getD 0 =
        priceOf data ((s.inventory sid).slot req.slot.toNat).itemTid / 5 := by
      unfold priceOf
      cases data.findItem ((s.inventory sid).slot req.slot.toNat).itemTid <;> rfl
    rw [price]
    apply becomes_own _ ((s.inventory sid).setSlot req.slot.toNat {})
      ((s.player sid).gold + (priceOf data ((s.inventory sid).slot req.slot.toNat).itemTid / 5).toUInt64) []
    · rw [Function.update_eq_self sid (fun _ => [])]
      have removed := touched.perhaps (((s.inventory sid).slot req.slot.toNat).itemUid ≠ 0) (touched.executeProc
        (fun db => some (db.spInventoryRemove ((s.inventory sid).slot req.slot.toNat).itemUid, ())))
      exact (((((removed.setPlayer sid _ here).fail _ _).setInventory sid _).send _ _ (by rfl)).send _ _ (by rfl))
    · exact cleared_items (s.inventory sid) req.slot full
    · exact receipt_gold _ _
    · rfl
  · rw [if_pos full, if_neg full]
    exact unchanged_own (touched.send _ _ (by rfl))

theorem give_item_delivers {s' : ServerState} {gold : SessionId → UInt64} (h : Becomes s s' s.inventory gold (fun _ => []))
    (itemId : UInt16) (real : ∀ item ∈ data.items, item.id ≠ 0) :
    ∃ inv told, Becomes s (giveItem data s' sid itemId) (Function.update s.inventory sid inv) gold (Function.update (fun _ => []) sid told) ∧
      (told : Multiset UInt16) = delivered data s sid itemId ∧
      ∃ gained : Multiset InvSlot, gained.map InvSlot.itemTid = delivered data s sid itemId ∧
        inv.owned + 0 = (s.inventory sid).owned + gained := by
  have touched := h.touchInventory sid
  have unchanged {t : ServerState} (after : Becomes s t s.inventory gold (fun _ => [])) (missing : delivered data s sid itemId = 0) :
      ∃ inv told, Becomes s t (Function.update s.inventory sid inv) gold (Function.update (fun _ => []) sid told) ∧
        (told : Multiset UInt16) = delivered data s sid itemId ∧
        ∃ gained : Multiset InvSlot, gained.map InvSlot.itemTid = delivered data s sid itemId ∧
          inv.owned + 0 = (s.inventory sid).owned + gained := by
    refine ⟨s.inventory sid, [], ?_, by rw [missing]; rfl, 0, by rw [missing]; rfl, rfl⟩
    rwa [Function.update_eq_self, Function.update_eq_self sid (fun _ => [])]
  unfold giveItem
  simp only [inventory_touch, h.inventories sid]
  cases free : findEmptySlot (s.inventory sid) with
  | none => exact unchanged touched (by simp [delivered, roomy, free])
  | some slot =>
      cases known : data.findItem itemId with
      | none => exact unchanged touched (by simp [delivered, known])
      | some item =>
          have given : delivered data s sid itemId = {itemId} := by simp [delivered, roomy, free, known]
          have same := find_item_id data itemId item known
          have stocked : itemId ≠ 0 := by
            rw [← same]
            exact real item (List.mem_of_find?_eq_some known)
          have added := (touched.executeProc (fun db => some (db.spInventoryAdd ((s'.touchInventory sid).player sid).charUid itemId))).setInventory sid
            ((s.inventory sid).setSlot slot ⟨(addItemToDb (s'.touchInventory sid) ((s'.touchInventory sid).player sid).charUid itemId).2, itemId⟩)
          have told := added.sendDrop sid { slot := UInt8.ofNat slot, itemId := item.id, itemName := strncpyS item.name 31 }
          rw [given]
          refine ⟨_, [item.id], told, by rw [same]; rfl, ?_⟩
          exact filled_items (s.inventory sid) slot free _ itemId stocked

theorem perhaps_delivers {s' : ServerState} {gold : SessionId → UInt64} (h : Becomes s s' s.inventory gold (fun _ => []))
    (itemId : UInt16) (real : ∀ item ∈ data.items, item.id ≠ 0) (condition : Prop) [Decidable condition] :
    ∃ inv told, Becomes s (if condition then giveItem data s' sid itemId else s') (Function.update s.inventory sid inv) gold
        (Function.update (fun _ => []) sid told) ∧
      (told : Multiset UInt16) = (if condition then delivered data s sid itemId else 0) ∧
      ∃ gained : Multiset InvSlot, gained.map InvSlot.itemTid = (if condition then delivered data s sid itemId else 0) ∧
        inv.owned + 0 = (s.inventory sid).owned + gained := by
  by_cases wanted : condition
  · simp only [wanted, if_true]
    exact give_item_delivers data s sid h itemId real
  · simp only [wanted, if_false]
    refine ⟨s.inventory sid, [], ?_, rfl, 0, rfl, rfl⟩
    rwa [Function.update_eq_self, Function.update_eq_self sid (fun _ => [])]

theorem completed_iff (questId : UInt16) (quest : QuestData) :
    completed data s sid questId = some quest ↔
      isNearQuestNpc (s.player sid) = true ∧ data.findQuest questId = some quest ∧
        ∃ state, (s.questLog sid)[questId]? = some state ∧ state.status = 2 := by
  unfold completed
  cases found : (s.questLog sid)[questId]? with
  | none => simp
  | some state =>
      simp only [Option.any_some, decide_eq_true_iff, Option.some.injEq, exists_eq_left', Option.ite_none_right_eq_some]
      tauto

theorem on_quest_complete_booked (req : CsQuestComplete) (real : ∀ item ∈ data.items, item.id ≠ 0) (here : sid ∈ s.sessions) :
    Booked sid (fun other => if other = sid then completeEntry data s sid req else {}) s (onQuestComplete data s sid req) := by
  have start := Becomes.start s
  have refused {t : ServerState} (after : Becomes s t s.inventory s.gold (fun _ => [])) (not : completed data s sid req.questId = none) :
      Booked sid (fun other => if other = sid then completeEntry data s sid req else {}) s t := by
    rw [completeEntry, not]
    exact unchanged_own after
  unfold onQuestComplete
  by_cases near : isNearQuestNpc (s.player sid) = true
  · rw [if_neg (by simp [near])]
    cases known : data.findQuest req.questId with
    | none => exact refused (start.send _ _ (by rfl)) (by simp [completed, known])
    | some quest =>
        simp only [quest_log_touch]
        have touched := start.touchQuestLog sid
        cases accepted : (s.questLog sid)[req.questId]? with
        | none => exact refused (touched.send _ _ (by rfl)) (by simp [completed, accepted])
        | some state =>
            simp only
            by_cases ready : state.status = 2
            · have done : completed data s sid req.questId = some quest :=
                (completed_iff data s sid req.questId quest).mpr ⟨near, known, state, accepted, ready⟩
              rw [if_neg (not_not.mpr ready), completeEntry, done]
              simp only
              have saved := (touched.setQuestLog sid ((s.questLog sid).insert req.questId { state with status := 3 })).executeProc
                (fun db => some (db.spQuestSave (s.player sid).charUid req.questId { state with status := 3 }, ()))
              have paid := saved.setPlayer sid (payQuest (s.player sid) quest) here
              obtain ⟨inv, told, given, announced, items⟩ := perhaps_delivers data s sid paid quest.rewardItemId real (quest.rewardItemId > 0)
              apply becomes_own _ inv ((s.player sid).gold + quest.rewardGold.toUInt64) told
              · exact ((((given.send sid _ (by rfl)).checkLevelUp sid).send sid _ (by rfl)).send sid _ (by rfl))
              · simpa using items
              · exact receipt_gold _ _
              · exact announced
            · rw [if_pos ready]
              refine refused (touched.send _ _ (by rfl)) ?_
              simp [completed, accepted, ready]
  · rw [if_pos (by simpa using near)]
    exact refused (start.send _ _ (by rfl)) (by simp [completed, near])

def entryPay (mid other : SessionId) (reward : UInt32) : Nat :=
  if other ∈ s.sessions ∧ other = mid then reward.toNat else 0

theorem credit_member_becomes {s' : ServerState} {inventory : SessionId → Inventory} {drops : SessionId → List UInt16}
    {gold : SessionId → UInt64} (exp reward : UInt32) (mid : SessionId) (h : Becomes s s' inventory gold drops) :
    Becomes s (creditMember data sid exp reward s' mid) inventory
      (fun other => gold other + UInt64.ofNat (entryPay s mid other reward)) drops := by
  have known : mid ∈ s'.sessions ↔ mid ∈ s.sessions := by rw [mem_line, h.lines mid, ← mem_line]
  unfold creditMember
  by_cases present : mid ∈ s.sessions
  · have credited := h.creditKill mid exp reward present
    have paid : Function.update gold mid (gold mid + reward.toUInt64) =
        fun other => gold other + UInt64.ofNat (entryPay s mid other reward) := by
      funext other
      by_cases same : other = mid
      · subst same
        rw [Function.update_self, entryPay, if_pos ⟨present, rfl⟩, UInt64.ofNat_uInt32ToNat]
      · rw [Function.update_of_ne same, entryPay, if_neg (fun both => same both.2)]
        simp
    rw [paid] at credited
    rw [if_neg (not_not.mpr (known.mpr present))]
    exact credited.perhaps (mid ≠ sid) (credited.updateQuestProgress data mid)
  · have unpaid : (fun other => gold other + UInt64.ofNat (entryPay s mid other reward)) = gold := by
      funext other
      have nothing : entryPay s mid other reward = 0 := by
        apply if_neg
        rintro ⟨there, rfl⟩
        exact present there
      simp [nothing]
    rw [if_pos (fun listed => present (known.mp listed)), unpaid]
    exact h

theorem credit_members_becomes {s' : ServerState} {inventory : SessionId → Inventory} {drops : SessionId → List UInt16}
    (exp reward : UInt32) (members : List SessionId) (gold : SessionId → UInt64) (h : Becomes s s' inventory gold drops) :
    Becomes s (members.foldl (creditMember data sid exp reward) s') inventory
      (fun other => gold other + UInt64.ofNat (if other ∈ s.sessions then members.count other * reward.toNat else 0)) drops := by
  induction members generalizing s' gold with
  | nil => simpa using h
  | cons first rest ih =>
      have rested := ih _ (credit_member_becomes data s sid exp reward first h)
      rw [List.foldl_cons]
      have sums : (fun other => gold other + UInt64.ofNat (entryPay s first other reward) +
          UInt64.ofNat (if other ∈ s.sessions then rest.count other * reward.toNat else 0)) =
          fun other => gold other + UInt64.ofNat (if other ∈ s.sessions then (first :: rest).count other * reward.toNat else 0) := by
        funext other
        rw [UInt64.add_assoc, ← UInt64.ofNat_add]
        congr 2
        by_cases present : other ∈ s.sessions
        · by_cases same : other = first
          · subst same
            simp [entryPay, present, Nat.succ_mul, Nat.add_comm]
          · simp [entryPay, present, same, Ne.symm same]
        · simp [entryPay, present]
      rwa [sums] at rested

theorem share_kill_becomes {s' : ServerState} {inventory : SessionId → Inventory} {gold : SessionId → UInt64}
    {drops : SessionId → List UInt16} (npc : Npc) (here : sid ∈ s.sessions) (party : s'.party = s.party)
    (h : Becomes s s' inventory gold drops) :
    Becomes s (shareKill data s' sid npc) inventory (fun other => gold other + UInt64.ofNat (killShare s sid other npc)) drops := by
  unfold shareKill killShare
  rw [party]
  cases placed : s.party.playerParty[sid]? with
  | some partyId =>
      have members : (s'.touchParty partyId).party.membersOf partyId = s.party.membersOf partyId := by
        rw [members_touch, party]
      simp only [members]
      exact credit_members_becomes data s sid _ _ _ gold ((h.touchParty partyId).fail _ _)
  | none =>
      have paid : Function.update gold sid (gold sid + npc.goldReward.toUInt64) =
          fun other => gold other + UInt64.ofNat (if other = sid then npc.goldReward.toNat else 0) := by
        funext other
        by_cases same : other = sid
        · subst same
          rw [Function.update_self, if_pos rfl, UInt64.ofNat_uInt32ToNat]
        · rw [Function.update_of_ne same, if_neg same]
          simp
      have credited := h.creditKill sid npc.expReward npc.goldReward here
      rwa [paid] at credited

theorem strike_becomes (index : Fin maxNpc) : Becomes s (strike s sid index) s.inventory s.gold (fun _ => []) :=
  ((Becomes.start s).setNpc _ _).send _ _ (by rfl)

theorem announce_death_becomes {s' : ServerState} {inventory : SessionId → Inventory} {gold : SessionId → UInt64}
    {drops : SessionId → List UInt16} (h : Becomes s s' inventory gold drops) (index : Fin maxNpc) :
    Becomes s (announceDeath s' index) inventory gold drops :=
  (h.broadcast _ (by rfl)).setNpc _ _

-- The drop is drawn from the roll the input brought; nothing before it draws.
theorem drop_item_delivers {s' : ServerState} {gold : SessionId → UInt64} (h : Becomes s s' s.inventory gold (fun _ => []))
    (rolls : s'.rolls = s.rolls) (real : ∀ item ∈ data.items, item.id ≠ 0) :
    ∃ inv told, Becomes s (dropItem data s' sid) (Function.update s.inventory sid inv) gold (Function.update (fun _ => []) sid told) ∧
      (told : Multiset UInt16) = (if (rollDrop data s).2 ≠ 0 then delivered data s sid (rollDrop data s).2 else 0) ∧
      ∃ gained : Multiset InvSlot,
        gained.map InvSlot.itemTid = (if (rollDrop data s).2 ≠ 0 then delivered data s sid (rollDrop data s).2 else 0) ∧
        inv.owned + 0 = (s.inventory sid).owned + gained := by
  have same : (rollDrop data s').2 = (rollDrop data s).2 := by
    unfold rollDrop ServerState.rand
    rw [rolls]
    split <;> rfl
  have drawn : Becomes s (rollDrop data s').1 s.inventory gold (fun _ => []) := by
    unfold rollDrop
    split
    · exact h
    · exact h.rolled.fail _ _
  rw [← same]
  exact perhaps_delivers data s sid drawn (rollDrop data s').2 real ((rollDrop data s').2 ≠ 0)

theorem credit_member_rolls (exp gold : UInt32) (s : ServerState) (mid : SessionId) :
    (creditMember data sid exp gold s mid).rolls = s.rolls := by
  unfold creditMember
  split
  · rfl
  · simp only
    split
    · exact Machine.foldl_frame (updateQuest data mid) ServerState.rolls
        (fun t entry => by unfold updateQuest; split <;> rfl) _ _
    · rfl

theorem share_kill_rolls (npc : Npc) : (shareKill data s sid npc).rolls = s.rolls := by
  unfold shareKill
  split
  · exact Machine.foldl_frame _ ServerState.rolls (fun t mid => credit_member_rolls data sid _ _ t mid) _ _
  · rfl

theorem update_quest_progress_rolls : (updateQuestProgress data s sid).rolls = s.rolls :=
  Machine.foldl_frame (updateQuest data sid) ServerState.rolls (fun t entry => by unfold updateQuest; split <;> rfl) _ _

theorem slain_some (req : CsAttack) (npc : Npc) (slew : slain s sid req = some npc) :
    ∃ index, findTarget s (s.player sid) req.targetUid = some index ∧ (struck (s.player sid) (getElem s.npcs index index.isLt)).hp = 0 ∧
      getElem s.npcs index index.isLt = npc := by
  obtain ⟨index, target, dead⟩ := Option.bind_eq_some_iff.mp slew
  split at dead
  · rename_i dies
    exact ⟨index, target, dies, Option.some.inj dead⟩
  · exact absurd dead nofun

theorem kill_npc_booked (index : Fin maxNpc) (real : ∀ item ∈ data.items, item.id ≠ 0) (here : sid ∈ s.sessions) :
    Booked sid (fun other =>
      { dropped := if other = sid ∧ (rollDrop data s).2 ≠ 0 then delivered data s sid (rollDrop data s).2 else 0,
        earned := killShare s sid other (getElem s.npcs index index.isLt) }) s (killNpc data (strike s sid index) sid index) := by
  have shared := share_kill_becomes data s sid (strike s sid index).npcs[index] here (by rfl)
    (announce_death_becomes s (strike_becomes s sid index) index)
  have rewards (other : SessionId) : killShare s sid other (strike s sid index).npcs[index] = killShare s sid other s.npcs[index] := by
    rw [strike_npc]
    rfl
  simp only [rewards] at shared
  have rolls : (updateQuestProgress data (shareKill data (announceDeath (strike s sid index) index) sid
      (strike s sid index).npcs[index]) sid).rolls = s.rolls := by
    rw [update_quest_progress_rolls, share_kill_rolls]
    rfl
  obtain ⟨inv, told, dropped, announced, items⟩ := drop_item_delivers data s sid (shared.updateQuestProgress data sid) rolls real
  apply becomes_booked _ inv told dropped.respawn
  · simpa using items
  · simpa using announced
  · intro other apart
    simp [apart]
  · intro other bound
    simp only at bound ⊢
    rw [UInt64.toNat_add, UInt64.toNat_ofNat']
    omega

theorem on_attack_booked (req : CsAttack) (real : ∀ item ∈ data.items, item.id ≠ 0) (here : sid ∈ s.sessions) :
    Booked sid (fun other => attackEntry data s sid other req) s (onAttack data s sid req) := by
  unfold attackEntry
  cases slew : slain s sid req with
  | some npc =>
      obtain ⟨index, target, dies, rfl⟩ := slain_some s sid req npc slew
      rw [on_attack_kills data s sid req index target dies]
      exact kill_npc_booked data s sid index real here
  | none =>
      unfold onAttack
      cases target : findTarget s (s.player sid) req.targetUid with
      | none =>
          simp only [target]
          exact becomes_unchanged ((Becomes.start s).send _ _ (by rfl))
      | some index =>
          have lives : (struck (s.player sid) s.npcs[index]).hp ≠ 0 := by
            intro dies
            have slays : slain s sid req = some s.npcs[index] := by
              rw [slain, target]
              exact if_pos dies
            rw [slays] at slew
            exact absurd slew (by simp)
          simp only [target, lives, if_false]
          exact becomes_unchanged (strike_becomes s sid index)

end Requests

def Trades : Request → Prop
  | .itemUse _ | .itemEquip _ | .shopBuy _ | .shopSell _ | .questComplete _ | .attack _ => True
  | _ => False

def Trading (input : Input) : Prop := ∃ sid request, input.event = .packet sid request ∧ Trades request

section Sequences

variable (data : GameData)

def entryAt (other : SessionId) (s : ServerState) (input : Input) : Entry :=
  match input.event with
  | .packet sid request =>
      if s.fault = none ∧ sid ∈ s.sessions then entryOf data (facing s input) sid other request else {}
  | _ => {}

def entriesOf (other : SessionId) : ServerState → List Input → Entry
  | _, [] => {}
  | s, input :: rest => (entryAt data other s input).add (entriesOf other (step data s input) rest)

theorem handle_booked (s : ServerState) (sid : SessionId) (request : Request) (trades : Trades request)
    (real : ∀ item ∈ data.items, item.id ≠ 0) (here : sid ∈ s.sessions) :
    Booked sid (fun other => entryOf data s sid other request) s (handle data s sid request) := by
  cases request with
  | itemUse req => exact on_item_use_booked data s sid req
  | itemEquip req =>
      have nothing : (fun other => entryOf data s sid other (.itemEquip req)) = fun other => if other = sid then {} else {} :=
        funext (fun _ => (ite_self _).symm)
      rw [nothing]
      exact on_item_equip_booked data s sid req
  | shopBuy req => exact on_shop_buy_booked data s sid req real here
  | shopSell req => exact on_shop_sell_booked data s sid req here
  | questComplete req => exact on_quest_complete_booked data s sid req real here
  | attack req => exact on_attack_booked data s sid req real here
  | _ => exact trades.elim

theorem step_booked (s : ServerState) (input : Input) (trading : Trading input) (real : ∀ item ∈ data.items, item.id ≠ 0) :
    (∀ other, Balanced other (entryAt data other s input) s (step data s input)) ∧
      ∀ other, (∀ request, input.event ≠ .packet other request) → (step data s input).inventory other = s.inventory other := by
  obtain ⟨sid, request, same, trades⟩ := trading
  have entry (other : SessionId) : entryAt data other s input =
      if s.fault = none ∧ sid ∈ s.sessions then entryOf data (facing s input) sid other request else {} := by
    rw [entryAt, same]
  by_cases acts : s.fault = none ∧ sid ∈ s.sessions
  · have booked := handle_booked data (facing s input) sid request trades real acts.2
    rw [step_alive data s input acts.1, same, handle_event_here data (facing s input) sid request acts.2]
    constructor
    · intro other
      rw [entry other, if_pos acts]
      have kept := booked.balanced other
      exact ⟨kept.items, kept.gold, kept.announced, kept.line⟩
    · intro other silent
      exact booked.others other (fun self => silent request (self ▸ rfl))
  · have idle : (step data s input).inventories = s.inventories ∧ (step data s input).sessions = s.sessions ∧
        (step data s input).sent = s.sent := by
      cases dead : s.fault with
      | some fault =>
          rw [step_dead data s input fault dead]
          exact ⟨rfl, rfl, rfl⟩
      | none =>
          have absent : sid ∉ s.sessions := fun here => acts ⟨dead, here⟩
          rw [step_alive data s input dead, same, handle_event_absent data (facing s input) sid request absent]
          exact ⟨rfl, rfl, rfl⟩
    have unchanged : Booked sid (fun _ => {}) s (step data s input) :=
      becomes_unchanged ((Becomes.start s).same idle.1 idle.2.1 idle.2.2)
    constructor
    · intro other
      rw [entry other, if_neg acts]
      exact unchanged.balanced other
    · intro other _
      simp only [ServerState.inventory, idle.1]

theorem ledger_balances (real : ∀ item ∈ data.items, item.id ≠ 0) (s : ServerState) (inputs : List Input)
    (trading : ∀ input ∈ inputs, Trading input) :
    (∀ other, Balanced other (entriesOf data other s inputs) s (Machine.run (step data) s inputs)) ∧
      ∀ other, (∀ input ∈ inputs, ∀ request, input.event ≠ .packet other request) →
        (Machine.run (step data) s inputs).inventory other = s.inventory other := by
  induction inputs generalizing s with
  | nil => exact ⟨fun other => balanced_refl other s, fun _ _ => rfl⟩
  | cons input rest ih =>
      obtain ⟨booked, others⟩ := step_booked data s input (trading input List.mem_cons_self) real
      obtain ⟨laterBooked, laterOthers⟩ := ih (step data s input) (fun later member => trading later (List.mem_cons_of_mem input member))
      constructor
      · intro other
        exact balanced_trans other _ _ s _ _ (booked other) (laterBooked other)
      · intro other silent
        have first := others other (silent input List.mem_cons_self)
        exact (laterOthers other (fun later member => silent later (List.mem_cons_of_mem input member))).trans first

def shopData : GameData := { emptyData with items := [{ id := 1, name := [83], type := [119], atk := 5, price := 10 }] }

def richCharacters : Database := { twoCharacters with characters := twoCharacters.characters.addGold 1 100 }

def shopping : List Input :=
  [⟨.packet 1 (.shopBuy ⟨1⟩), [], []⟩, ⟨.packet 1 (.shopBuy ⟨1⟩), [], []⟩, ⟨.packet 1 (.itemEquip ⟨0⟩), [], []⟩,
    ⟨.packet 1 (.shopSell ⟨1⟩), [], []⟩]

def shopper : ServerState := Machine.run (step shopData) (boot richCharacters (fun _ => 0)) (crossedInvites.take 6)

theorem shopping_balances :
    Balanced 1 { lost := {⟨2, 1⟩}, bought := {1, 1}, spent := 20, earned := 2 } shopper (Machine.run (step shopData) shopper shopping) := by
  have books : entriesOf shopData 1 shopper shopping = { lost := {⟨2, 1⟩}, bought := {1, 1}, spent := 20, earned := 2 } := by
    decide +kernel
  have trading : ∀ input ∈ shopping, Trading input := by
    intro input member
    simp only [shopping, List.mem_cons, List.not_mem_nil, or_false] at member
    rcases member with rfl | rfl | rfl | rfl <;> exact ⟨1, _, rfl, trivial⟩
  rw [← books]
  exact (ledger_balances shopData (by decide) shopper shopping trading).1 1

end Sequences

end MmorpgSimulator
