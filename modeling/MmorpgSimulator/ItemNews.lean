import MmorpgSimulator.Reselection
import MmorpgSimulator.NpcMirrors
import MmorpgSimulator.Shop
import MmorpgSimulator.QuestRewards

set_option autoImplicit false

namespace MmorpgSimulator

def wardrobe (client : Client) : Vector ShownSlot maxInventory × Bytes × Bytes :=
  (client.inventory, client.equippedWeapon, client.equippedArmor)

def Named (data : GameData) (itemTid : UInt16) (name : Bytes) : Prop :=
  itemTid = 0 ∧ name = [] ∨ ∃ item, data.findItem itemTid = some item ∧ name = strncpyS item.name 31

structure ShowsItems (data : GameData) (inv : Inventory) (client : Client) : Prop where
  slots : ∀ index : Fin maxInventory, (getElem client.inventory index index.isLt).itemId = (inv.slot index).itemTid
  weapon : Named data inv.weaponTid client.equippedWeapon
  armor : Named data inv.armorTid client.equippedArmor

section Messages

def SaysGear : Message → Prop
  | .equipResult _ => True
  | message => SaysItems message

theorem hushed_gear (message : Message) (silent : ¬ SaysGear message) : Hushed wardrobe message := by
  intro client
  cases message with
  | itemDrop drop => exact absurd trivial silent
  | inventoryUpdate upd => exact absurd trivial silent
  | inventoryList list => exact absurd trivial silent
  | equipResult result => exact absurd trivial silent
  | charInfo info =>
      rw [Client.receive, Client.onCharInfo]
      split
      · rfl
      · split <;> rfl
  | moveResult result =>
      rw [Client.receive, Client.onMoveResult]
      split <;> rfl
  | attackResult result =>
      rw [Client.receive, Client.onAttackResult]
      split <;> rfl
  | attendanceResult result =>
      rw [Client.receive, Client.onAttendanceResult]
      split <;> rfl
  | questAcceptResult result =>
      rw [Client.receive, Client.onQuestAcceptResult]
      split <;> rfl
  | questReward reward =>
      rw [Client.receive, Client.onQuestRewardResult]
      split <;> rfl
  | partyLeave leave =>
      rw [Client.receive, Client.onPartyLeaveRecv]
      split <;> rfl
  | _ => rfl

variable {data : GameData} {inv : Inventory} {client other : Client}

theorem ShowsItems.same (shows : ShowsItems data inv client) (same : wardrobe other = wardrobe client) : ShowsItems data inv other := by
  simp only [wardrobe, Prod.mk.injEq] at same
  obtain ⟨slots, weapon, armor⟩ := same
  refine ⟨fun index => ?_, ?_, ?_⟩
  · rw [slots]
    exact shows.slots index
  · rw [weapon]
    exact shows.weapon
  · rw [armor]
    exact shows.armor

theorem ShowsItems.place (shows : ShowsItems data inv client) (slot : Nat) (bound : slot < maxInventory) (item : InvSlot) (entry : ShownSlot)
    (agree : entry.itemId = item.itemTid) :
    ShowsItems data (inv.setSlot slot item) { client with inventory := client.inventory.setIfInBounds slot entry } := by
  refine ⟨fun index => ?_, shows.weapon, shows.armor⟩
  rw [Inventory.slot_set_slot inv slot index item bound]
  by_cases same : index.val = slot
  · rw [if_pos same]
    simp [same, agree]
  · have still := shows.slots index
    rw [if_neg same]
    simpa [Ne.symm same] using still

theorem slot_byte (slot : Nat) (bound : slot < maxInventory) : (UInt8.ofNat slot).toNat = slot := by
  have small : slot < 20 := bound
  simp only [UInt8.toNat_ofNat']
  omega

theorem short_name (name : Bytes) : strncpyS (strncpyS name 31) 31 = strncpyS name 31 := by
  rw [strncpyS, strncpyS, List.take_take, min_self]

theorem told_named (data : GameData) (itemTid : UInt16) (known : itemTid = 0 ∨ (data.findItem itemTid).isSome) :
    Named data itemTid (strncpyS (itemName data itemTid) 31) := by
  cases found : data.findItem itemTid with
  | some item =>
      refine .inr ⟨item, found, ?_⟩
      rw [itemName, found]
      exact short_name item.name
  | none =>
      refine .inl ⟨?_, ?_⟩
      · simpa [found] using known
      · rw [itemName, found]
        rfl

theorem Named.known {itemTid : UInt16} {name : Bytes} (named : Named data itemTid name) : itemTid = 0 ∨ (data.findItem itemTid).isSome := by
  rcases named with ⟨nothing, _⟩ | ⟨item, found, _⟩
  · exact .inl nothing
  · exact .inr (found ▸ rfl)

theorem equip_result_shows (slots : ∀ index : Fin maxInventory, (getElem client.inventory index index.isLt).itemId = (inv.slot index).itemTid)
    (weapon : inv.weaponTid = 0 ∨ (data.findItem inv.weaponTid).isSome) (armor : inv.armorTid = 0 ∨ (data.findItem inv.armorTid).isSome)
    (result : ScEquipResult) (success : result.success = 1) (weaponName : result.weaponName = itemName data inv.weaponTid)
    (armorName : result.armorName = itemName data inv.armorTid) : ShowsItems data inv (client.receive (.equipResult result)) := by
  have worn : client.receive (.equipResult result) =
      { client with
        myPlayer := { client.myPlayer with atk := result.atk, defense := result.defense }
        equippedWeapon := strncpyS result.weaponName 31
        equippedArmor := strncpyS result.armorName 31 } := by
    rw [Client.receive, Client.onEquipResult, if_pos (by rw [success]; decide)]
  rw [worn]
  refine ⟨slots, ?_, ?_⟩
  · rw [weaponName]
    exact told_named data _ weapon
  · rw [armorName]
    exact told_named data _ armor

theorem hushed_refusal (result : ScEquipResult) (refused : result.success = 0) : Hushed wardrobe (.equipResult result) := by
  intro client
  rw [Client.receive, Client.onEquipResult, if_neg (not_not.mpr refused)]

structure Mirroring (data : GameData) (View : Inventory → Client → Prop) : Prop where
  same : ∀ {inv client other}, View inv client → wardrobe other = wardrobe client → View inv other
  place : ∀ {inv client}, View inv client → ∀ slot, slot < maxInventory → ∀ (item : InvSlot) (entry : ShownSlot), entry.itemId = item.itemTid →
    View (inv.setSlot slot item) { client with inventory := client.inventory.setIfInBounds slot entry }
  wield : ∀ {inv client}, View inv client → ∀ item : InvSlot, (data.findItem item.itemTid).isSome → ∀ result : ScEquipResult,
    result.success = 1 → result.weaponName = itemName data item.itemTid → result.armorName = itemName data inv.armorTid →
      View (inv.setWeapon item) (client.receive (.equipResult result))
  don : ∀ {inv client}, View inv client → ∀ item : InvSlot, (data.findItem item.itemTid).isSome → ∀ result : ScEquipResult,
    result.success = 1 → result.weaponName = itemName data inv.weaponTid → result.armorName = itemName data item.itemTid →
      View (inv.setArmor item) (client.receive (.equipResult result))

theorem items_mirroring (data : GameData) : Mirroring data (ShowsItems data) where
  same := ShowsItems.same
  place := ShowsItems.place
  wield := by
    intro inv client shows item known result success weaponName armorName
    exact @equip_result_shows data (inv.setWeapon item) client shows.slots (.inr known) shows.armor.known result success weaponName armorName
  don := by
    intro inv client shows item known result success weaponName armorName
    exact @equip_result_shows data (inv.setArmor item) client shows.slots shows.weapon.known (.inr known) result success weaponName armorName

-- The part of it that lasts through a second selection: where the server holds an
-- item that items.json knows, the client shows it.
def ShowsHeld (data : GameData) (inv : Inventory) (client : Client) : Prop :=
  ∀ index : Fin maxInventory, (inv.slot index).itemTid ≠ 0 → (data.findItem (inv.slot index).itemTid).isSome →
    (getElem client.inventory index index.isLt).itemId = (inv.slot index).itemTid

theorem held_mirroring (data : GameData) : Mirroring data (ShowsHeld data) where
  same := by
    intro inv client other shows same index held known
    rw [(Prod.mk.inj same).1]
    exact shows index held known
  place := by
    intro inv client shows slot bound item entry agree index held known
    rw [Inventory.slot_set_slot inv slot index item bound] at held known ⊢
    by_cases same : index.val = slot
    · rw [if_pos same]
      simp [same, agree]
    · rw [if_neg same] at held known ⊢
      have still := shows index held known
      simpa [Ne.symm same] using still
  wield := by
    intro inv client shows item _ result _ _ _ index held known
    rw [hushed_items (.equipResult result) id client]
    exact shows index held known
  don := by
    intro inv client shows item _ result _ _ _ index held known
    rw [hushed_items (.equipResult result) id client]
    exact shows index held known

namespace Mirroring

variable {View : Inventory → Client → Prop} (mirroring : Mirroring data View) (shows : View inv client)
include mirroring shows

theorem itemDrop (slot : Nat) (bound : slot < maxInventory) (itemUid : ItemUid) (item : ItemData) (name : Bytes) :
    View (inv.setSlot slot ⟨itemUid, item.id⟩) (client.receive (.itemDrop { slot := UInt8.ofNat slot, itemId := item.id, itemName := name })) := by
  have placed := mirroring.place shows slot bound ⟨itemUid, item.id⟩ ⟨item.id, strncpyS name 31⟩ rfl
  rwa [Client.receive, Client.onItemDrop, slot_byte slot bound]

theorem inventoryUpdate (slot : UInt8) (bound : slot.toNat < maxInventory) (item : InvSlot) (upd : ScInventoryUpdate)
    (names : upd.slot = slot) (tells : upd.itemId = item.itemTid) :
    View (inv.setSlot slot.toNat item) (client.receive (.inventoryUpdate upd)) := by
  have placed := mirroring.place shows slot.toNat bound item ⟨upd.itemId, if upd.itemId ≠ 0 then strncpyS upd.itemName 31 else []⟩ tells
  rwa [Client.receive, Client.onInventoryUpdate, names]

theorem equipped (slot : UInt8) (held : occupied inv slot) (item : ItemData)
    (known : data.findItem (inv.slot slot.toNat).itemTid = some item) (result : ScEquipResult) (success : result.success = 1)
    (weaponName : result.weaponName = itemName data (equippedInventory inv slot.toNat item).weaponTid)
    (armorName : result.armorName = itemName data (equippedInventory inv slot.toNat item).armorTid) :
    View (equippedInventory inv slot.toNat item) ([.equipResult result, .inventoryUpdate
      (slotUpdate data slot ((equippedInventory inv slot.toNat item).slot slot.toNat).itemTid)].foldl Client.receive client) := by
  have chosen : (data.findItem (inv.slot slot.toNat).itemTid).isSome := known ▸ rfl
  by_cases weapon : item.type = weaponType
  · have swapped : equippedInventory inv slot.toNat item = (inv.setWeapon (inv.slot slot.toNat)).setSlot slot.toNat inv.weapon := if_pos weapon
    rw [swapped] at weaponName armorName ⊢
    have told := mirroring.wield shows (inv.slot slot.toNat) chosen result success weaponName armorName
    refine mirroring.inventoryUpdate told slot held.1 inv.weapon _ rfl ?_
    rw [slotUpdate, Inventory.slot_set_slot _ slot.toNat slot.toNat _ held.1, if_pos rfl]
  · have swapped : equippedInventory inv slot.toNat item = (inv.setArmor (inv.slot slot.toNat)).setSlot slot.toNat inv.armor := if_neg weapon
    rw [swapped] at weaponName armorName ⊢
    have told := mirroring.don shows (inv.slot slot.toNat) chosen result success weaponName armorName
    refine mirroring.inventoryUpdate told slot held.1 inv.armor _ rfl ?_
    rw [slotUpdate, Inventory.slot_set_slot _ slot.toNat slot.toNat _ held.1, if_pos rfl]

end Mirroring

end Messages

section Requests

def Request.MovesItems : Request → Prop
  | .charSelect _ | .itemUse _ | .itemEquip _ | .shopBuy _ | .shopSell _ | .attack _ | .questComplete _ => True
  | _ => False

theorem answers_gearless (request : Request) (plain : ¬ request.MovesItems) (message : Message) (answers : request.Answers message) :
    ¬ SaysGear message := by
  cases request with
  | charSelect req => exact absurd trivial plain
  | itemUse req => exact absurd trivial plain
  | itemEquip req => exact absurd trivial plain
  | shopBuy req => exact absurd trivial plain
  | shopSell req => exact absurd trivial plain
  | attack atk => exact absurd trivial plain
  | questComplete req => exact absurd trivial plain
  | _ => cases message <;> first | exact id | exact absurd answers id

end Requests

section Frames

def SameItems (s t : ServerState) : Prop := ∀ sid, t.inventory sid = s.inventory sid

theorem items_frame : Frame SameItems where
  trans := fun first second sid => (second sid).trans (first sid)
  idle := fun idle => idle.inventories
  profile := fun _ _ _ _ _ => rfl
  call := fun _ _ _ _ _ => rfl

theorem items_logs : Logs SameItems := ⟨fun _ _ _ _ => rfl, fun _ _ _ _ _ => rfl⟩

theorem items_grows : Grows SameItems (fun _ => SameItems) := grows_of_progress items_frame (fun _ _ _ _ _ => rfl)

end Frames

section Handlers

variable (View : Inventory → Client → Prop) (clients : SessionId → Client) (sid : SessionId)

def KeepsUp (s t : ServerState) : Prop := View (s.inventory sid) (shown clients s sid) → View (t.inventory sid) (shown clients t sid)

variable {View clients sid} {s t u : ServerState}

theorem KeepsUp.trans (first : KeepsUp View clients sid s t) (second : KeepsUp View clients sid t u) : KeepsUp View clients sid s u :=
  fun shows => second (first shows)

theorem shown_send_all (messages : List Message) (open_ : t.line sid = some true) :
    shown clients (t.sendAll sid messages) sid = messages.foldl Client.receive (shown clients t sid) := by
  rw [shown_sends clients sid t (t.sendAll sid messages) _ rfl]
  congr 1
  induction messages with
  | nil => rfl
  | cons message rest ih => rw [List.flatMap_cons, inbox_append, inbox_deliver, if_pos ⟨rfl, open_⟩, ih, List.singleton_append]

theorem send_all_unseen {View : Type} {view : Client → View} (owner : SessionId) (messages : List Message) (apart : owner ≠ sid) :
    Unseen view clients sid t (t.sendAll owner messages) := by
  refine elsewhere_unseen (messages.flatMap (t.deliver owner)) (fun entry member => ?_) rfl
  obtain ⟨message, _, delivered⟩ := List.mem_flatMap.mp member
  rw [deliver_to t owner message entry delivered]
  exact apart

theorem send_one (s : ServerState) (owner : SessionId) (message : Message) : s.send owner message = s.sendAll owner [message] := by
  rw [ServerState.send, ServerState.sendAll, List.flatMap_singleton]

theorem send_two (s : ServerState) (owner : SessionId) (first second : Message) :
    (s.send owner first).send owner second = s.sendAll owner [first, second] := by
  have later : (s.send owner first).deliver owner second = s.deliver owner second := rfl
  rw [ServerState.send, later, ServerState.send, ServerState.sendAll]
  simp [List.append_assoc]

theorem on_shop_buy_elsewhere (data : GameData) (owner : SessionId) (req : CsShopBuy) (here : owner ∈ s.sessions) (apart : sid ≠ owner) :
    (onShopBuy data s owner req).inventory sid = s.inventory sid := by
  rcases on_shop_buy_becomes data s owner req here with ⟨_, after⟩ | ⟨item, slot, uid, _, _, _, _, after⟩
  · exact after.inventories sid
  · exact (after.inventories sid).trans (Function.update_of_ne apart _ _)

variable {data : GameData} (mirroring : Mirroring data View)
include mirroring

theorem keeps_up_quiet (quiet : Unseen wardrobe clients sid s t) (items : t.inventory sid = s.inventory sid) : KeepsUp View clients sid s t := by
  intro shows
  rw [items]
  exact mirroring.same shows quiet

theorem keeps_up_speaks {kind : Message → Prop} (told : Speaks kind s t) (silent : ∀ message, kind message → ¬ SaysGear message)
    (items : t.inventory sid = s.inventory sid) : KeepsUp View clients sid s t :=
  keeps_up_quiet mirroring ((told.weaken (fun message spoken => hushed_gear message (silent message spoken))).unseen clients sid) items

theorem keeps_up_told (owner : SessionId) (messages : List Message) (quiet : Unseen wardrobe clients sid s t)
    (sent : u.sent = (t.sendAll owner messages).sent) (open_ : t.line sid = some true)
    (own : owner = sid → ∀ client, View (s.inventory sid) client →
      View (u.inventory sid) (messages.foldl Client.receive client))
    (others : owner ≠ sid → u.inventory sid = s.inventory sid) : KeepsUp View clients sid s u := by
  by_cases same : owner = sid
  · subst same
    intro shows
    have told : shown clients u owner = shown clients (t.sendAll owner messages) owner := by rw [shown, shown, sent]
    rw [told, shown_send_all messages open_]
    exact own rfl _ (mirroring.same shows quiet)
  · exact keeps_up_quiet mirroring ((quiet.trans (send_all_unseen owner messages same)).trans (unseen_same sent)) (others same)

theorem give_item_keeps_up (owner : SessionId) (itemId : UInt16) (open_ : s.line sid = some true) :
    KeepsUp View clients sid s (giveItem data s owner itemId) := by
  have touched : KeepsUp View clients sid s (s.touchInventory owner) := keeps_up_quiet mirroring (unseen_same rfl) (inventory_touch s owner sid)
  rw [giveItem]
  simp only [inventory_touch]
  cases free : findEmptySlot (s.inventory owner) with
  | none => exact touched
  | some slot =>
      cases known : data.findItem itemId with
      | none => exact touched
      | some item =>
          obtain ⟨bound, _⟩ := Inventory.find_empty_slot (s.inventory owner) slot free
          obtain rfl := find_item_id data itemId item known
          simp only
          rw [send_one]
          let stored := (addItemToDb (s.touchInventory owner) ((s.touchInventory owner).player owner).charUid item.id).1.setInventory owner
            ((s.inventory owner).setSlot slot
              ⟨(addItemToDb (s.touchInventory owner) ((s.touchInventory owner).player owner).charUid item.id).2, item.id⟩)
          refine keeps_up_told mirroring (t := stored) owner _ (unseen_same (by rfl)) rfl open_ ?_ (fun apart => ?_)
          · rintro rfl client shows
            change View (stored.inventory owner) _
            rw [inventory_set_self]
            exact mirroring.itemDrop shows slot bound _ item _
          · exact (inventory_set_other _ owner sid _ apart.symm).trans (inventory_touch s owner sid)

theorem on_item_use_keeps_up (owner : SessionId) (req : CsItemUse) (open_ : s.line sid = some true) :
    KeepsUp View clients sid s (onItemUse data s owner req) := by
  have touched : KeepsUp View clients sid s (s.touchInventory owner) := keeps_up_quiet mirroring (unseen_same rfl) (inventory_touch s owner sid)
  rw [onItemUse]
  simp only [inventory_touch, occupied_or_refused]
  by_cases held : occupied (s.inventory owner) req.slot
  · rw [if_neg (not_not.mpr held)]
    cases known : data.findItem ((s.inventory owner).slot req.slot.toNat).itemTid with
    | none => exact touched
    | some item =>
        by_cases kind : item.type = consumableType
        · simp only [if_neg (not_not.mpr kind)]
          let healed := removeItemFromDb ((s.touchInventory owner).setPlayer owner
            { s.player owner with hp := min ((s.player owner).hp + item.hp) (s.player owner).maxHp })
            ((s.inventory owner).slot req.slot.toNat).itemUid
          let used := (healed.setInventory owner ((s.inventory owner).setSlot req.slot.toNat {})).broadcast (.itemUseResult
            { charUid := (s.player owner).charUid, charName := strncpyS (s.player owner).name 19, itemName := strncpyS item.name 31,
              effectType := 0, effectValue := item.hp })
          have quiet : Unseen wardrobe clients sid s used := Unseen.broadcast (unseen_same rfl) _ (hushed_gear _ id)
          have line : used.line sid = some true := (line_set_player (s.touchInventory owner) owner sid _).trans open_
          have told : KeepsUp View clients sid s (used.send owner (.inventoryUpdate { slot := req.slot, itemId := 0 })) := by
            rw [send_one]
            refine keeps_up_told mirroring owner _ quiet rfl line ?_ (fun apart => ?_)
            · rintro rfl client shows
              have items : used.inventory owner = (s.inventory owner).setSlot req.slot.toNat {} := inventory_set_self healed owner _
              change View (used.inventory owner) _
              rw [items]
              exact mirroring.inventoryUpdate shows req.slot held.1 {} _ rfl rfl
            · exact (inventory_set_other healed owner sid _ apart.symm).trans (inventory_touch s owner sid)
          exact told.trans (keeps_up_quiet mirroring ((unseen_same rfl).send owner _ (hushed_gear _ id)) rfl)
        · simp only [if_pos kind]
          exact touched
  · rw [if_pos held]
    exact touched

theorem on_item_equip_keeps_up (owner : SessionId) (req : CsItemEquip) (open_ : s.line sid = some true) :
    KeepsUp View clients sid s (onItemEquip data s owner req) := by
  have touched : KeepsUp View clients sid s (s.touchInventory owner) := keeps_up_quiet mirroring (unseen_same rfl) (inventory_touch s owner sid)
  rw [onItemEquip]
  simp only [inventory_touch, occupied_or_refused]
  by_cases held : occupied (s.inventory owner) req.slot
  · rw [if_neg (not_not.mpr held)]
    cases known : data.findItem ((s.inventory owner).slot req.slot.toNat).itemTid with
    | none => exact touched
    | some item =>
        by_cases kind : item.type = consumableType
        · simp only [if_pos kind]
          exact touched.trans (keeps_up_quiet mirroring ((unseen_same rfl).send owner _ (hushed_refusal _ rfl)) rfl)
        · simp only [if_neg kind]
          let inv' := equippedInventory (s.inventory owner) req.slot.toNat item
          let worn := equipItemDb (((s.touchInventory owner).setInventory owner inv').setPlayer owner (equippedPlayer (s.player owner) item))
            (equippedPlayer (s.player owner) item).charUid (equipSlotOf item) ((s.inventory owner).slot req.slot.toNat).itemUid
          have line : worn.line sid = some true := (line_set_player _ owner sid _).trans open_
          have items (other : SessionId) : worn.inventory other = ((s.touchInventory owner).setInventory owner inv').inventory other := rfl
          have told (result : ScEquipResult) (success : result.success = 1) (weaponName : result.weaponName = itemName data inv'.weaponTid)
              (armorName : result.armorName = itemName data inv'.armorTid) : KeepsUp View clients sid s ((worn.send owner (.equipResult result)).send
                owner (.inventoryUpdate (slotUpdate data req.slot (inv'.slot req.slot.toNat).itemTid))) := by
            rw [send_two]
            refine keeps_up_told mirroring (t := worn) owner _ (unseen_same (by rfl)) rfl line ?_ (fun apart => ?_)
            · rintro rfl client shows
              change View (worn.inventory owner) _
              rw [items, inventory_set_self]
              exact mirroring.equipped shows req.slot held item known result success weaponName armorName
            · change worn.inventory sid = _
              rw [items, inventory_set_other _ owner sid _ apart.symm]
              exact inventory_touch s owner sid
          exact (told _ rfl rfl rfl).trans (keeps_up_quiet mirroring ((unseen_same rfl).send owner _ (hushed_gear _ id)) rfl)
  · rw [if_pos held]
    exact touched

theorem on_shop_buy_keeps_up (owner : SessionId) (req : CsShopBuy) (here : owner ∈ s.sessions) (open_ : s.line sid = some true) :
    KeepsUp View clients sid s (onShopBuy data s owner req) := by
  cases bought : purchase data s owner req with
  | none =>
      obtain ⟨kept, _, _, sent⟩ := on_shop_buy_refused data s owner req bought
      have quiet : Unseen wardrobe clients sid s (onShopBuy data s owner req) :=
        ((unseen_same rfl).send owner _ (hushed_gear _ id)).trans (unseen_same (t := onShopBuy data s owner req) sent)
      refine keeps_up_quiet mirroring quiet ?_
      by_cases own : sid = owner
      · exact own ▸ kept.inventory
      · exact on_shop_buy_elsewhere data owner req here own
  | some pair =>
      obtain ⟨item, slot⟩ := pair
      obtain ⟨buys, _, _, sent⟩ := on_shop_buy_done data s owner req item slot bought here
      obtain ⟨known, _, free⟩ := purchase_spec data s owner req item slot bought
      obtain ⟨bound, _⟩ := Inventory.find_empty_slot (s.inventory owner) slot free
      refine keeps_up_told mirroring owner _ (unseen_same rfl) (sent.trans (congrArg ServerState.sent (send_two s owner _ _))) open_ ?_
        (fun apart => on_shop_buy_elsewhere data owner req here apart.symm)
      rintro rfl client shows
      rw [buys.inventory]
      have filled := mirroring.inventoryUpdate shows (UInt8.ofNat slot) (by rwa [slot_byte slot bound]) ⟨addedUid s, req.itemId⟩
        { slot := UInt8.ofNat slot, itemId := item.id, itemName := strncpyS item.name 31 } rfl (find_item_id data _ item known)
      rw [slot_byte slot bound] at filled
      exact mirroring.same filled (hushed_gear (.shopResult (shopBuyResult data s owner req)) id _)

theorem on_shop_sell_keeps_up (owner : SessionId) (req : CsShopSell) (here : owner ∈ s.sessions) (open_ : s.line sid = some true) :
    KeepsUp View clients sid s (onShopSell data s owner req) := by
  by_cases held : occupied (s.inventory owner) req.slot
  · obtain ⟨reply, after, sent⟩ := on_shop_sell_done data owner req held here
    refine keeps_up_told mirroring owner _ (unseen_same rfl) (sent.trans (congrArg ServerState.sent (send_two s owner _ _))) open_ ?_ (fun apart => ?_)
    · rintro rfl client shows
      rw [after.inventories, Function.update_self]
      have cleared := mirroring.inventoryUpdate shows req.slot held.1 {} { slot := req.slot, itemId := 0 } rfl rfl
      exact mirroring.same cleared (hushed_gear (.shopResult reply) id _)
    · exact (after.inventories sid).trans (Function.update_of_ne apart.symm _ _)
  · rw [on_shop_sell_refused data owner req held]
    exact keeps_up_quiet mirroring ((unseen_same rfl).send owner _ (hushed_gear _ id)) (inventory_touch s owner sid)

theorem drop_item_keeps_up (owner : SessionId) (open_ : s.line sid = some true) : KeepsUp View clients sid s (dropItem data s owner) := by
  have rolled : KeepsUp View clients sid s (rollDrop data s).1 := by
    rw [rollDrop]
    split
    · exact id
    · exact keeps_up_quiet mirroring (unseen_same rfl) rfl
  have line : (rollDrop data s).1.line sid = s.line sid := by
    rw [rollDrop]
    split <;> rfl
  rw [dropItem]
  split
  · exact rolled.trans (give_item_keeps_up mirroring owner _ (line.trans open_))
  · exact rolled

theorem on_attack_keeps_up (owner : SessionId) (atk : CsAttack) (indexed : s.party.Indexed) (open_ : s.line sid = some true) :
    KeepsUp View clients sid s (onAttack data s owner atk) := by
  have start : Speaks (fun message => ¬ SaysGear message) s s := Speaks.refl s
  rw [onAttack]
  cases target : findTarget s (s.player owner) atk.targetUid with
  | none => exact keeps_up_quiet mirroring ((unseen_same rfl).send owner _ (hushed_gear _ id)) rfl
  | some index =>
      have struck : Speaks (fun message => ¬ SaysGear message) s (strike s owner index) :=
        Speaks.send (t := setNpc s index (struck (s.player owner) s.npcs[index])) (start.same rfl) owner _ id
      simp only
      split
      · have announced : Speaks (fun message => ¬ SaysGear message) s (announceDeath (strike s owner index) index) :=
          Speaks.same (struck.broadcast _ id) rfl
        have shared := share_kill_speaks data announced owner (strike s owner index).npcs[index] (fun _ => id) (fun _ => id) (fun _ => id)
        have counted := update_quest_progress_speaks data shared owner (fun _ => id)
        have blow : Quiet s (strike s owner index) := ((Quiet.refl s).setNpc _ _).send _ _ (by trivial)
        have death : Quiet s (announceDeath (strike s owner index) index) := (blow.broadcast _ (by trivial)).setNpc _ _
        have quiet := update_quest_progress_quiet data (share_kill_quiet data death indexed owner (strike s owner index).npcs[index]) owner
        have items := items_frame.updateQuestProgress data items_logs (items_frame.shareKill data items_grows items_logs
          (items_frame.announceDeath (items_frame.strike (s := s) owner index) index) owner (strike s owner index).npcs[index]) owner
        rw [killNpc]
        generalize updateQuestProgress data (shareKill data (announceDeath (strike s owner index) index) owner
          (strike s owner index).npcs[index]) owner = t at counted quiet items ⊢
        have before : KeepsUp View clients sid s t := keeps_up_speaks mirroring counted (fun _ => id) (items sid)
        have dropped := before.trans (drop_item_keeps_up mirroring owner ((quiet.lines sid).trans open_))
        have respawned : Speaks (fun message => ¬ SaysGear message) (dropItem data t owner) (respawn (dropItem data t owner)) :=
          respawn_speaks (Speaks.refl _) (fun _ => id)
        exact dropped.trans (keeps_up_speaks mirroring respawned (fun _ => id) (items_frame.respawn (items_frame.refl _) sid))
      · exact keeps_up_speaks mirroring struck (fun _ => id) rfl

theorem on_quest_complete_keeps_up (owner : SessionId) (req : CsQuestComplete) (open_ : s.line sid = some true) :
    KeepsUp View clients sid s (onQuestComplete data s owner req) := by
  cases done : completed data s owner req.questId with
  | none =>
      rw [quest_refused data s owner req done]
      split
      · exact keeps_up_quiet mirroring ((unseen_same rfl).send owner _ (hushed_gear _ id)) rfl
      · exact keeps_up_quiet mirroring ((unseen_same rfl).send owner _ (hushed_gear _ id)) rfl
  | some quest =>
      obtain ⟨state, granted⟩ := quest_granted data s owner req quest done
      have paid : KeepsUp View clients sid s ((questClosed s owner req state).setPlayer owner
          (payQuest ((questClosed s owner req state).player owner) quest)) := keeps_up_quiet mirroring (unseen_same rfl) rfl
      have line := (line_set_player (questClosed s owner req state) owner sid
        (payQuest ((questClosed s owner req state).player owner) quest)).trans open_
      have given : KeepsUp View clients sid s (questPaid data owner (questClosed s owner req state) quest) := by
        rw [questPaid]
        split
        · exact paid.trans (give_item_keeps_up mirroring owner _ line)
        · exact paid
      rw [granted]
      generalize questPaid data owner (questClosed s owner req state) quest = t at given
      have start : Speaks (fun message => ¬ SaysGear message) t t := Speaks.refl t
      have levels := check_level_up_speaks (start.send owner (.expUpdate { exp := (t.player owner).exp.toUInt32, maxExp := (t.player owner).maxExp })
        id) owner (fun _ => id)
      have answered := (send_char_info_speaks levels owner (fun _ => id)).send owner (.questReward (questReward data s owner req)) id
      exact given.trans (keeps_up_speaks mirroring answered (fun _ => id) rfl)

theorem handle_keeps_up (owner : SessionId) (request : Request) (unselected : ∀ req, request ≠ .charSelect req) (indexed : s.party.Indexed)
    (here : owner ∈ s.sessions) (open_ : s.line sid = some true) : KeepsUp View clients sid s (handle data s owner request) := by
  have silent (plain : ¬ request.MovesItems) (items : SameItems s (handle data s owner request)) :
      KeepsUp View clients sid s (handle data s owner request) :=
    keeps_up_speaks mirroring (handle_speaks data s owner request) (answers_gearless request plain) (items sid)
  have start := items_frame.refl s
  cases request with
  | charSelect req => exact absurd rfl (unselected req)
  | itemUse req => exact on_item_use_keeps_up mirroring owner req open_
  | itemEquip req => exact on_item_equip_keeps_up mirroring owner req open_
  | shopBuy req => exact on_shop_buy_keeps_up mirroring owner req here open_
  | shopSell req => exact on_shop_sell_keeps_up mirroring owner req here open_
  | attack atk => exact on_attack_keeps_up mirroring owner atk indexed open_
  | questComplete req => exact on_quest_complete_keeps_up mirroring owner req open_
  | login req => exact silent id (items_frame.onLogin data owner req)
  | charList => exact silent id (items_frame.sendCharList start owner)
  | charCreate req => exact silent id (items_frame.onCharCreate data owner req)
  | attendanceCheck => exact silent id (items_frame.onAttendanceCheck owner)
  | heartbeat => exact silent id (items_frame.send start _ _)
  | move req => exact silent id (items_frame.onMove owner req)
  | chat req => exact silent id (items_frame.onChat owner req)
  | shopOpen => exact silent id (items_frame.send start _ _)
  | questList => exact silent id (items_frame.onQuestList data owner)
  | questAccept req => exact silent id (items_frame.onQuestAccept data items_logs owner req)
  | partyInvite req => exact silent id (items_frame.onPartyInvite owner req)
  | partyAccept req => exact silent id (items_frame.onPartyAccept owner req)
  | partyLeave => exact silent id (items_frame.removeFromParty start owner)

end Handlers

end MmorpgSimulator
