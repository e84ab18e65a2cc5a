import MmorpgSimulator.World

set_option autoImplicit false

namespace MmorpgSimulator

def addItemToDb (s : ServerState) (charUid : CharUid) (itemTid : UInt16) : ServerState × ItemUid :=
  let call := s.executeProc (fun db => some (db.spInventoryAdd charUid itemTid))
  (call.1, call.2.row.getD 0)

def removeItemFromDb (s : ServerState) (itemUid : ItemUid) : ServerState :=
  (s.executeProc (fun db => some (db.spInventoryRemove itemUid, ()))).1

def equipItemDb (s : ServerState) (charUid : CharUid) (slot : Nat) (itemUid : ItemUid) : ServerState :=
  (s.executeProc (fun db => some (db.spEquipItem charUid slot itemUid, ()))).1

-- The fetch loop of LoadInventory: the first MAX_INVENTORY rows fill the slots,
-- equipment slots 0 and 1 the weapon and the armor.
def loadedInventory (items : List InventoryRow) (equipment : Nat → Option InventoryRow) : Inventory :=
  let place (row : Option InventoryRow) : InvSlot := (row.map (fun row => ⟨row.itemUid, row.itemTid⟩)).getD {}
  (({ slots := Vector.ofFn (fun index => place items[index.val]?) } : Inventory).setWeapon (place (equipment 0))).setArmor
    (place (equipment 1))

def itemName (data : GameData) (itemTid : UInt16) : Bytes :=
  ((data.findItem itemTid).map (fun item => strncpyS item.name 31)).getD []

def inventoryList (data : GameData) (inv : Inventory) : ScInventoryList :=
  { items := (List.range maxInventory).filterMap (fun index =>
      if (inv.slot index).itemTid = 0 then none
      else (data.findItem (inv.slot index).itemTid).map (fun item =>
        { slot := UInt8.ofNat index, itemId := item.id, itemName := strncpyS item.name 31 })) }

def loadInventory (data : GameData) (s : ServerState) (sid : SessionId) : ServerState :=
  let s := s.setInventory sid {}
  let player := s.player sid
  let call := s.executeProc (fun db => some (db, db.spInventoryLoad player.charUid))
  let inv := (call.2.row.map (fun rows => loadedInventory rows.1 rows.2)).getD {}
  let s := call.1.setInventory sid inv
  let player :=
    { player with
      atk := ((data.findItem inv.weaponTid).map (fun wep => 15 + wep.atk)).getD player.atk
      defense := ((data.findItem inv.armorTid).map (fun arm => 5 + arm.defense)).getD player.defense }
  let s := s.setPlayer sid player
  let s := s.send sid (.inventoryList (inventoryList data inv))
  if inv.weaponTid ≠ 0 ∨ inv.armorTid ≠ 0 then
    s.send sid (.equipResult
      { success := 1, atk := player.atk, defense := player.defense, weaponName := itemName data inv.weaponTid,
        armorName := itemName data inv.armorTid })
  else s

def slotUpdate (data : GameData) (slot : UInt8) (itemTid : UInt16) : ScInventoryUpdate :=
  { slot, itemId := itemTid, itemName := if itemTid = 0 then [] else itemName data itemTid }

def onItemUse (data : GameData) (s : ServerState) (sid : SessionId) (req : CsItemUse) : ServerState :=
  let player := s.player sid
  let s := s.touchInventory sid
  let inv := s.inventory sid
  let used := inv.slot req.slot.toNat
  if maxInventory ≤ req.slot.toNat ∨ used.itemTid = 0 then s
  else
    match data.findItem used.itemTid with
    | none => s
    | some item =>
        if item.type ≠ consumableType then s
        else
          -- The sum is an int, cut to uint16_t before std::min compares it.
          let s := s.setPlayer sid { player with hp := min (player.hp + item.hp) player.maxHp }
          let s := removeItemFromDb s used.itemUid
          let s := s.setInventory sid (inv.setSlot req.slot.toNat {})
          let s := s.broadcast (.itemUseResult
            { charUid := player.charUid, charName := strncpyS player.name 19, itemName := strncpyS item.name 31,
              effectType := 0, effectValue := item.hp })
          let s := s.send sid (.inventoryUpdate { slot := req.slot, itemId := 0 })
          sendCharInfo s sid

-- The swap: what was worn goes to the slot the item came from.
def equippedInventory (inv : Inventory) (slot : Nat) (item : ItemData) : Inventory :=
  if item.type = weaponType then (inv.setSlot slot inv.weapon).setWeapon (inv.slot slot)
  else (inv.setSlot slot inv.armor).setArmor (inv.slot slot)

def equippedPlayer (player : PlayerData) (item : ItemData) : PlayerData :=
  if item.type = weaponType then { player with atk := 15 + item.atk } else { player with defense := 5 + item.defense }

def equipSlotOf (item : ItemData) : Nat := if item.type = weaponType then 0 else 1

def onItemEquip (data : GameData) (s : ServerState) (sid : SessionId) (req : CsItemEquip) : ServerState :=
  let player := s.player sid
  let s := s.touchInventory sid
  let inv := s.inventory sid
  let chosen := inv.slot req.slot.toNat
  if maxInventory ≤ req.slot.toNat ∨ chosen.itemTid = 0 then s
  else
    match data.findItem chosen.itemTid with
    | none => s
    | some item =>
        if item.type = consumableType then
          s.send sid (.equipResult { slot := req.slot, message := text "Cannot equip consumable" })
        else
          let inv' := equippedInventory inv req.slot.toNat item
          let player := equippedPlayer player item
          let s := (s.setInventory sid inv').setPlayer sid player
          let s := equipItemDb s player.charUid (equipSlotOf item) chosen.itemUid
          let s := s.send sid (.equipResult
            { success := 1, slot := req.slot, atk := player.atk, defense := player.defense,
              weaponName := itemName data inv'.weaponTid, armorName := itemName data inv'.armorTid })
          let s := s.send sid (.inventoryUpdate (slotUpdate data req.slot (inv'.slot req.slot.toNat).itemTid))
          sendCharInfo s sid

def onShopOpen (data : GameData) (s : ServerState) (sid : SessionId) : ServerState :=
  s.send sid (.shopList { items := (data.items.take 10).map (fun item => ⟨item.id, strncpyS item.name 31, item.price⟩) })

def onShopBuy (data : GameData) (s : ServerState) (sid : SessionId) (req : CsShopBuy) : ServerState :=
  let player := s.player sid
  match data.findItem req.itemId with
  | none => s.send sid (.shopResult { message := text "Item not found", remainGold := player.gold })
  | some item =>
      if player.gold < item.price.toUInt64 then
        s.send sid (.shopResult { message := text "Not enough gold", remainGold := player.gold })
      else
        let s := s.touchInventory sid
        match findEmptySlot (s.inventory sid) with
        | none => s.send sid (.shopResult { message := text "Inventory full", remainGold := player.gold })
        | some slot =>
            let player := { player with gold := player.gold - item.price.toUInt64 }
            let added := addItemToDb (s.setPlayer sid player) player.charUid req.itemId
            let s := added.1.setInventory sid ((s.inventory sid).setSlot slot ⟨added.2, req.itemId⟩)
            let s := s.fail (!strcpyFits 32 item.name) .invalidParameter
            let s := s.send sid (.inventoryUpdate
              { slot := UInt8.ofNat slot, itemId := item.id, itemName := strncpyS item.name 31 })
            s.send sid (.shopResult { success := 1, itemId := req.itemId, remainGold := player.gold, message := item.name })

def onShopSell (data : GameData) (s : ServerState) (sid : SessionId) (req : CsShopSell) : ServerState :=
  let player := s.player sid
  let s := s.touchInventory sid
  let inv := s.inventory sid
  let sold := inv.slot req.slot.toNat
  if maxInventory ≤ req.slot.toNat ∨ sold.itemTid = 0 then
    s.send sid (.shopResult { message := text "Invalid slot" })
  else
    let item := data.findItem sold.itemTid
    let sellPrice := (item.map (fun item => item.price / 5)).getD 0
    let s := if sold.itemUid ≠ 0 then removeItemFromDb s sold.itemUid else s
    let player := { player with gold := player.gold + sellPrice.toUInt64 }
    let s := s.setPlayer sid player
    let name := (item.map ItemData.name).getD (text "Unknown")
    let s := s.fail (!strcpyFits 32 name) .invalidParameter
    let s := s.setInventory sid (inv.setSlot req.slot.toNat {})
    let s := s.send sid (.inventoryUpdate { slot := req.slot, itemId := 0 })
    s.send sid (.shopResult { success := 2, itemId := sold.itemTid, remainGold := player.gold, message := name })

-- The delivery that OnAttack and OnQuestComplete share: a full inventory or an
-- unknown template loses the item without a word.
def giveItem (data : GameData) (s : ServerState) (sid : SessionId) (itemId : UInt16) : ServerState :=
  let s := s.touchInventory sid
  match findEmptySlot (s.inventory sid) with
  | none => s
  | some slot =>
      match data.findItem itemId with
      | none => s
      | some item =>
          let added := addItemToDb s (s.player sid).charUid itemId
          let s := added.1.setInventory sid ((s.inventory sid).setSlot slot ⟨added.2, itemId⟩)
          s.send sid (.itemDrop { slot := UInt8.ofNat slot, itemId := item.id, itemName := strncpyS item.name 31 })

end MmorpgSimulator
