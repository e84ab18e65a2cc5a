import MmorpgSimulator.Client
import MmorpgSimulator.RecvBuffer
import MmorpgSimulator.Library.Layout

set_option autoImplicit false

namespace MmorpgSimulator

open Packing

section Fields

theorem c_string_field (word behind : Bytes) (size : Nat) (short : word.length < size) (clean : 0 ∉ word) :
    cString ((word ++ 0 :: behind).take size) = word := by
  have letters : ∀ byte ∈ word, decide (byte ≠ 0) = true := fun byte member => decide_eq_true (fun zero => clean (zero ▸ member))
  have more : size - word.length = (size - word.length - 1) + 1 := by omega
  rw [List.take_append, List.take_of_length_le (Nat.le_of_lt short), more, List.take_succ_cons, cString,
    List.takeWhile_append_of_pos letters, List.takeWhile_cons_of_neg (by simp), List.append_nil]

theorem chars_written (word : Bytes) (size : Nat) (short : word.length < size) :
    (word ++ List.replicate size 0).take size = word ++ 0 :: List.replicate (size - word.length - 1) 0 := by
  have zeros : List.replicate (size - word.length) (0 : UInt8) = 0 :: List.replicate (size - word.length - 1) 0 := by
    rw [← List.replicate_succ]
    congr 1
    omega
  rw [List.take_append, List.take_of_length_le (Nat.le_of_lt short), List.take_replicate, Nat.min_eq_left (Nat.sub_le _ _), zeros]

def number (width : Nat) : Layout UInt8 Nat where
  width := width
  write := leBytes width
  read := fun bytes => leNat (bytes.take width)
  Fits := fun value => value < 256 ^ width
  written := le_bytes_length width
  reads := by
    intro value rest fits
    rw [List.take_left' (le_bytes_length width value), le_nat_bytes_of_lt width value fits]

-- A char array that ends with a NUL inside.
def chars (size : Nat) : Layout UInt8 Bytes where
  width := size
  write := fun word => (word ++ List.replicate size 0).take size
  read := fun bytes => cString (bytes.take size)
  Fits := fun word => word.length < size ∧ 0 ∉ word
  written := fun word => by simp
  reads := by
    intro word rest fits
    obtain ⟨short, clean⟩ := fits
    rw [chars_written word size short, List.append_assoc, List.cons_append]
    exact c_string_field word _ size short clean

def u8 : Layout UInt8 UInt8 := (number 1).whole UInt8.toNat UInt8.ofNat (fun value => value.toNat_lt) (fun _ => UInt8.ofNat_toNat)
def u16 : Layout UInt8 UInt16 := (number 2).whole UInt16.toNat UInt16.ofNat (fun value => value.toNat_lt) (fun _ => UInt16.ofNat_toNat)
def u32 : Layout UInt8 UInt32 := (number 4).whole UInt32.toNat UInt32.ofNat (fun value => value.toNat_lt) (fun _ => UInt32.ofNat_toNat)
def u64 : Layout UInt8 UInt64 := (number 8).whole UInt64.toNat UInt64.ofNat (fun value => value.toNat_lt) (fun _ => UInt64.ofNat_toNat)
def i8 : Layout UInt8 Int8 := u8.whole Int8.toUInt8 UInt8.toInt8 (fun _ => trivial) (fun _ => rfl)
def i16 : Layout UInt8 Int16 := u16.whole Int16.toUInt16 UInt16.toInt16 (fun _ => trivial) (fun _ => rfl)

-- Two of the server's handlers read on behind the array if it has no NUL.
theorem chars_run_on (word : Bytes) (size longer : Nat) (rest : Bytes) (fits : (chars size).Fits word) (wide : size ≤ longer) :
    cString (fieldAt ((chars size).write word ++ rest) 0 longer) = word := by
  obtain ⟨short, clean⟩ := fits
  change cString (((word ++ List.replicate size 0).take size ++ rest).take longer) = word
  rw [chars_written word size short, List.append_assoc, List.cons_append]
  exact c_string_field word _ longer (lt_of_lt_of_le short wide) clean

-- Uids are uint64_t in every struct.
def uid : Layout UInt8 Nat := number 8

end Fields

-- The packed structs of Protocol.h. A count beyond the end of its array would have
-- the client read on behind the struct; here it stops at the end.
section Structs

def ScLoginResult.layout : Layout UInt8 ScLoginResult :=
  (u8.pair (uid.pair (chars 64))).record
    (fun record => (record.success, record.accountUid, record.message))
    (fun (success, accountUid, message) => ⟨success, accountUid, message⟩) (fun _ => rfl)

def ScCharListEntry.layout : Layout UInt8 ScCharListEntry :=
  (uid.pair ((chars 20).pair (u8.pair u16))).record
    (fun record => (record.charUid, record.name, record.charType, record.level))
    (fun (charUid, name, charType, level) => ⟨charUid, name, charType, level⟩) (fun _ => rfl)

def ScCharList.layout : Layout UInt8 ScCharList :=
  (ScCharListEntry.layout.counted (number 1) ⟨0, [], 0, 0⟩ 5).record
    (fun record => (record.chars.length, record.chars)) (fun (_, chars) => ⟨chars⟩) (fun _ => rfl)

def ScCharCreateResult.layout : Layout UInt8 ScCharCreateResult :=
  (u8.pair (uid.pair (chars 32))).record
    (fun record => (record.success, record.charUid, record.message))
    (fun (success, charUid, message) => ⟨success, charUid, message⟩) (fun _ => rfl)

def ScCharInfo.layout : Layout UInt8 ScCharInfo :=
  (uid.pair ((chars 32).pair (u16.pair (u32.pair (i16.pair (i16.pair (u16.pair (u16.pair u64)))))))).record
    (fun record => (record.charUid, record.name, record.level, record.exp, record.posX, record.posY, record.hp, record.maxHp, record.gold))
    (fun (charUid, name, level, exp, posX, posY, hp, maxHp, gold) => ⟨charUid, name, level, exp, posX, posY, hp, maxHp, gold⟩)
    (fun _ => rfl)

def ScCharLeave.layout : Layout UInt8 ScCharLeave := uid.record ScCharLeave.charUid ScCharLeave.mk (fun _ => rfl)

def ScMoveResult.layout : Layout UInt8 ScMoveResult :=
  (u8.pair (i16.pair i16)).record
    (fun record => (record.success, record.posX, record.posY))
    (fun (success, posX, posY) => ⟨success, posX, posY⟩) (fun _ => rfl)

def ScAttackResult.layout : Layout UInt8 ScAttackResult :=
  (u8.pair (u64.pair (u16.pair u16))).record
    (fun record => (record.success, record.targetUid, record.damage, record.targetHp))
    (fun (success, targetUid, damage, targetHp) => ⟨success, targetUid, damage, targetHp⟩) (fun _ => rfl)

def ScError.layout : Layout UInt8 ScError :=
  (u16.pair (chars 64)).record
    (fun record => (record.errorCode, record.message))
    (fun (errorCode, message) => ⟨errorCode, message⟩) (fun _ => rfl)

def ScNpcSpawn.layout : Layout UInt8 ScNpcSpawn :=
  (u64.pair (i16.pair (i16.pair (u16.pair u16)))).record
    (fun record => (record.npcUid, record.posX, record.posY, record.hp, record.maxHp))
    (fun (npcUid, posX, posY, hp, maxHp) => ⟨npcUid, posX, posY, hp, maxHp⟩) (fun _ => rfl)

def ScNpcDeath.layout : Layout UInt8 ScNpcDeath :=
  (u64.pair (u32.pair u32)).record
    (fun record => (record.npcUid, record.expReward, record.goldReward))
    (fun (npcUid, expReward, goldReward) => ⟨npcUid, expReward, goldReward⟩) (fun _ => rfl)

def ScExpUpdate.layout : Layout UInt8 ScExpUpdate :=
  (u32.pair u32).record
    (fun record => (record.exp, record.maxExp))
    (fun (exp, maxExp) => ⟨exp, maxExp⟩) (fun _ => rfl)

def ScLevelUp.layout : Layout UInt8 ScLevelUp :=
  (u16.pair (u16.pair (u16.pair (u16.pair u16)))).record
    (fun record => (record.level, record.hp, record.maxHp, record.atk, record.defense))
    (fun (level, hp, maxHp, atk, defense) => ⟨level, hp, maxHp, atk, defense⟩) (fun _ => rfl)

def ScChat.layout : Layout UInt8 ScChat :=
  (u8.pair ((chars 20).pair (chars 128))).record
    (fun record => (record.channel, record.senderName, record.message))
    (fun (channel, senderName, message) => ⟨channel, senderName, message⟩) (fun _ => rfl)

def ScItemDrop.layout : Layout UInt8 ScItemDrop :=
  (u8.pair (u16.pair (chars 32))).record
    (fun record => (record.slot, record.itemId, record.itemName))
    (fun (slot, itemId, itemName) => ⟨slot, itemId, itemName⟩) (fun _ => rfl)

def ScItemUseResult.layout : Layout UInt8 ScItemUseResult :=
  (uid.pair ((chars 20).pair ((chars 32).pair (u8.pair u16)))).record
    (fun record => (record.charUid, record.charName, record.itemName, record.effectType, record.effectValue))
    (fun (charUid, charName, itemName, effectType, effectValue) => ⟨charUid, charName, itemName, effectType, effectValue⟩) (fun _ => rfl)

def ScEquipResult.layout : Layout UInt8 ScEquipResult :=
  (u8.pair (u8.pair (u16.pair (u16.pair ((chars 32).pair ((chars 32).pair (chars 32))))))).record
    (fun record => (record.success, record.slot, record.atk, record.defense, record.weaponName, record.armorName, record.message))
    (fun (success, slot, atk, defense, weaponName, armorName, message) => ⟨success, slot, atk, defense, weaponName, armorName, message⟩)
    (fun _ => rfl)

def ScInventoryUpdate.layout : Layout UInt8 ScInventoryUpdate :=
  (u8.pair (u16.pair (chars 32))).record
    (fun record => (record.slot, record.itemId, record.itemName))
    (fun (slot, itemId, itemName) => ⟨slot, itemId, itemName⟩) (fun _ => rfl)

def ScInventoryList.layout : Layout UInt8 ScInventoryList :=
  (ScInventoryUpdate.layout.counted (number 1) {} maxInventory).record
    (fun record => (record.items.length, record.items)) (fun (_, items) => ⟨items⟩) (fun _ => rfl)

def ScAttendanceInfo.layout : Layout UInt8 ScAttendanceInfo :=
  (u8.pair u32).record
    (fun record => (record.todayAttended, record.rewardGold))
    (fun (todayAttended, rewardGold) => ⟨todayAttended, rewardGold⟩) (fun _ => rfl)

def ScAttendanceResult.layout : Layout UInt8 ScAttendanceResult :=
  (u8.pair u32).record
    (fun record => (record.success, record.rewardGold))
    (fun (success, rewardGold) => ⟨success, rewardGold⟩) (fun _ => rfl)

def ScShopEntry.layout : Layout UInt8 ScShopEntry :=
  (u16.pair ((chars 32).pair u32)).record
    (fun record => (record.itemId, record.itemName, record.price))
    (fun (itemId, itemName, price) => ⟨itemId, itemName, price⟩) (fun _ => rfl)

def ScShopList.layout : Layout UInt8 ScShopList :=
  (ScShopEntry.layout.counted (number 1) ⟨0, [], 0⟩ 10).record
    (fun record => (record.items.length, record.items)) (fun (_, items) => ⟨items⟩) (fun _ => rfl)

def ScShopResult.layout : Layout UInt8 ScShopResult :=
  (u8.pair (u16.pair (u64.pair (chars 32)))).record
    (fun record => (record.success, record.itemId, record.remainGold, record.message))
    (fun (success, itemId, remainGold, message) => ⟨success, itemId, remainGold, message⟩) (fun _ => rfl)

def ScQuestEntry.layout : Layout UInt8 ScQuestEntry :=
  (u16.pair ((chars 32).pair (u8.pair (u16.pair u16)))).record
    (fun record => (record.questId, record.name, record.status, record.progress, record.target))
    (fun (questId, name, status, progress, target) => ⟨questId, name, status, progress, target⟩) (fun _ => rfl)

def ScQuestList.layout : Layout UInt8 ScQuestList :=
  (ScQuestEntry.layout.counted (number 1) ⟨0, [], 0, 0, 0⟩ maxQuestList).record
    (fun record => (record.quests.length, record.quests)) (fun (_, quests) => ⟨quests⟩) (fun _ => rfl)

def ScQuestAcceptResult.layout : Layout UInt8 ScQuestAcceptResult :=
  (u8.pair (u16.pair (chars 64))).record
    (fun record => (record.success, record.questId, record.message))
    (fun (success, questId, message) => ⟨success, questId, message⟩) (fun _ => rfl)

def ScQuestProgress.layout : Layout UInt8 ScQuestProgress :=
  (u16.pair (u16.pair u16)).record
    (fun record => (record.questId, record.progress, record.target))
    (fun (questId, progress, target) => ⟨questId, progress, target⟩) (fun _ => rfl)

def ScQuestReward.layout : Layout UInt8 ScQuestReward :=
  (u8.pair (u16.pair (u32.pair (u32.pair (u16.pair (chars 64)))))).record
    (fun record => (record.success, record.questId, record.rewardGold, record.rewardExp, record.rewardItemId, record.message))
    (fun (success, questId, rewardGold, rewardExp, rewardItemId, message) => ⟨success, questId, rewardGold, rewardExp, rewardItemId, message⟩)
    (fun _ => rfl)

def ScPartyInvite.layout : Layout UInt8 ScPartyInvite := (chars 20).record ScPartyInvite.inviterName ScPartyInvite.mk (fun _ => rfl)

def ScPartyMember.layout : Layout UInt8 ScPartyMember :=
  (uid.pair ((chars 20).pair (u16.pair (u16.pair (i16.pair i16))))).record
    (fun record => (record.charUid, record.name, record.hp, record.maxHp, record.posX, record.posY))
    (fun (charUid, name, hp, maxHp, posX, posY) => ⟨charUid, name, hp, maxHp, posX, posY⟩) (fun _ => rfl)

def ScPartyUpdate.layout : Layout UInt8 ScPartyUpdate :=
  (ScPartyMember.layout.counted (number 1) {} maxParty).record
    (fun record => (record.memberCount.toNat, record.members)) (fun (memberCount, members) => ⟨UInt8.ofNat memberCount, members⟩)
    (fun _ => by simp)

def ScPartyLeave.layout : Layout UInt8 ScPartyLeave := uid.record ScPartyLeave.charUid ScPartyLeave.mk (fun _ => rfl)

-- The client leaves the password empty.
def CsLogin.layout : Layout UInt8 CsLogin :=
  ((chars 32).pair (chars 32)).record (fun record => (record.accountId, [])) (fun (accountId, _) => ⟨accountId⟩) (fun _ => rfl)

def CsCharCreate.layout : Layout UInt8 CsCharCreate :=
  ((chars 20).pair u8).record
    (fun record => (record.name, record.charType))
    (fun (name, charType) => ⟨name, charType⟩) (fun _ => rfl)

def CsCharSelect.layout : Layout UInt8 CsCharSelect := uid.record CsCharSelect.charUid CsCharSelect.mk (fun _ => rfl)

def CsMove.layout : Layout UInt8 CsMove :=
  (i8.pair i8).record
    (fun record => (record.dirX, record.dirY))
    (fun (dirX, dirY) => ⟨dirX, dirY⟩) (fun _ => rfl)

def CsAttack.layout : Layout UInt8 CsAttack := u64.record CsAttack.targetUid CsAttack.mk (fun _ => rfl)

def CsChat.layout : Layout UInt8 CsChat :=
  (u8.pair ((chars 20).pair (chars 128))).record
    (fun record => (record.channel, record.targetName, record.message))
    (fun (channel, targetName, message) => ⟨channel, targetName, message⟩) (fun _ => rfl)

def CsItemUse.layout : Layout UInt8 CsItemUse := u8.record CsItemUse.slot CsItemUse.mk (fun _ => rfl)

def CsItemEquip.layout : Layout UInt8 CsItemEquip := u8.record CsItemEquip.slot CsItemEquip.mk (fun _ => rfl)

def CsShopBuy.layout : Layout UInt8 CsShopBuy := u16.record CsShopBuy.itemId CsShopBuy.mk (fun _ => rfl)

def CsShopSell.layout : Layout UInt8 CsShopSell := u8.record CsShopSell.slot CsShopSell.mk (fun _ => rfl)

def CsQuestAccept.layout : Layout UInt8 CsQuestAccept := u16.record CsQuestAccept.questId CsQuestAccept.mk (fun _ => rfl)

def CsQuestComplete.layout : Layout UInt8 CsQuestComplete := u16.record CsQuestComplete.questId CsQuestComplete.mk (fun _ => rfl)

def CsPartyInvite.layout : Layout UInt8 CsPartyInvite := (chars 20).record CsPartyInvite.targetName CsPartyInvite.mk (fun _ => rfl)

def CsPartyAccept.layout : Layout UInt8 CsPartyAccept := u8.record CsPartyAccept.accept CsPartyAccept.mk (fun _ => rfl)

end Structs

section Messages

def Message.type : Message → PacketType
  | .loginResult _ => .scLoginResult
  | .charList _ => .scCharList
  | .charCreateResult _ => .scCharCreateResult
  | .charInfo _ => .scCharInfo
  | .charLeave _ => .scCharLeave
  | .attendanceInfo _ => .scAttendanceInfo
  | .attendanceResult _ => .scAttendanceResult
  | .moveResult _ => .scMoveResult
  | .attackResult _ => .scAttackResult
  | .npcSpawn _ => .scNpcSpawn
  | .npcDeath _ => .scNpcDeath
  | .expUpdate _ => .scExpUpdate
  | .levelUp _ => .scLevelUp
  | .chat _ => .scChat
  | .itemDrop _ => .scItemDrop
  | .itemUseResult _ => .scItemUseResult
  | .equipResult _ => .scEquipResult
  | .inventoryUpdate _ => .scInventoryUpdate
  | .inventoryList _ => .scInventoryList
  | .shopList _ => .scShopList
  | .shopResult _ => .scShopResult
  | .questList _ => .scQuestList
  | .questAcceptResult _ => .scQuestAcceptResult
  | .questProgress _ => .scQuestProgress
  | .questReward _ => .scQuestReward
  | .partyInvite _ => .scPartyInvite
  | .partyUpdate _ => .scPartyUpdate
  | .partyLeave _ => .scPartyLeave
  | .heartbeat => .scHeartbeat
  | .error _ => .scError

def Message.payload : Message → Bytes
  | .loginResult msg => ScLoginResult.layout.write msg
  | .charList msg => ScCharList.layout.write msg
  | .charCreateResult msg => ScCharCreateResult.layout.write msg
  | .charInfo msg => ScCharInfo.layout.write msg
  | .charLeave msg => ScCharLeave.layout.write msg
  | .attendanceInfo msg => ScAttendanceInfo.layout.write msg
  | .attendanceResult msg => ScAttendanceResult.layout.write msg
  | .moveResult msg => ScMoveResult.layout.write msg
  | .attackResult msg => ScAttackResult.layout.write msg
  | .npcSpawn msg => ScNpcSpawn.layout.write msg
  | .npcDeath msg => ScNpcDeath.layout.write msg
  | .expUpdate msg => ScExpUpdate.layout.write msg
  | .levelUp msg => ScLevelUp.layout.write msg
  | .chat msg => ScChat.layout.write msg
  | .itemDrop msg => ScItemDrop.layout.write msg
  | .itemUseResult msg => ScItemUseResult.layout.write msg
  | .equipResult msg => ScEquipResult.layout.write msg
  | .inventoryUpdate msg => ScInventoryUpdate.layout.write msg
  | .inventoryList msg => ScInventoryList.layout.write msg
  | .shopList msg => ScShopList.layout.write msg
  | .shopResult msg => ScShopResult.layout.write msg
  | .questList msg => ScQuestList.layout.write msg
  | .questAcceptResult msg => ScQuestAcceptResult.layout.write msg
  | .questProgress msg => ScQuestProgress.layout.write msg
  | .questReward msg => ScQuestReward.layout.write msg
  | .partyInvite msg => ScPartyInvite.layout.write msg
  | .partyUpdate msg => ScPartyUpdate.layout.write msg
  | .partyLeave msg => ScPartyLeave.layout.write msg
  | .heartbeat => []
  | .error msg => ScError.layout.write msg

def Message.Fits : Message → Prop
  | .loginResult msg => ScLoginResult.layout.Fits msg
  | .charList msg => ScCharList.layout.Fits msg
  | .charCreateResult msg => ScCharCreateResult.layout.Fits msg
  | .charInfo msg => ScCharInfo.layout.Fits msg
  | .charLeave msg => ScCharLeave.layout.Fits msg
  | .attendanceInfo msg => ScAttendanceInfo.layout.Fits msg
  | .attendanceResult msg => ScAttendanceResult.layout.Fits msg
  | .moveResult msg => ScMoveResult.layout.Fits msg
  | .attackResult msg => ScAttackResult.layout.Fits msg
  | .npcSpawn msg => ScNpcSpawn.layout.Fits msg
  | .npcDeath msg => ScNpcDeath.layout.Fits msg
  | .expUpdate msg => ScExpUpdate.layout.Fits msg
  | .levelUp msg => ScLevelUp.layout.Fits msg
  | .chat msg => ScChat.layout.Fits msg
  | .itemDrop msg => ScItemDrop.layout.Fits msg
  | .itemUseResult msg => ScItemUseResult.layout.Fits msg
  | .equipResult msg => ScEquipResult.layout.Fits msg
  | .inventoryUpdate msg => ScInventoryUpdate.layout.Fits msg
  | .inventoryList msg => ScInventoryList.layout.Fits msg
  | .shopList msg => ScShopList.layout.Fits msg
  | .shopResult msg => ScShopResult.layout.Fits msg
  | .questList msg => ScQuestList.layout.Fits msg
  | .questAcceptResult msg => ScQuestAcceptResult.layout.Fits msg
  | .questProgress msg => ScQuestProgress.layout.Fits msg
  | .questReward msg => ScQuestReward.layout.Fits msg
  | .partyInvite msg => ScPartyInvite.layout.Fits msg
  | .partyUpdate msg => ScPartyUpdate.layout.Fits msg
  | .partyLeave msg => ScPartyLeave.layout.Fits msg
  | .heartbeat => True
  | .error msg => ScError.layout.Fits msg

def decodeMessage (payload : Bytes) : PacketType → Option Message
  | .scLoginResult => some (.loginResult (ScLoginResult.layout.read payload))
  | .scCharList => some (.charList (ScCharList.layout.read payload))
  | .scCharCreateResult => some (.charCreateResult (ScCharCreateResult.layout.read payload))
  | .scCharInfo => some (.charInfo (ScCharInfo.layout.read payload))
  | .scCharLeave => some (.charLeave (ScCharLeave.layout.read payload))
  | .scAttendanceInfo => some (.attendanceInfo (ScAttendanceInfo.layout.read payload))
  | .scAttendanceResult => some (.attendanceResult (ScAttendanceResult.layout.read payload))
  | .scMoveResult => some (.moveResult (ScMoveResult.layout.read payload))
  | .scAttackResult => some (.attackResult (ScAttackResult.layout.read payload))
  | .scNpcSpawn => some (.npcSpawn (ScNpcSpawn.layout.read payload))
  | .scNpcDeath => some (.npcDeath (ScNpcDeath.layout.read payload))
  | .scExpUpdate => some (.expUpdate (ScExpUpdate.layout.read payload))
  | .scLevelUp => some (.levelUp (ScLevelUp.layout.read payload))
  | .scChat => some (.chat (ScChat.layout.read payload))
  | .scItemDrop => some (.itemDrop (ScItemDrop.layout.read payload))
  | .scItemUseResult => some (.itemUseResult (ScItemUseResult.layout.read payload))
  | .scEquipResult => some (.equipResult (ScEquipResult.layout.read payload))
  | .scInventoryUpdate => some (.inventoryUpdate (ScInventoryUpdate.layout.read payload))
  | .scInventoryList => some (.inventoryList (ScInventoryList.layout.read payload))
  | .scShopList => some (.shopList (ScShopList.layout.read payload))
  | .scShopResult => some (.shopResult (ScShopResult.layout.read payload))
  | .scQuestList => some (.questList (ScQuestList.layout.read payload))
  | .scQuestAcceptResult => some (.questAcceptResult (ScQuestAcceptResult.layout.read payload))
  | .scQuestProgress => some (.questProgress (ScQuestProgress.layout.read payload))
  | .scQuestReward => some (.questReward (ScQuestReward.layout.read payload))
  | .scPartyInvite => some (.partyInvite (ScPartyInvite.layout.read payload))
  | .scPartyUpdate => some (.partyUpdate (ScPartyUpdate.layout.read payload))
  | .scPartyLeave => some (.partyLeave (ScPartyLeave.layout.read payload))
  | .scHeartbeat => some .heartbeat
  | .scError => some (.error (ScError.layout.read payload))
  | _ => none

def Request.type : Request → PacketType
  | .login _ => .csLogin
  | .charList => .csCharList
  | .charCreate _ => .csCharCreate
  | .charSelect _ => .csCharSelect
  | .attendanceCheck => .csAttendanceCheck
  | .heartbeat => .csHeartbeat
  | .move _ => .csMove
  | .attack _ => .csAttack
  | .chat _ => .csChat
  | .itemUse _ => .csItemUse
  | .itemEquip _ => .csItemEquip
  | .shopOpen => .csShopOpen
  | .shopBuy _ => .csShopBuy
  | .shopSell _ => .csShopSell
  | .questList => .csQuestList
  | .questAccept _ => .csQuestAccept
  | .questComplete _ => .csQuestComplete
  | .partyInvite _ => .csPartyInvite
  | .partyAccept _ => .csPartyAccept
  | .partyLeave => .csPartyLeave

def Request.payload : Request → Bytes
  | .login req => CsLogin.layout.write req
  | .charList => []
  | .charCreate req => CsCharCreate.layout.write req
  | .charSelect req => CsCharSelect.layout.write req
  | .attendanceCheck => []
  | .heartbeat => []
  | .move req => CsMove.layout.write req
  | .attack req => CsAttack.layout.write req
  | .chat req => CsChat.layout.write req
  | .itemUse req => CsItemUse.layout.write req
  | .itemEquip req => CsItemEquip.layout.write req
  | .shopOpen => []
  | .shopBuy req => CsShopBuy.layout.write req
  | .shopSell req => CsShopSell.layout.write req
  | .questList => uid.write 0
  | .questAccept req => CsQuestAccept.layout.write req
  | .questComplete req => CsQuestComplete.layout.write req
  | .partyInvite req => CsPartyInvite.layout.write req
  | .partyAccept req => CsPartyAccept.layout.write req
  | .partyLeave => []

def Request.Fits : Request → Prop
  | .login req => CsLogin.layout.Fits req
  | .charList => True
  | .charCreate req => CsCharCreate.layout.Fits req
  | .charSelect req => CsCharSelect.layout.Fits req
  | .attendanceCheck => True
  | .heartbeat => True
  | .move req => CsMove.layout.Fits req
  | .attack req => CsAttack.layout.Fits req
  | .chat req => CsChat.layout.Fits req
  | .itemUse req => CsItemUse.layout.Fits req
  | .itemEquip req => CsItemEquip.layout.Fits req
  | .shopOpen => True
  | .shopBuy req => CsShopBuy.layout.Fits req
  | .shopSell req => CsShopSell.layout.Fits req
  | .questList => True
  | .questAccept req => CsQuestAccept.layout.Fits req
  | .questComplete req => CsQuestComplete.layout.Fits req
  | .partyInvite req => CsPartyInvite.layout.Fits req
  | .partyAccept req => CsPartyAccept.layout.Fits req
  | .partyLeave => True

-- The client's handlers, in the order main sets them.
def clientHandlers : List PacketType :=
  [.scLoginResult, .scCharList, .scCharCreateResult, .scCharInfo, .scCharLeave, .scMoveResult, .scHeartbeat, .scNpcSpawn, .scNpcDeath,
    .scAttackResult, .scExpUpdate, .scLevelUp, .scAttendanceInfo, .scAttendanceResult, .scError, .scChat, .scItemDrop,
    .scItemUseResult, .scEquipResult, .scInventoryUpdate, .scInventoryList, .scShopList, .scShopResult, .scQuestList,
    .scQuestAcceptResult, .scQuestProgress, .scQuestReward, .scPartyInvite, .scPartyUpdate, .scPartyLeave]

def clientHandlerFor (code : UInt16) : Option PacketType := clientHandlers.find? (fun type => type.code = code)

-- The callbacks of the two handler tables: the payload pointer reaches to the end of
-- what has been received.
def Client.take (client : Client) (packet : Packet) : Client :=
  match (clientHandlerFor packet.type).bind (decodeMessage packet.memory) with
  | none => client
  | some message => client.receive message

def Message.posted (message : Message) : Posted := ⟨message.type.code, message.payload⟩

def Request.posted (request : Request) : Posted := ⟨request.type.code, request.payload⟩

theorem decode_message (message : Message) (rest : Bytes) (fits : message.Fits) :
    decodeMessage (message.payload ++ rest) message.type = some message := by
  cases message with
  | loginResult msg => exact congrArg (fun read => some (Message.loginResult read)) (ScLoginResult.layout.reads msg rest fits)
  | charList msg => exact congrArg (fun read => some (Message.charList read)) (ScCharList.layout.reads msg rest fits)
  | charCreateResult msg => exact congrArg (fun read => some (Message.charCreateResult read)) (ScCharCreateResult.layout.reads msg rest fits)
  | charInfo msg => exact congrArg (fun read => some (Message.charInfo read)) (ScCharInfo.layout.reads msg rest fits)
  | charLeave msg => exact congrArg (fun read => some (Message.charLeave read)) (ScCharLeave.layout.reads msg rest fits)
  | attendanceInfo msg => exact congrArg (fun read => some (Message.attendanceInfo read)) (ScAttendanceInfo.layout.reads msg rest fits)
  | attendanceResult msg => exact congrArg (fun read => some (Message.attendanceResult read)) (ScAttendanceResult.layout.reads msg rest fits)
  | moveResult msg => exact congrArg (fun read => some (Message.moveResult read)) (ScMoveResult.layout.reads msg rest fits)
  | attackResult msg => exact congrArg (fun read => some (Message.attackResult read)) (ScAttackResult.layout.reads msg rest fits)
  | npcSpawn msg => exact congrArg (fun read => some (Message.npcSpawn read)) (ScNpcSpawn.layout.reads msg rest fits)
  | npcDeath msg => exact congrArg (fun read => some (Message.npcDeath read)) (ScNpcDeath.layout.reads msg rest fits)
  | expUpdate msg => exact congrArg (fun read => some (Message.expUpdate read)) (ScExpUpdate.layout.reads msg rest fits)
  | levelUp msg => exact congrArg (fun read => some (Message.levelUp read)) (ScLevelUp.layout.reads msg rest fits)
  | chat msg => exact congrArg (fun read => some (Message.chat read)) (ScChat.layout.reads msg rest fits)
  | itemDrop msg => exact congrArg (fun read => some (Message.itemDrop read)) (ScItemDrop.layout.reads msg rest fits)
  | itemUseResult msg => exact congrArg (fun read => some (Message.itemUseResult read)) (ScItemUseResult.layout.reads msg rest fits)
  | equipResult msg => exact congrArg (fun read => some (Message.equipResult read)) (ScEquipResult.layout.reads msg rest fits)
  | inventoryUpdate msg => exact congrArg (fun read => some (Message.inventoryUpdate read)) (ScInventoryUpdate.layout.reads msg rest fits)
  | inventoryList msg => exact congrArg (fun read => some (Message.inventoryList read)) (ScInventoryList.layout.reads msg rest fits)
  | shopList msg => exact congrArg (fun read => some (Message.shopList read)) (ScShopList.layout.reads msg rest fits)
  | shopResult msg => exact congrArg (fun read => some (Message.shopResult read)) (ScShopResult.layout.reads msg rest fits)
  | questList msg => exact congrArg (fun read => some (Message.questList read)) (ScQuestList.layout.reads msg rest fits)
  | questAcceptResult msg => exact congrArg (fun read => some (Message.questAcceptResult read)) (ScQuestAcceptResult.layout.reads msg rest fits)
  | questProgress msg => exact congrArg (fun read => some (Message.questProgress read)) (ScQuestProgress.layout.reads msg rest fits)
  | questReward msg => exact congrArg (fun read => some (Message.questReward read)) (ScQuestReward.layout.reads msg rest fits)
  | partyInvite msg => exact congrArg (fun read => some (Message.partyInvite read)) (ScPartyInvite.layout.reads msg rest fits)
  | partyUpdate msg => exact congrArg (fun read => some (Message.partyUpdate read)) (ScPartyUpdate.layout.reads msg rest fits)
  | partyLeave msg => exact congrArg (fun read => some (Message.partyLeave read)) (ScPartyLeave.layout.reads msg rest fits)
  | heartbeat => rfl
  | error msg => exact congrArg (fun read => some (Message.error read)) (ScError.layout.reads msg rest fits)

theorem message_payload_length (message : Message) : message.payload.length ≤ 701 := by
  cases message with
  | loginResult msg => exact le_of_eq_of_le (ScLoginResult.layout.written msg) (by decide)
  | charList msg => exact le_of_eq_of_le (ScCharList.layout.written msg) (by decide)
  | charCreateResult msg => exact le_of_eq_of_le (ScCharCreateResult.layout.written msg) (by decide)
  | charInfo msg => exact le_of_eq_of_le (ScCharInfo.layout.written msg) (by decide)
  | charLeave msg => exact le_of_eq_of_le (ScCharLeave.layout.written msg) (by decide)
  | attendanceInfo msg => exact le_of_eq_of_le (ScAttendanceInfo.layout.written msg) (by decide)
  | attendanceResult msg => exact le_of_eq_of_le (ScAttendanceResult.layout.written msg) (by decide)
  | moveResult msg => exact le_of_eq_of_le (ScMoveResult.layout.written msg) (by decide)
  | attackResult msg => exact le_of_eq_of_le (ScAttackResult.layout.written msg) (by decide)
  | npcSpawn msg => exact le_of_eq_of_le (ScNpcSpawn.layout.written msg) (by decide)
  | npcDeath msg => exact le_of_eq_of_le (ScNpcDeath.layout.written msg) (by decide)
  | expUpdate msg => exact le_of_eq_of_le (ScExpUpdate.layout.written msg) (by decide)
  | levelUp msg => exact le_of_eq_of_le (ScLevelUp.layout.written msg) (by decide)
  | chat msg => exact le_of_eq_of_le (ScChat.layout.written msg) (by decide)
  | itemDrop msg => exact le_of_eq_of_le (ScItemDrop.layout.written msg) (by decide)
  | itemUseResult msg => exact le_of_eq_of_le (ScItemUseResult.layout.written msg) (by decide)
  | equipResult msg => exact le_of_eq_of_le (ScEquipResult.layout.written msg) (by decide)
  | inventoryUpdate msg => exact le_of_eq_of_le (ScInventoryUpdate.layout.written msg) (by decide)
  | inventoryList msg => exact le_of_eq_of_le (ScInventoryList.layout.written msg) (by decide)
  | shopList msg => exact le_of_eq_of_le (ScShopList.layout.written msg) (by decide)
  | shopResult msg => exact le_of_eq_of_le (ScShopResult.layout.written msg) (by decide)
  | questList msg => exact le_of_eq_of_le (ScQuestList.layout.written msg) (by decide)
  | questAcceptResult msg => exact le_of_eq_of_le (ScQuestAcceptResult.layout.written msg) (by decide)
  | questProgress msg => exact le_of_eq_of_le (ScQuestProgress.layout.written msg) (by decide)
  | questReward msg => exact le_of_eq_of_le (ScQuestReward.layout.written msg) (by decide)
  | partyInvite msg => exact le_of_eq_of_le (ScPartyInvite.layout.written msg) (by decide)
  | partyUpdate msg => exact le_of_eq_of_le (ScPartyUpdate.layout.written msg) (by decide)
  | partyLeave msg => exact le_of_eq_of_le (ScPartyLeave.layout.written msg) (by decide)
  | heartbeat => exact Nat.zero_le _
  | error msg => exact le_of_eq_of_le (ScError.layout.written msg) (by decide)

-- An id or a name that fills its array is none that fits, so what stands behind the
-- array never comes into it.
theorem decode_request (request : Request) (rest : Bytes) (fits : request.Fits) :
    decodeRequest (request.payload ++ rest) request.type = some request := by
  cases request with
  | login req =>
      have ended := chars_run_on req.accountId 32 64 ((chars 32).write [] ++ rest) fits.1 (by decide)
      have bytes : CsLogin.layout.write req ++ rest = (chars 32).write req.accountId ++ ((chars 32).write [] ++ rest) :=
        List.append_assoc _ _ _
      rw [Request.payload, Request.type, decodeRequest, bytes, ended]
  | charList => rfl
  | charCreate req =>
      have ended := chars_run_on req.name 20 21 (u8.write req.charType ++ rest) fits.1 (by decide)
      have bytes : CsCharCreate.layout.write req ++ rest = (chars 20).write req.name ++ (u8.write req.charType ++ rest) :=
        List.append_assoc _ _ _
      have whole : (CsCharCreate.layout.read (CsCharCreate.layout.write req ++ rest)).charType = req.charType :=
        congrArg CsCharCreate.charType (CsCharCreate.layout.reads req rest fits)
      change some (Request.charCreate ⟨cString (fieldAt (CsCharCreate.layout.write req ++ rest) 0 21),
        (CsCharCreate.layout.read (CsCharCreate.layout.write req ++ rest)).charType⟩) = _
      rw [whole, bytes, ended]
  | charSelect req => exact congrArg (fun read => some (Request.charSelect read)) (CsCharSelect.layout.reads req rest fits)
  | attendanceCheck => rfl
  | heartbeat => rfl
  | move req => exact congrArg (fun read => some (Request.move read)) (CsMove.layout.reads req rest fits)
  | attack req => exact congrArg (fun read => some (Request.attack read)) (CsAttack.layout.reads req rest fits)
  | chat req => exact congrArg (fun read => some (Request.chat read)) (CsChat.layout.reads req rest fits)
  | itemUse req => exact congrArg (fun read => some (Request.itemUse read)) (CsItemUse.layout.reads req rest fits)
  | itemEquip req => exact congrArg (fun read => some (Request.itemEquip read)) (CsItemEquip.layout.reads req rest fits)
  | shopOpen => rfl
  | shopBuy req => exact congrArg (fun read => some (Request.shopBuy read)) (CsShopBuy.layout.reads req rest fits)
  | shopSell req => exact congrArg (fun read => some (Request.shopSell read)) (CsShopSell.layout.reads req rest fits)
  | questList => rfl
  | questAccept req => exact congrArg (fun read => some (Request.questAccept read)) (CsQuestAccept.layout.reads req rest fits)
  | questComplete req => exact congrArg (fun read => some (Request.questComplete read)) (CsQuestComplete.layout.reads req rest fits)
  | partyInvite req => exact congrArg (fun read => some (Request.partyInvite read)) (CsPartyInvite.layout.reads req rest fits)
  | partyAccept req => exact congrArg (fun read => some (Request.partyAccept read)) (CsPartyAccept.layout.reads req rest fits)
  | partyLeave => rfl

theorem request_payload_length (request : Request) : request.payload.length ≤ 149 := by
  cases request with
  | login req => exact le_of_eq_of_le (CsLogin.layout.written req) (by decide)
  | charList => exact Nat.zero_le _
  | charCreate req => exact le_of_eq_of_le (CsCharCreate.layout.written req) (by decide)
  | charSelect req => exact le_of_eq_of_le (CsCharSelect.layout.written req) (by decide)
  | attendanceCheck => exact Nat.zero_le _
  | heartbeat => exact Nat.zero_le _
  | move req => exact le_of_eq_of_le (CsMove.layout.written req) (by decide)
  | attack req => exact le_of_eq_of_le (CsAttack.layout.written req) (by decide)
  | chat req => exact le_of_eq_of_le (CsChat.layout.written req) (by decide)
  | itemUse req => exact le_of_eq_of_le (CsItemUse.layout.written req) (by decide)
  | itemEquip req => exact le_of_eq_of_le (CsItemEquip.layout.written req) (by decide)
  | shopOpen => exact Nat.zero_le _
  | shopBuy req => exact le_of_eq_of_le (CsShopBuy.layout.written req) (by decide)
  | shopSell req => exact le_of_eq_of_le (CsShopSell.layout.written req) (by decide)
  | questList => exact le_of_eq_of_le (uid.written 0) (by decide)
  | questAccept req => exact le_of_eq_of_le (CsQuestAccept.layout.written req) (by decide)
  | questComplete req => exact le_of_eq_of_le (CsQuestComplete.layout.written req) (by decide)
  | partyInvite req => exact le_of_eq_of_le (CsPartyInvite.layout.written req) (by decide)
  | partyAccept req => exact le_of_eq_of_le (CsPartyAccept.layout.written req) (by decide)
  | partyLeave => exact Nat.zero_le _

theorem client_handler_for_code (type : PacketType) (known : type ∈ clientHandlers) : clientHandlerFor type.code = some type := by
  have every : ∀ type ∈ clientHandlers, clientHandlerFor type.code = some type := by decide
  exact every type known

theorem message_type_known (message : Message) : message.type ∈ clientHandlers := by
  cases message <;> simp [Message.type, clientHandlers]

theorem request_type_known (request : Request) : request.type ∈ registered := by
  cases request <;> simp [Request.type, registered]

theorem message_posted_fits (message : Message) : message.posted.Fits := by
  have length := message_payload_length message
  change headerSize + message.payload.length ≤ maxRecvBufferSize
  rw [headerSize, maxRecvBufferSize]
  omega

theorem request_posted_fits (request : Request) : request.posted.Fits := by
  have length := request_payload_length request
  change headerSize + request.payload.length ≤ maxRecvBufferSize
  rw [headerSize, maxRecvBufferSize]
  omega

end Messages

end MmorpgSimulator
