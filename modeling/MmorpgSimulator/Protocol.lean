import Mathlib

set_option autoImplicit false

namespace MmorpgSimulator

abbrev Bytes := List UInt8

def headerSize : Nat := 4
def maxPacketSize : Nat := 4096
def maxRecvBufferSize : Nat := 8192
def maxInventory : Nat := 20
def maxQuestList : Nat := 10
def maxParty : Nat := 4

abbrev SessionId := UInt32

-- The database hands out the first three from AUTO_INCREMENT columns, and they are only
-- stored, compared and printed; NPC uids come from the server's own counter.
abbrev AccountUid := Nat
abbrev CharUid := Nat
abbrev ItemUid := Nat
abbrev NpcUid := UInt64

inductive PacketType where
  | csLogin | scLoginResult | csLogout | scLogoutResult
  | csCharList | scCharList | csCharCreate | scCharCreateResult | csCharSelect | scCharInfo | scCharLeave
  | csAttendanceCheck | scAttendanceInfo | scAttendanceResult
  | csMove | scMoveResult
  | csAttack | scAttackResult | scNpcSpawn | scNpcDeath | scExpUpdate | scLevelUp
  | csChat | scChat
  | scItemDrop | csItemUse | scItemUseResult | csItemEquip | scEquipResult | scInventoryUpdate | scInventoryList
  | csShopOpen | scShopList | csShopBuy | scShopResult | csShopSell
  | csQuestList | scQuestList | csQuestAccept | scQuestAcceptResult | scQuestProgress | csQuestComplete | scQuestReward
  | csPartyInvite | scPartyInvite | csPartyAccept | scPartyUpdate | csPartyLeave | scPartyLeave
  | csHeartbeat | scHeartbeat | scError
deriving DecidableEq, Repr

def PacketType.code : PacketType → UInt16
  | .csLogin => 0x0101 | .scLoginResult => 0x0102 | .csLogout => 0x0103 | .scLogoutResult => 0x0104
  | .csCharList => 0x0201 | .scCharList => 0x0202 | .csCharCreate => 0x0203 | .scCharCreateResult => 0x0204
  | .csCharSelect => 0x0205 | .scCharInfo => 0x0206 | .scCharLeave => 0x0207
  | .csAttendanceCheck => 0x0301 | .scAttendanceInfo => 0x0302 | .scAttendanceResult => 0x0303
  | .csMove => 0x0401 | .scMoveResult => 0x0402
  | .csAttack => 0x0501 | .scAttackResult => 0x0502 | .scNpcSpawn => 0x0503 | .scNpcDeath => 0x0504
  | .scExpUpdate => 0x0505 | .scLevelUp => 0x0506
  | .csChat => 0x0601 | .scChat => 0x0602
  | .scItemDrop => 0x0701 | .csItemUse => 0x0702 | .scItemUseResult => 0x0703 | .csItemEquip => 0x0704
  | .scEquipResult => 0x0705 | .scInventoryUpdate => 0x0706 | .scInventoryList => 0x0707
  | .csShopOpen => 0x0801 | .scShopList => 0x0802 | .csShopBuy => 0x0803 | .scShopResult => 0x0804 | .csShopSell => 0x0805
  | .csQuestList => 0x0A01 | .scQuestList => 0x0A02 | .csQuestAccept => 0x0A03 | .scQuestAcceptResult => 0x0A04
  | .scQuestProgress => 0x0A05 | .csQuestComplete => 0x0A06 | .scQuestReward => 0x0A07
  | .csPartyInvite => 0x0B01 | .scPartyInvite => 0x0B02 | .csPartyAccept => 0x0B03 | .scPartyUpdate => 0x0B04
  | .csPartyLeave => 0x0B05 | .scPartyLeave => 0x0B06
  | .csHeartbeat => 0xFF01 | .scHeartbeat => 0xFF02 | .scError => 0xFF03

-- Little-endian fields of the packed structs; memcpy reads them at fixed offsets.
def leNat : Bytes → Nat
  | [] => 0
  | byte :: rest => byte.toNat + 256 * leNat rest

def leBytes : Nat → Nat → Bytes
  | 0, _ => []
  | width + 1, value => UInt8.ofNat value :: leBytes width (value / 256)

def fieldAt (payload : Bytes) (offset size : Nat) : Bytes := (payload.drop offset).take size

def u8At (payload : Bytes) (offset : Nat) : UInt8 := UInt8.ofNat (leNat (fieldAt payload offset 1))
def u16At (payload : Bytes) (offset : Nat) : UInt16 := UInt16.ofNat (leNat (fieldAt payload offset 2))
def u64At (payload : Bytes) (offset : Nat) : Nat := leNat (fieldAt payload offset 8)

-- A char array read as a C string ends at its first NUL.
def cString (field : Bytes) : Bytes := field.takeWhile (fun byte => byte ≠ 0)

-- What strncpy_s leaves in the destination when it does not trip its constraint.
def strncpyS (source : Bytes) (count : Nat) : Bytes := source.take count

def strncpyFits (destination : Nat) (source : Bytes) (count : Nat) : Bool := decide (min source.length count < destination)
def strcpyFits (destination : Nat) (source : Bytes) : Bool := decide (source.length < destination)

def text (literal : String) : Bytes := literal.toUTF8.toList

-- The accountId array is followed by password in the packed struct, so an
-- unterminated id runs on into it when read as a C string.
structure CsLogin where
  accountId : Bytes
deriving DecidableEq, Repr

structure CsCharCreate where
  name : Bytes
  charType : UInt8
deriving DecidableEq, Repr

structure CsCharSelect where
  charUid : CharUid
deriving DecidableEq, Repr

structure CsMove where
  dirX : Int8
  dirY : Int8
deriving DecidableEq, Repr

structure CsAttack where
  targetUid : NpcUid
deriving DecidableEq, Repr

structure CsChat where
  channel : UInt8
  targetName : Bytes
  message : Bytes
deriving DecidableEq, Repr

structure CsItemUse where
  slot : UInt8
deriving DecidableEq, Repr

structure CsItemEquip where
  slot : UInt8
deriving DecidableEq, Repr

structure CsShopBuy where
  itemId : UInt16
deriving DecidableEq, Repr

structure CsShopSell where
  slot : UInt8
deriving DecidableEq, Repr

structure CsQuestAccept where
  questId : UInt16
deriving DecidableEq, Repr

structure CsQuestComplete where
  questId : UInt16
deriving DecidableEq, Repr

structure CsPartyInvite where
  targetName : Bytes
deriving DecidableEq, Repr

structure CsPartyAccept where
  accept : UInt8
deriving DecidableEq, Repr

inductive Request where
  | login (req : CsLogin)
  | charList
  | charCreate (req : CsCharCreate)
  | charSelect (req : CsCharSelect)
  | attendanceCheck
  | heartbeat
  | move (req : CsMove)
  | attack (req : CsAttack)
  | chat (req : CsChat)
  | itemUse (req : CsItemUse)
  | itemEquip (req : CsItemEquip)
  | shopOpen
  | shopBuy (req : CsShopBuy)
  | shopSell (req : CsShopSell)
  | questList
  | questAccept (req : CsQuestAccept)
  | questComplete (req : CsQuestComplete)
  | partyInvite (req : CsPartyInvite)
  | partyAccept (req : CsPartyAccept)
  | partyLeave
deriving DecidableEq, Repr

def Request.Elsewhere : Request → Prop
  | .partyInvite _ => False
  | .partyAccept _ => False
  | .partyLeave => False
  | _ => True

-- The types main registers with PacketHandler, in its order.
def registered : List PacketType :=
  [.csLogin, .csCharList, .csCharCreate, .csCharSelect, .csAttendanceCheck, .csHeartbeat, .csMove, .csAttack, .csChat,
    .csItemUse, .csItemEquip, .csShopOpen, .csShopBuy, .csShopSell, .csQuestList, .csQuestAccept, .csQuestComplete,
    .csPartyInvite, .csPartyAccept, .csPartyLeave]

def handlerFor (code : UInt16) : Option PacketType := registered.find? (fun type => type.code = code)

-- Each handler copies its struct out of the payload; the others never look at it.
def decodeRequest (payload : Bytes) : PacketType → Option Request
  | .csLogin => some (.login ⟨cString (fieldAt payload 0 64)⟩)
  | .csCharList => some .charList
  | .csCharCreate => some (.charCreate ⟨cString (fieldAt payload 0 21), u8At payload 20⟩)
  | .csCharSelect => some (.charSelect ⟨u64At payload 0⟩)
  | .csAttendanceCheck => some .attendanceCheck
  | .csHeartbeat => some .heartbeat
  | .csMove => some (.move ⟨(u8At payload 0).toInt8, (u8At payload 1).toInt8⟩)
  | .csAttack => some (.attack ⟨UInt64.ofNat (u64At payload 0)⟩)
  | .csChat => some (.chat ⟨u8At payload 0, cString (fieldAt payload 1 20), cString (fieldAt payload 21 128)⟩)
  | .csItemUse => some (.itemUse ⟨u8At payload 0⟩)
  | .csItemEquip => some (.itemEquip ⟨u8At payload 0⟩)
  | .csShopOpen => some .shopOpen
  | .csShopBuy => some (.shopBuy ⟨u16At payload 0⟩)
  | .csShopSell => some (.shopSell ⟨u8At payload 0⟩)
  | .csQuestList => some .questList
  | .csQuestAccept => some (.questAccept ⟨u16At payload 0⟩)
  | .csQuestComplete => some (.questComplete ⟨u16At payload 0⟩)
  | .csPartyInvite => some (.partyInvite ⟨cString (fieldAt payload 0 20)⟩)
  | .csPartyAccept => some (.partyAccept ⟨u8At payload 0⟩)
  | .csPartyLeave => some .partyLeave
  | _ => none

structure ScLoginResult where
  success : UInt8 := 0
  accountUid : AccountUid := 0
  message : Bytes := []
deriving DecidableEq, Repr

structure ScCharListEntry where
  charUid : CharUid
  name : Bytes
  charType : UInt8
  level : UInt16
deriving DecidableEq, Repr

-- Counted arrays are lists here; the count field is the length.
structure ScCharList where
  chars : List ScCharListEntry := []
deriving DecidableEq, Repr

structure ScCharCreateResult where
  success : UInt8 := 0
  charUid : CharUid := 0
  message : Bytes := []
deriving DecidableEq, Repr

structure ScCharInfo where
  charUid : AccountUid := 0
  name : Bytes := []
  level : UInt16 := 0
  exp : UInt32 := 0
  posX : Int16 := 0
  posY : Int16 := 0
  hp : UInt16 := 0
  maxHp : UInt16 := 0
  gold : UInt64 := 0
deriving DecidableEq, Repr

structure ScCharLeave where
  charUid : AccountUid := 0
deriving DecidableEq, Repr

structure ScAttendanceInfo where
  todayAttended : UInt8 := 0
  rewardGold : UInt32 := 0
deriving DecidableEq, Repr

structure ScAttendanceResult where
  success : UInt8 := 0
  rewardGold : UInt32 := 0
deriving DecidableEq, Repr

structure ScMoveResult where
  success : UInt8 := 0
  posX : Int16 := 0
  posY : Int16 := 0
deriving DecidableEq, Repr

structure ScAttackResult where
  success : UInt8 := 0
  targetUid : NpcUid := 0
  damage : UInt16 := 0
  targetHp : UInt16 := 0
deriving DecidableEq, Repr

structure ScNpcSpawn where
  npcUid : NpcUid := 0
  posX : Int16 := 0
  posY : Int16 := 0
  hp : UInt16 := 0
  maxHp : UInt16 := 0
deriving DecidableEq, Repr

structure ScNpcDeath where
  npcUid : NpcUid := 0
  expReward : UInt32 := 0
  goldReward : UInt32 := 0
deriving DecidableEq, Repr

structure ScExpUpdate where
  exp : UInt32 := 0
  maxExp : UInt32 := 0
deriving DecidableEq, Repr

structure ScLevelUp where
  level : UInt16 := 0
  hp : UInt16 := 0
  maxHp : UInt16 := 0
  atk : UInt16 := 0
  defense : UInt16 := 0
deriving DecidableEq, Repr

structure ScChat where
  channel : UInt8 := 0
  senderName : Bytes := []
  message : Bytes := []
deriving DecidableEq, Repr

structure ScItemDrop where
  slot : UInt8 := 0
  itemId : UInt16 := 0
  itemName : Bytes := []
deriving DecidableEq, Repr

structure ScItemUseResult where
  charUid : CharUid := 0
  charName : Bytes := []
  itemName : Bytes := []
  effectType : UInt8 := 0
  effectValue : UInt16 := 0
deriving DecidableEq, Repr

structure ScEquipResult where
  success : UInt8 := 0
  slot : UInt8 := 0
  atk : UInt16 := 0
  defense : UInt16 := 0
  weaponName : Bytes := []
  armorName : Bytes := []
  message : Bytes := []
deriving DecidableEq, Repr

structure ScInventoryUpdate where
  slot : UInt8 := 0
  itemId : UInt16 := 0
  itemName : Bytes := []
deriving DecidableEq, Repr

structure ScInventoryList where
  items : List ScInventoryUpdate := []
deriving DecidableEq, Repr

structure ScShopEntry where
  itemId : UInt16
  itemName : Bytes
  price : UInt32
deriving DecidableEq, Repr

structure ScShopList where
  items : List ScShopEntry := []
deriving DecidableEq, Repr

structure ScShopResult where
  success : UInt8 := 0
  itemId : UInt16 := 0
  remainGold : UInt64 := 0
  message : Bytes := []
deriving DecidableEq, Repr

structure ScQuestEntry where
  questId : UInt16
  name : Bytes
  status : UInt8
  progress : UInt16
  target : UInt16
deriving DecidableEq, Repr

structure ScQuestList where
  quests : List ScQuestEntry := []
deriving DecidableEq, Repr

structure ScQuestAcceptResult where
  success : UInt8 := 0
  questId : UInt16 := 0
  message : Bytes := []
deriving DecidableEq, Repr

structure ScQuestProgress where
  questId : UInt16 := 0
  progress : UInt16 := 0
  target : UInt16 := 0
deriving DecidableEq, Repr

structure ScQuestReward where
  success : UInt8 := 0
  questId : UInt16 := 0
  rewardGold : UInt32 := 0
  rewardExp : UInt32 := 0
  rewardItemId : UInt16 := 0
  message : Bytes := []
deriving DecidableEq, Repr

structure ScPartyInvite where
  inviterName : Bytes := []
deriving DecidableEq, Repr

structure ScPartyMember where
  charUid : CharUid := 0
  name : Bytes := []
  hp : UInt16 := 0
  maxHp : UInt16 := 0
  posX : Int16 := 0
  posY : Int16 := 0
deriving DecidableEq, Repr

structure ScPartyUpdate where
  memberCount : UInt8 := 0
  members : List ScPartyMember := []
deriving DecidableEq, Repr

structure ScPartyLeave where
  charUid : CharUid := 0
deriving DecidableEq, Repr

structure ScError where
  errorCode : UInt16 := 0
  message : Bytes := []
deriving DecidableEq, Repr

inductive Message where
  | loginResult (msg : ScLoginResult)
  | charList (msg : ScCharList)
  | charCreateResult (msg : ScCharCreateResult)
  | charInfo (msg : ScCharInfo)
  | charLeave (msg : ScCharLeave)
  | attendanceInfo (msg : ScAttendanceInfo)
  | attendanceResult (msg : ScAttendanceResult)
  | moveResult (msg : ScMoveResult)
  | attackResult (msg : ScAttackResult)
  | npcSpawn (msg : ScNpcSpawn)
  | npcDeath (msg : ScNpcDeath)
  | expUpdate (msg : ScExpUpdate)
  | levelUp (msg : ScLevelUp)
  | chat (msg : ScChat)
  | itemDrop (msg : ScItemDrop)
  | itemUseResult (msg : ScItemUseResult)
  | equipResult (msg : ScEquipResult)
  | inventoryUpdate (msg : ScInventoryUpdate)
  | inventoryList (msg : ScInventoryList)
  | shopList (msg : ScShopList)
  | shopResult (msg : ScShopResult)
  | questList (msg : ScQuestList)
  | questAcceptResult (msg : ScQuestAcceptResult)
  | questProgress (msg : ScQuestProgress)
  | questReward (msg : ScQuestReward)
  | partyInvite (msg : ScPartyInvite)
  | partyUpdate (msg : ScPartyUpdate)
  | partyLeave (msg : ScPartyLeave)
  | heartbeat
  | error (msg : ScError)
deriving DecidableEq, Repr

end MmorpgSimulator
