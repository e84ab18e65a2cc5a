import MmorpgSimulator.Protocol
import MmorpgSimulator.Library.Cells

set_option autoImplicit false

namespace MmorpgSimulator

def mapSize : Nat := 20
def maxNpc : Nat := 5
def questNpcX : Int16 := 2
def questNpcY : Int16 := 2

structure Npc where
  uid : NpcUid
  posX : Int16
  posY : Int16
  hp : UInt16
  maxHp : UInt16
  atk : UInt16 := 5
  defense : UInt16 := 2
  expReward : UInt32 := 30
  goldReward : UInt32 := 10
  alive : Bool
deriving DecidableEq, Repr

def weaponType : Bytes := text "weapon"
def consumableType : Bytes := text "consumable"

structure ItemData where
  id : UInt16
  name : Bytes
  type : Bytes
  atk : UInt16 := 0
  defense : UInt16 := 0
  hp : UInt16 := 0
  price : UInt32 := 0
deriving DecidableEq, Repr

structure DropEntry where
  itemId : UInt16
  weight : Int
deriving DecidableEq, Repr

structure QuestData where
  id : UInt16
  name : Bytes
  target : UInt16
  rewardGold : UInt32
  rewardExp : UInt32
  rewardItemId : UInt16
deriving DecidableEq, Repr

-- What main loads before it starts the server, and the two library functions
-- whose results the handlers use but the repository does not contain: std::hash
-- and the reading MySQL makes of the CALL text that OnCharCreate concatenates
-- (the name and type it binds, or nothing when it rejects the statement).
structure GameData where
  items : List ItemData
  dropTable : List DropEntry
  totalWeight : Int
  quests : List QuestData
  stdHash : Bytes → Nat
  characterCreateArguments : Bytes → UInt8 → Option (Bytes × UInt8)

def GameData.findItem (data : GameData) (id : UInt16) : Option ItemData :=
  data.items.find? (fun item => item.id = id)

def GameData.findQuest (data : GameData) (id : UInt16) : Option QuestData :=
  data.quests.find? (fun quest => quest.id = id)

theorem find_item_id (data : GameData) (id : UInt16) (item : ItemData) (found : data.findItem id = some item) :
    item.id = id := by
  simpa using List.find?_some found

theorem find_quest_id (data : GameData) (id : UInt16) (quest : QuestData) (found : data.findQuest id = some quest) :
    quest.id = id := by
  simpa using List.find?_some found

theorem find_quest_mem (data : GameData) (id : UInt16) (quest : QuestData) (found : data.findQuest id = some quest) :
    quest ∈ data.quests :=
  List.mem_of_find?_eq_some found

structure QuestProgress where
  status : UInt8 := 0
  progress : UInt16 := 0
deriving DecidableEq, Repr

-- std::map: lookups by key, iteration in ascending order of keys.
abbrev QuestLog := Std.ExtTreeMap UInt16 QuestProgress

structure Party where
  id : UInt32 := 0
  members : List SessionId := []
deriving DecidableEq, Repr

structure InvSlot where
  itemUid : ItemUid := 0
  itemTid : UInt16 := 0
deriving DecidableEq, Repr

-- The handlers take a template id of zero for an empty slot.
def InvSlot.Holds (slot : InvSlot) : Prop := slot.itemTid ≠ 0

instance : DecidablePred InvSlot.Holds := fun slot => inferInstanceAs (Decidable (slot.itemTid ≠ 0))

structure Inventory where
  slots : Vector InvSlot maxInventory := Vector.replicate maxInventory {}
  weaponUid : ItemUid := 0
  armorUid : ItemUid := 0
  weaponTid : UInt16 := 0
  armorTid : UInt16 := 0
deriving DecidableEq

def Inventory.slot (inv : Inventory) (index : Nat) : InvSlot := (inv.slots[index]?).getD {}

def Inventory.setSlot (inv : Inventory) (index : Nat) (slot : InvSlot) : Inventory :=
  { inv with slots := inv.slots.setIfInBounds index slot }

def Inventory.weapon (inv : Inventory) : InvSlot := ⟨inv.weaponUid, inv.weaponTid⟩
def Inventory.armor (inv : Inventory) : InvSlot := ⟨inv.armorUid, inv.armorTid⟩

def Inventory.setWeapon (inv : Inventory) (slot : InvSlot) : Inventory :=
  { inv with weaponUid := slot.itemUid, weaponTid := slot.itemTid }

def Inventory.setArmor (inv : Inventory) (slot : InvSlot) : Inventory :=
  { inv with armorUid := slot.itemUid, armorTid := slot.itemTid }

def findEmptySlot (inv : Inventory) : Option Nat := inv.slots.toList.findIdx? (fun slot => slot.itemTid = 0)

structure PlayerData where
  name : Bytes := []
  posX : Int16 := 10
  posY : Int16 := 10
  level : UInt16 := 1
  hp : UInt16 := 100
  maxHp : UInt16 := 100
  atk : UInt16 := 15
  defense : UInt16 := 5
  exp : UInt64 := 0
  maxExp : UInt32 := 100
  gold : UInt64 := 0
  accountUid : AccountUid := 0
  charUid : CharUid := 0
  loggedIn : Bool := false
deriving DecidableEq, Repr

end MmorpgSimulator
