import MmorpgSimulator.GameData

set_option autoImplicit false

namespace MmorpgSimulator

-- Tables with the columns the stored procedures of the game read or write. No
-- statement of the repository sets ExpireDate, so the expiry updates of
-- spCharacterLogin change no row and are left out.
structure AccountRow where
  accountUid : AccountUid
  channelType : Nat
  channelId : Nat
  charUid : CharUid
deriving DecidableEq, Repr

structure CharacterRow where
  charUid : CharUid
  accountUid : AccountUid
  charName : Bytes
  charType : UInt8
  level : Int32
  exp : Int64
  gold : Int64
deriving DecidableEq, Repr

structure InventoryRow where
  itemUid : ItemUid
  charUid : CharUid
  itemTid : UInt16
  deleted : Bool
deriving DecidableEq, Repr

-- AUTO_INCREMENT keys: rows stand in ascending order of their uid, which is the
-- order ORDER BY asks for, and the next uid is above all of them.
structure CharacterTable where
  rows : List CharacterRow
  nextUid : CharUid
  ascending : rows.Pairwise (fun a b => a.charUid < b.charUid)
  issued : ∀ row ∈ rows, 0 < row.charUid ∧ row.charUid < nextUid
  positive : 0 < nextUid

structure InventoryTable where
  rows : List InventoryRow
  nextUid : ItemUid
  ascending : rows.Pairwise (fun a b => a.itemUid < b.itemUid)
  issued : ∀ row ∈ rows, 0 < row.itemUid ∧ row.itemUid < nextUid
  positive : 0 < nextUid

def CharacterTable.empty : CharacterTable := ⟨[], 1, .nil, by simp, by decide⟩
def InventoryTable.empty : InventoryTable := ⟨[], 1, .nil, by simp, by decide⟩

def CharacterTable.add (table : CharacterTable) (accountUid : AccountUid) (charName : Bytes) (charType : UInt8)
    (level : Int32) (exp : Int64) : CharacterTable where
  rows := table.rows ++ [⟨table.nextUid, accountUid, charName, charType, level, exp, 0⟩]
  nextUid := table.nextUid + 1
  ascending := by
    refine List.pairwise_append.mpr ⟨table.ascending, List.pairwise_singleton _ _, ?_⟩
    intro row member fresh freshMember
    rw [List.mem_singleton.mp freshMember]
    exact (table.issued row member).2
  issued := by
    intro row member
    rcases List.mem_append.mp member with old | fresh
    · exact ⟨(table.issued row old).1, Nat.lt_succ_of_lt (table.issued row old).2⟩
    · rw [List.mem_singleton.mp fresh]
      exact ⟨table.positive, Nat.lt_succ_self _⟩
  positive := Nat.succ_pos _

def CharacterTable.addGold (table : CharacterTable) (charUid : CharUid) (amount : Int64) : CharacterTable where
  rows := table.rows.map (fun row => { row with gold := if row.charUid = charUid then row.gold + amount else row.gold })
  nextUid := table.nextUid
  ascending := by
    rw [List.pairwise_map]
    exact table.ascending
  issued := by
    intro row member
    obtain ⟨old, oldMember, rfl⟩ := List.mem_map.mp member
    exact table.issued old oldMember
  positive := table.positive

def InventoryTable.add (table : InventoryTable) (charUid : CharUid) (itemTid : UInt16) : InventoryTable where
  rows := table.rows ++ [⟨table.nextUid, charUid, itemTid, false⟩]
  nextUid := table.nextUid + 1
  ascending := by
    refine List.pairwise_append.mpr ⟨table.ascending, List.pairwise_singleton _ _, ?_⟩
    intro row member fresh freshMember
    rw [List.mem_singleton.mp freshMember]
    exact (table.issued row member).2
  issued := by
    intro row member
    rcases List.mem_append.mp member with old | fresh
    · exact ⟨(table.issued row old).1, Nat.lt_succ_of_lt (table.issued row old).2⟩
    · rw [List.mem_singleton.mp fresh]
      exact ⟨table.positive, Nat.lt_succ_self _⟩
  positive := Nat.succ_pos _

def InventoryTable.softDelete (table : InventoryTable) (itemUid : ItemUid) : InventoryTable where
  rows := table.rows.map (fun row => { row with deleted := decide (row.itemUid = itemUid) || row.deleted })
  nextUid := table.nextUid
  ascending := by
    rw [List.pairwise_map]
    exact table.ascending
  issued := by
    intro row member
    obtain ⟨old, oldMember, rfl⟩ := List.mem_map.mp member
    exact table.issued old oldMember
  positive := table.positive

-- Keyed tables are functions of their key: equipment of (CharUid, Slot),
-- quest_progress of CharUid. The DDL of `character` is not in the repository,
-- so its defaults for Level and Exp are part of the state.
structure Database where
  accounts : List AccountRow
  characters : CharacterTable
  inventory : InventoryTable
  equipment : CharUid → Nat → Option ItemUid
  questProgress : CharUid → QuestLog
  attendance : List (CharUid × Nat)
  today : Nat
  defaultLevel : Int32
  defaultExp : Int64

def Database.firstCharacter (db : Database) (accountUid : AccountUid) : CharUid :=
  ((db.characters.rows.find? (fun row => row.accountUid = accountUid)).map CharacterRow.charUid).getD 0

def Database.spAccountLogin (db : Database) (channelType channelId : Nat) : Database × (AccountUid × CharUid) :=
  let account := db.accounts.find? (fun row => row.channelType = channelType ∧ row.channelId = channelId)
  let accountUid := (account.map AccountRow.accountUid).getD 0
  if accountUid = 0 then
    ({ db with accounts := db.accounts ++ [⟨channelId, channelType, channelId, 0⟩] },
      (channelId, db.firstCharacter channelId))
  else (db, (accountUid, db.firstCharacter accountUid))

def Database.spCharacterList (db : Database) (accountUid : AccountUid) : List CharacterRow :=
  (db.characters.rows.filter (fun row => row.accountUid = accountUid)).take 5

def Database.spCharacterCreate (db : Database) (accountUid : AccountUid) (charName : Bytes) (charType : UInt8) :
    Option (Database × CharUid) :=
  if db.characters.rows.any (fun row => row.charName = charName) then none
  else
    some ({ db with
      characters := db.characters.add accountUid charName charType db.defaultLevel db.defaultExp
      accounts := db.accounts.map (fun row =>
        { row with charUid := if row.accountUid = accountUid then db.characters.nextUid else row.charUid }) },
      db.characters.nextUid)

def Database.character (db : Database) (charUid : CharUid) : Option CharacterRow :=
  db.characters.rows.find? (fun row => row.charUid = charUid)

-- The rest of spCharacterLogin's result sets are never fetched.
def Database.spCharacterLogin (db : Database) (accountUid : AccountUid) (charUid : CharUid) :
    Option (Database × (Int32 × Int64 × Int64)) :=
  match db.character charUid with
  | some row => if row.accountUid = accountUid then some (db, (row.level, row.exp, row.gold)) else none
  | none => none

def Database.liveRows (db : Database) (charUid : CharUid) : List InventoryRow :=
  db.inventory.rows.filter (fun row => row.charUid = charUid ∧ row.deleted = false)

def Database.equipped (db : Database) (charUid : CharUid) (slot : Nat) : Option InventoryRow :=
  (db.equipment charUid slot).bind (fun itemUid => db.inventory.rows.find? (fun row => row.itemUid = itemUid))

-- Both result sets: the live rows, and the join of equipment with inventory,
-- which does not look at DeleteDate.
def Database.spInventoryLoad (db : Database) (charUid : CharUid) :
    List InventoryRow × (Nat → Option InventoryRow) :=
  (db.liveRows charUid, db.equipped charUid)

def Database.spInventoryAdd (db : Database) (charUid : CharUid) (itemTid : UInt16) : Database × ItemUid :=
  ({ db with inventory := db.inventory.add charUid itemTid }, db.inventory.nextUid)

def Database.spInventoryRemove (db : Database) (itemUid : ItemUid) : Database :=
  { db with
    inventory := db.inventory.softDelete itemUid
    equipment := fun charUid slot =>
      if db.equipment charUid slot = some itemUid then none else db.equipment charUid slot }

def Database.spEquipItem (db : Database) (charUid : CharUid) (slot : Nat) (itemUid : ItemUid) : Database :=
  { db with
    equipment := fun owner place => if owner = charUid ∧ place = slot then some itemUid else db.equipment owner place }

def Database.spQuestLoad (db : Database) (charUid : CharUid) : QuestLog := db.questProgress charUid

def Database.spQuestSave (db : Database) (charUid : CharUid) (questId : UInt16) (state : QuestProgress) : Database :=
  { db with questProgress := Function.update db.questProgress charUid ((db.questProgress charUid).insert questId state) }

def Database.attended (db : Database) (charUid : CharUid) : Bool := decide ((charUid, db.today) ∈ db.attendance)

def Database.spAttendanceInfo (db : Database) (charUid : CharUid) : UInt8 × UInt32 :=
  (if db.attended charUid then 1 else 0, 100)

def Database.spAttendanceCheck (db : Database) (charUid : CharUid) : Database × (UInt8 × UInt32) :=
  if db.attended charUid then (db, (0, 0))
  else
    ({ db with
      attendance := (charUid, db.today) :: db.attendance
      characters := db.characters.addGold charUid 100 }, (1, 100))

end MmorpgSimulator
