import MmorpgSimulator.GameData

set_option autoImplicit false

namespace MmorpgSimulator

inductive GameState where
  | login
  | charSelect
  | inGame
deriving DecidableEq, Repr

structure MyPlayer where
  uid : AccountUid := 0
  posX : Int16 := 10
  posY : Int16 := 10
  level : UInt16 := 1
  hp : UInt16 := 100
  maxHp : UInt16 := 100
  atk : UInt16 := 15
  defense : UInt16 := 5
  exp : UInt32 := 0
  maxExp : UInt32 := 100
  gold : UInt64 := 0
deriving DecidableEq, Repr

structure OtherPlayer where
  uid : AccountUid
  name : Bytes
  posX : Int16
  posY : Int16
deriving DecidableEq, Repr

structure ShownNpc where
  uid : NpcUid
  posX : Int16
  posY : Int16
  hp : UInt16
  maxHp : UInt16
deriving DecidableEq, Repr

structure ShownSlot where
  itemId : UInt16 := 0
  name : Bytes := []
deriving DecidableEq, Repr

-- The globals of the client's main.cpp that outlive a message, less the lines of
-- text it prints and the lists that only a menu shows.
structure Client where
  gameState : GameState := .login
  accountUid : AccountUid := 0
  myPlayer : MyPlayer := {}
  todayAttended : Bool := false
  rewardGold : UInt32 := 0
  otherPlayers : Std.ExtTreeMap AccountUid OtherPlayer := ∅
  npcs : Std.ExtTreeMap NpcUid ShownNpc := ∅
  inventory : Vector ShownSlot maxInventory := Vector.replicate maxInventory {}
  equippedWeapon : Bytes := []
  equippedArmor : Bytes := []
  questEntries : List ScQuestEntry := []
  partyMembers : Vector ScPartyMember maxParty := Vector.replicate maxParty {}
  partyCount : Nat := 0
  pendingInvite : Bool := false
  inviterName : Bytes := []

-- The keys of main's loop: 'p' with the name it asks for, 'y', 'n', and those that
-- send a request of another kind.
inductive Key where
  | party (name : Bytes)
  | yes
  | no
  | other (request : Request) (elsewhere : request.Elsewhere)

namespace Client

variable (client : Client)

def onLoginResult (result : ScLoginResult) : Client := { client with accountUid := result.accountUid }

def onCharList : Client := { client with gameState := .charSelect }

-- SC_CharInfo carries neither maxExp nor atk nor def.
def shownPlayer (player : MyPlayer) (info : ScCharInfo) : MyPlayer :=
  { player with
    level := info.level, exp := info.exp, posX := info.posX, posY := info.posY, hp := info.hp, maxHp := info.maxHp
    gold := info.gold }

def onCharInfo (info : ScCharInfo) : Client :=
  if client.gameState = .charSelect then
    { client with gameState := .inGame, myPlayer := shownPlayer { client.myPlayer with uid := info.charUid } info }
  else if info.charUid = client.myPlayer.uid then { client with myPlayer := shownPlayer client.myPlayer info }
  else
    { client with
      otherPlayers := client.otherPlayers.insert info.charUid ⟨info.charUid, strncpyS info.name 31, info.posX, info.posY⟩ }

def onCharLeave (leave : ScCharLeave) : Client := { client with otherPlayers := client.otherPlayers.erase leave.charUid }

def onMoveResult (result : ScMoveResult) : Client :=
  if result.success ≠ 0 then { client with myPlayer := { client.myPlayer with posX := result.posX, posY := result.posY } } else client

def onNpcSpawn (spawn : ScNpcSpawn) : Client :=
  { client with npcs := client.npcs.insert spawn.npcUid ⟨spawn.npcUid, spawn.posX, spawn.posY, spawn.hp, spawn.maxHp⟩ }

def onNpcDeath (death : ScNpcDeath) : Client :=
  { client with
    npcs := client.npcs.erase death.npcUid
    myPlayer := { client.myPlayer with gold := client.myPlayer.gold + death.goldReward.toUInt64 } }

def onAttackResult (result : ScAttackResult) : Client :=
  if result.success ≠ 0 then
    { client with npcs := client.npcs.modify result.targetUid (fun npc => { npc with hp := result.targetHp }) }
  else client

def onExpUpdate (exp : ScExpUpdate) : Client :=
  { client with myPlayer := { client.myPlayer with exp := exp.exp, maxExp := exp.maxExp } }

def onLevelUp (lvup : ScLevelUp) : Client :=
  { client with
    myPlayer := { client.myPlayer with
      level := lvup.level, hp := lvup.hp, maxHp := lvup.maxHp, atk := lvup.atk, defense := lvup.defense } }

def onAttendanceInfo (info : ScAttendanceInfo) : Client :=
  { client with todayAttended := decide (info.todayAttended ≠ 0), rewardGold := info.rewardGold }

def onAttendanceResult (result : ScAttendanceResult) : Client :=
  if result.success ≠ 0 then
    { client with
      todayAttended := true
      myPlayer := { client.myPlayer with gold := client.myPlayer.gold + result.rewardGold.toUInt64 } }
  else client

def onItemDrop (drop : ScItemDrop) : Client :=
  { client with inventory := client.inventory.setIfInBounds drop.slot.toNat ⟨drop.itemId, strncpyS drop.itemName 31⟩ }

def onEquipResult (result : ScEquipResult) : Client :=
  if result.success ≠ 0 then
    { client with
      myPlayer := { client.myPlayer with atk := result.atk, defense := result.defense }
      equippedWeapon := strncpyS result.weaponName 31
      equippedArmor := strncpyS result.armorName 31 }
  else client

def onInventoryUpdate (upd : ScInventoryUpdate) : Client :=
  { client with
    inventory := client.inventory.setIfInBounds upd.slot.toNat
      ⟨upd.itemId, if upd.itemId ≠ 0 then strncpyS upd.itemName 31 else []⟩ }

def onInventoryList (list : ScInventoryList) : Client := (list.items.take maxInventory).foldl onInventoryUpdate client

def onShopResult (result : ScShopResult) : Client := { client with myPlayer := { client.myPlayer with gold := result.remainGold } }

def onQuestListResult (list : ScQuestList) : Client := { client with questEntries := list.quests }

-- The three messages about one quest change its first entry only.
def setQuestEntry (questId : UInt16) (change : ScQuestEntry → ScQuestEntry) : List ScQuestEntry → List ScQuestEntry
  | [] => []
  | entry :: rest => if entry.questId = questId then change entry :: rest else entry :: setQuestEntry questId change rest

def onQuestAcceptResult (result : ScQuestAcceptResult) : Client :=
  if result.success ≠ 0 then
    { client with
      questEntries := setQuestEntry result.questId (fun entry => { entry with status := 1, progress := 0 }) client.questEntries }
  else client

def onQuestProgressUpdate (prog : ScQuestProgress) : Client :=
  { client with
    questEntries := setQuestEntry prog.questId (fun entry =>
      { entry with
        progress := prog.progress, target := prog.target
        status := if prog.target ≤ prog.progress then 2 else entry.status }) client.questEntries }

def onQuestRewardResult (reward : ScQuestReward) : Client :=
  if reward.success ≠ 0 then
    { client with questEntries := setQuestEntry reward.questId (fun entry => { entry with status := 3 }) client.questEntries }
  else client

def onPartyInviteRecv (invite : ScPartyInvite) : Client :=
  { client with pendingInvite := true, inviterName := strncpyS invite.inviterName 19 }

-- Entries behind memberCount keep what they showed before.
def onPartyUpdateRecv (upd : ScPartyUpdate) : Client :=
  { client with
    partyCount := upd.memberCount.toNat
    partyMembers := Vector.ofFn (fun index =>
      if index.val < upd.memberCount.toNat then
        { (upd.members[index.val]?).getD {} with name := strncpyS ((upd.members[index.val]?).getD {}).name 19 }
      else client.partyMembers[index]) }

def onPartyLeaveRecv (leave : ScPartyLeave) : Client := if leave.charUid = 0 then { client with partyCount := 0 } else client

-- The handlers that main registers; the others only print.
def receive : Message → Client
  | .loginResult result => client.onLoginResult result
  | .charList _ => client.onCharList
  | .charInfo info => client.onCharInfo info
  | .charLeave leave => client.onCharLeave leave
  | .moveResult result => client.onMoveResult result
  | .npcSpawn spawn => client.onNpcSpawn spawn
  | .npcDeath death => client.onNpcDeath death
  | .attackResult result => client.onAttackResult result
  | .expUpdate exp => client.onExpUpdate exp
  | .levelUp lvup => client.onLevelUp lvup
  | .attendanceInfo info => client.onAttendanceInfo info
  | .attendanceResult result => client.onAttendanceResult result
  | .itemDrop drop => client.onItemDrop drop
  | .equipResult result => client.onEquipResult result
  | .inventoryUpdate upd => client.onInventoryUpdate upd
  | .inventoryList list => client.onInventoryList list
  | .shopResult result => client.onShopResult result
  | .questList list => client.onQuestListResult list
  | .questAcceptResult result => client.onQuestAcceptResult result
  | .questProgress prog => client.onQuestProgressUpdate prog
  | .questReward reward => client.onQuestRewardResult reward
  | .partyInvite invite => client.onPartyInviteRecv invite
  | .partyUpdate upd => client.onPartyUpdateRecv upd
  | .partyLeave leave => client.onPartyLeaveRecv leave
  | _ => client

def answer (accept : UInt8) : Client × Option Request :=
  if client.gameState = .inGame ∧ client.pendingInvite = true then
    ({ client with pendingInvite := false }, some (.partyAccept ⟨accept⟩))
  else (client, none)

def press : Key → Client × Option Request
  | .party name =>
      if client.gameState ≠ .inGame then (client, none)
      else if 0 < client.partyCount then ({ client with partyCount := 0 }, some .partyLeave)
      else (client, some (.partyInvite ⟨strncpyS name 19⟩))
  | .yes => client.answer 1
  | .no => client.answer 0
  | .other request _ => (client, some request)

end Client

end MmorpgSimulator
