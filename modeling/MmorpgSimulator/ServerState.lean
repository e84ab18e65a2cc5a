import MmorpgSimulator.Database
import MmorpgSimulator.Library.Run

set_option autoImplicit false

namespace MmorpgSimulator

structure Session where
  player : PlayerData := {}
  connected : Bool := true
deriving DecidableEq, Repr

-- How one ExecuteProc call ends: carried out and reported, not carried out,
-- carried out but reported as an error, or reported without a row to fetch.
inductive DbOutcome where
  | ok
  | failed
  | lost
  | noRow
deriving DecidableEq, Repr

structure Reply (Row : Type) where
  success : Bool
  row : Option Row

-- Ways the C++ process dies inside a handler.
inductive Fault where
  | divideByZero
  | moduloByZero
  | invalidParameter
deriving DecidableEq, Repr

structure PartyState where
  nextPartyId : UInt32 := 1
  parties : Std.ExtTreeMap UInt32 Party := ∅
  playerParty : Std.ExtTreeMap SessionId UInt32 := ∅
  pendingInvites : Std.ExtTreeMap SessionId SessionId := ∅

-- The globals of main.cpp and SessionManager. The queued results of rand() and
-- of the database calls are the environment's choices; `sent` is what Session::Send
-- has put on the wire, in order.
structure ServerState where
  sessions : Std.ExtTreeMap SessionId Session := ∅
  nextSessionId : SessionId := 1
  npcs : Vector Npc maxNpc
  nextNpcUid : NpcUid
  questProgress : Std.ExtTreeMap SessionId QuestLog := ∅
  party : PartyState := {}
  inventories : Std.ExtTreeMap SessionId Inventory := ∅
  db : Database
  rolls : List Nat := []
  dbPlan : List DbOutcome := []
  sent : List (SessionId × Message) := []
  fault : Option Fault := none

namespace ServerState

def player (s : ServerState) (sid : SessionId) : PlayerData := ((s.sessions[sid]?).map Session.player).getD {}

def setPlayer (s : ServerState) (sid : SessionId) (player : PlayerData) : ServerState :=
  { s with sessions := s.sessions.modify sid (fun session => { session with player }) }

def inventory (s : ServerState) (sid : SessionId) : Inventory := (s.inventories[sid]?).getD {}

def setInventory (s : ServerState) (sid : SessionId) (inv : Inventory) : ServerState :=
  { s with inventories := s.inventories.insert sid inv }

def questLog (s : ServerState) (sid : SessionId) : QuestLog := (s.questProgress[sid]?).getD ∅

def setQuestLog (s : ServerState) (sid : SessionId) (qp : QuestLog) : ServerState :=
  { s with questProgress := s.questProgress.insert sid qp }

-- operator[] of std::map: a missing entry is created before it is read.
def touchInventory (s : ServerState) (sid : SessionId) : ServerState :=
  { s with inventories := s.inventories.insertIfNew sid {} }

def touchQuestLog (s : ServerState) (sid : SessionId) : ServerState :=
  { s with questProgress := s.questProgress.insertIfNew sid ∅ }

def touchParty (s : ServerState) (partyId : UInt32) : ServerState :=
  { s with party := { s.party with parties := s.party.parties.insertIfNew partyId {} } }

def setParty (s : ServerState) (party : PartyState) : ServerState := { s with party }

def deliver (s : ServerState) (sid : SessionId) (message : Message) : List (SessionId × Message) :=
  if (s.sessions[sid]?).any Session.connected then [(sid, message)] else []

def send (s : ServerState) (sid : SessionId) (message : Message) : ServerState :=
  { s with sent := s.sent ++ s.deliver sid message }

def sendAll (s : ServerState) (sid : SessionId) (messages : List Message) : ServerState :=
  { s with sent := s.sent ++ messages.flatMap (s.deliver sid) }

def inGame (s : ServerState) : List SessionId :=
  (s.sessions.toList.filter (fun entry => entry.2.player.loggedIn)).map Prod.fst

def broadcast (s : ServerState) (message : Message) : ServerState :=
  { s with sent := s.sent ++ s.inGame.flatMap (fun sid => s.deliver sid message) }

def broadcastExcept (s : ServerState) (exceptId : SessionId) (message : Message) : ServerState :=
  { s with sent := s.sent ++ (s.inGame.filter (fun sid => sid ≠ exceptId)).flatMap (fun sid => s.deliver sid message) }

def fail (s : ServerState) (happens : Bool) (reason : Fault) : ServerState :=
  { s with fault := s.fault <|> (if happens then some reason else none) }

def rand (s : ServerState) : Nat := s.rolls.headD 0

def rolled (s : ServerState) : ServerState := { s with rolls := s.rolls.tail }

section ExecuteProc

variable {Row : Type}

def outcome (s : ServerState) : DbOutcome := s.dbPlan.headD .ok

def procReply (s : ServerState) (proc : Database → Option (Database × Row)) : Reply Row :=
  match proc s.db, s.outcome with
  | some (_, row), .ok => ⟨true, some row⟩
  | some _, .noRow => ⟨true, none⟩
  | _, _ => ⟨false, none⟩

def procDb (s : ServerState) (proc : Database → Option (Database × Row)) : Database :=
  match proc s.db, s.outcome with
  | some (db, _), .ok => db
  | some (db, _), .noRow => db
  | some (db, _), .lost => db
  | _, _ => s.db

-- A procedure that signals an SQL error is `none` here.
def executeProc (s : ServerState) (proc : Database → Option (Database × Row)) : ServerState × Reply Row :=
  ({ s with db := s.procDb proc, dbPlan := s.dbPlan.tail }, s.procReply proc)

end ExecuteProc

end ServerState

end MmorpgSimulator
