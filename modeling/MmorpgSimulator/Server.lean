import MmorpgSimulator.Characters
import MmorpgSimulator.Combat

set_option autoImplicit false

namespace MmorpgSimulator

def handle (data : GameData) (s : ServerState) (sid : SessionId) : Request → ServerState
  | .login req => onLogin data s sid req
  | .charList => onCharList s sid
  | .charCreate req => onCharCreate data s sid req
  | .charSelect req => onCharSelect data s sid req
  | .attendanceCheck => onAttendanceCheck s sid
  | .heartbeat => onHeartbeat s sid
  | .move req => onMove s sid req
  | .attack req => onAttack data s sid req
  | .chat req => onChat s sid req
  | .itemUse req => onItemUse data s sid req
  | .itemEquip req => onItemEquip data s sid req
  | .shopOpen => onShopOpen data s sid
  | .shopBuy req => onShopBuy data s sid req
  | .shopSell req => onShopSell data s sid req
  | .questList => onQuestList data s sid
  | .questAccept req => onQuestAccept data s sid req
  | .questComplete req => onQuestComplete data s sid req
  | .partyInvite req => onPartyInvite s sid req
  | .partyAccept req => onPartyAccept s sid req
  | .partyLeave => onPartyLeave s sid

-- PacketHandler::HandlePacket: types without a handler are dropped.
def handlePacket (data : GameData) (s : ServerState) (sid : SessionId) (code : UInt16) (payload : Bytes) : ServerState :=
  match (handlerFor code).bind (decodeRequest payload) with
  | none => s
  | some request => handle data s sid request

-- TcpServer::DoAccept. The 32-bit counter comes round to an id still in use only
-- after 2^32 connections; the model lets nobody in at that point.
def doAccept (s : ServerState) : ServerState :=
  if s.nextSessionId ∈ s.sessions then s
  else { s with sessions := s.sessions.insert s.nextSessionId {}, nextSessionId := s.nextSessionId + 1 }

def onPlayerDisconnect (s : ServerState) (sid : SessionId) : ServerState :=
  let s := removeFromParty s sid
  { s with
    party := s.party.withoutInvite sid
    inventories := s.inventories.erase sid
    questProgress := s.questProgress.erase sid }

-- Session marks itself unconnected before it calls TcpServer::OnDisconnect.
def setUnconnected (s : ServerState) (sid : SessionId) : ServerState :=
  { s with sessions := s.sessions.modify sid (fun session => { session with connected := false }) }

def onDisconnect (s : ServerState) (sid : SessionId) : ServerState :=
  let s := onPlayerDisconnect s sid
  let s :=
    match s.sessions[sid]? with
    | none => s
    | some session =>
        if session.player.loggedIn then s.broadcastExcept sid (.charLeave { charUid := session.player.accountUid }) else s
  { s with sessions := s.sessions.erase sid }

inductive Event where
  | accept
  | packet (sid : SessionId) (request : Request)
  | writeError (sid : SessionId)
  | disconnect (sid : SessionId)
deriving DecidableEq, Repr

-- One event with what the environment answers while it is handled: the results
-- of rand() and the outcomes of the database calls (none listed: all succeed).
structure Input where
  event : Event
  rolls : List Nat := []
  dbPlan : List DbOutcome := []
deriving DecidableEq, Repr

def handleEvent (data : GameData) (s : ServerState) : Event → ServerState
  | .accept => doAccept s
  | .packet sid request => if sid ∈ s.sessions then handle data s sid request else s
  | .writeError sid => setUnconnected s sid
  | .disconnect sid => if sid ∈ s.sessions then onDisconnect (setUnconnected s sid) sid else s

def step (data : GameData) (s : ServerState) (input : Input) : ServerState :=
  if s.fault.isSome then s
  else handleEvent data { s with rolls := input.rolls, dbPlan := input.dbPlan } input.event

section Dispatch

variable (data : GameData) (s : ServerState)

def facing (input : Input) : ServerState := { s with rolls := input.rolls, dbPlan := input.dbPlan }

theorem step_alive (input : Input) (alive : s.fault = none) :
    step data s input = handleEvent data (facing s input) input.event := by
  simp [step, facing, alive]

theorem step_dead (input : Input) (fault : Fault) (dead : s.fault = some fault) : step data s input = s := by
  simp [step, dead]

theorem handle_event_here (sid : SessionId) (request : Request) (here : sid ∈ s.sessions) :
    handleEvent data s (.packet sid request) = handle data s sid request :=
  if_pos here

theorem handle_event_absent (sid : SessionId) (request : Request) (absent : sid ∉ s.sessions) :
    handleEvent data s (.packet sid request) = s :=
  if_neg absent

theorem disconnect_here (sid : SessionId) (here : sid ∈ s.sessions) :
    handleEvent data s (.disconnect sid) = onDisconnect (setUnconnected s sid) sid :=
  if_pos here

theorem disconnect_absent (sid : SessionId) (absent : sid ∉ s.sessions) : handleEvent data s (.disconnect sid) = s :=
  if_neg absent

end Dispatch

def bootNpc (draw : Nat → Nat) (index : Fin maxNpc) : Npc :=
  { uid := UInt64.ofNat (index.val + 1), posX := Int16.ofNat (draw (2 * index.val) % mapSize),
    posY := Int16.ofNat (draw (2 * index.val + 1) % mapSize), hp := 30, maxHp := 30, alive := true }

def boot (db : Database) (draw : Nat → Nat) : ServerState :=
  { npcs := Vector.ofFn (bootNpc draw), nextNpcUid := UInt64.ofNat (maxNpc + 1), db }

end MmorpgSimulator
