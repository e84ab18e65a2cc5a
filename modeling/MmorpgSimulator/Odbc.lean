import MmorpgSimulator.DbConnection

set_option autoImplicit false

namespace MmorpgSimulator

namespace Odbc

open DbConnection

abbrev Handle := Nat

inductive HandleKind where
  | env
  | dbc
  | stmt
deriving DecidableEq, Repr

structure Node where
  kind : HandleKind
  parent : Option Handle
deriving DecidableEq, Repr

inductive Routine where
  | allocHandle
  | freeHandle
  | setEnvAttr
  | setStmtAttr
  | driverConnect
  | disconnect
  | getDiagRec
  | bindParameter
  | execDirect
  | fetch
  | closeCursor
  | freeStmt
deriving DecidableEq, Repr

-- What a handle is when it is passed to a routine.
inductive Passed where
  | null
  | live
  | freed
deriving DecidableEq, Repr

structure ApiCall where
  routine : Routine
  passed : Passed
deriving DecidableEq, Repr

-- The members of DBConnection, and the driver: its live handles, which of its
-- connections have the time zone of their server session set, the calls it was
-- given, and for each procedure carried out whether the time zone was set.
structure Link where
  hEnv : Option Handle := none
  hDbc : Option Handle := none
  hStmt : Option Handle := none
  connected : Bool := false
  nodes : Handle → Option Node := fun _ => none
  next : Handle := 1
  zoned : Handle → Bool := fun _ => false
  calls : List ApiCall := []
  ran : List Bool := []

namespace Link

variable (link : Link)

def passing : Option Handle → Passed
  | none => .null
  | some handle => if (link.nodes handle).isSome then .live else .freed

def call (routine : Routine) (handle : Option Handle) : Link := { link with calls := link.calls ++ [⟨routine, link.passing handle⟩] }

@[simp] theorem call_hEnv (routine : Routine) (handle : Option Handle) : (link.call routine handle).hEnv = link.hEnv := rfl

@[simp] theorem call_hDbc (routine : Routine) (handle : Option Handle) : (link.call routine handle).hDbc = link.hDbc := rfl

@[simp] theorem call_hStmt (routine : Routine) (handle : Option Handle) : (link.call routine handle).hStmt = link.hStmt := rfl

@[simp] theorem call_connected (routine : Routine) (handle : Option Handle) : (link.call routine handle).connected = link.connected := rfl

-- A failed SQLAllocHandle sets its output to null.
def alloc (kind : HandleKind) (parent : Option Handle) (succeeds : Bool) : Link × Option Handle :=
  let link := link.call .allocHandle parent
  if succeeds then
    ({ link with nodes := Function.update link.nodes link.next (some ⟨kind, parent⟩), next := link.next + 1 }, some link.next)
  else (link, none)

def free (handle : Option Handle) : Link :=
  let link := link.call .freeHandle handle
  match handle with
  | none => link
  | some handle => { link with nodes := Function.update link.nodes handle none }

-- SQLDisconnect frees the statements of the connection.
def hangUp (handle : Option Handle) : Link :=
  let link := link.call .disconnect handle
  { link with nodes := fun other => (link.nodes other).filter (fun node => ¬ (node.kind = .stmt ∧ node.parent = handle ∧ handle ≠ none)) }

-- The connection whose server session a statement runs in.
def session : Option Handle := (link.hStmt.bind link.nodes).bind Node.parent

def zone : Bool := link.session.any link.zoned

-- The driver connects, or fails over, to a server session with the default time zone.
def freshSession (handle : Option Handle) : Link :=
  match handle with
  | none => link
  | some handle => { link with zoned := Function.update link.zoned handle false }

def setZone : Link :=
  match link.session with
  | none => link
  | some session => { link with zoned := Function.update link.zoned session true }

end Link

structure Dial where
  environment : Bool
  redial : Redial
deriving DecidableEq, Repr

def Dial.succeeds (dial : Dial) : Bool := dial.environment && dial.redial.succeeds

-- From SQLDriverConnectA on, Connect and Reconnect differ in what they diagnose.
def prepare (diagnose : Link → Link) (prepares : Bool) (link : Link) : Link × Bool :=
  let stmt := link.alloc .stmt link.hDbc prepares
  let link := { stmt.1 with hStmt := stmt.2 }
  if prepares then
    let link := link.call .setStmtAttr link.hStmt
    ({ link with connected := true }, true)
  else
    let link := ((diagnose link).hangUp link.hDbc).free link.hDbc
    ({ link with hDbc := none }, false)

def establish (diagnose : Link → Link) (redial : Redial) (link : Link) : Link × Bool :=
  let link := link.call .driverConnect link.hDbc
  if redial.connects then prepare diagnose redial.prepares (link.freshSession link.hDbc)
  else
    let link := (link.call .getDiagRec link.hDbc).free link.hDbc
    ({ link with hDbc := none }, false)

def connect (dial : Dial) (link : Link) : Link × Bool :=
  let env := link.alloc .env none dial.environment
  let link := { env.1 with hEnv := env.2 }
  if dial.environment then
    let link := link.call .setEnvAttr link.hEnv
    let dbc := link.alloc .dbc link.hEnv dial.redial.allocates
    let link := { dbc.1 with hDbc := dbc.2 }
    if dial.redial.allocates then establish (fun link => link.call .getDiagRec link.hDbc) dial.redial link
    else (link.call .getDiagRec link.hEnv, false)
  else (link, false)

def dropStmt (link : Link) : Link := if link.hStmt.isSome then { link.free link.hStmt with hStmt := none } else link

def dropDbc (link : Link) : Link := if link.hDbc.isSome then { (link.hangUp link.hDbc).free link.hDbc with hDbc := none } else link

def dropEnv (link : Link) : Link := if link.hEnv.isSome then { link.free link.hEnv with hEnv := none } else link

def disconnect (link : Link) : Link := { dropEnv (dropDbc (dropStmt link)) with connected := false }

def reconnect (redial : Redial) (link : Link) : Link × Bool :=
  let link := dropDbc (dropStmt link)
  let dbc := link.alloc .dbc link.hEnv redial.allocates
  let link := { dbc.1 with hDbc := dbc.2 }
  if redial.allocates then establish id redial link else (link, false)

def reconnectLoop : List Redial → Link → Link × Bool
  | [], link => (link, false)
  | redial :: rest, link =>
      let tried := reconnect redial link
      if tried.2 then tried else reconnectLoop rest tried.1

-- One turn of the loop in ExecuteProc, and whether the SET of the time zone is
-- carried out should it fail over.
structure Episode where
  round : Round
  zoneSet : Bool

def setInitialSessionState (zoneSet : Bool) (link : Link) : Link :=
  if link.hStmt.isSome then
    let link := link.call .execDirect link.hStmt
    if zoneSet then link.setZone else link
  else link

def checkFailoverState (diagnosis : Diagnosis) (episode : Episode) (link : Link) : Link × Bool :=
  let link := link.call .getDiagRec link.hStmt
  match diagnosis with
  | .failover => (setInitialSessionState episode.zoneSet (link.freshSession link.session), true)
  | .connectionLost => reconnectLoop episode.round.redials.toList { link with connected := false }
  | .readOnly => (link, true)
  | .other => (link, false)

structure Procedure where
  binds : Bool
  processes : Option Bool
deriving DecidableEq, Repr

def closeStatement (link : Link) : Link := (link.call .closeCursor link.hStmt).call .freeStmt link.hStmt

def issue (procedure : Procedure) (attempt : Attempt) (link : Link) : Link :=
  let link := if procedure.binds then link.call .bindParameter link.hStmt else link
  let link := link.call .execDirect link.hStmt
  if attempt.executes then { link with ran := link.ran ++ [link.zone] } else link

def retryLoop (procedure : Procedure) (pattern : Nat → Episode) : Nat → Nat → Link → Link × Int
  | 0, _, link => (link, -1)
  | left + 1, retries, link =>
      let episode := pattern retries
      let link := issue procedure episode.round.attempt link
      match episode.round.attempt.report with
      | .success =>
          let link := if procedure.processes.isSome then link.call .fetch link.hStmt else link
          (closeStatement link, if procedure.processes.getD true then 0 else -1)
      | .error diagnosis =>
          let checked := checkFailoverState diagnosis episode (link.call .getDiagRec link.hStmt)
          if checked.2 then retryLoop procedure pattern left (retries + 1) checked.1 else (closeStatement checked.1, -1)

def executeProc (procedure : Procedure) (pattern : Nat → Episode) (link : Link) : Link × Int :=
  if link.connected && link.hStmt.isSome then retryLoop procedure pattern maxRetries 0 link else (link, -1)

inductive Request where
  | connect (dial : Dial)
  | disconnect
  | executeProc (procedure : Procedure) (pattern : Nat → Episode)

def step (link : Link) : Request → Link
  | .connect dial => (connect dial link).1
  | .disconnect => disconnect link
  | .executeProc procedure pattern => (executeProc procedure pattern link).1

end Odbc

end MmorpgSimulator
