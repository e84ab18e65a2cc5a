import MmorpgSimulator.ServerState

set_option autoImplicit false

namespace MmorpgSimulator

namespace DbConnection

def maxRetries : Nat := 5

-- The diagnostic records that CheckFailoverState tells apart: SQLSTATE 08S02,
-- 08S01, HY000 with native error 1836, and any other or none at all.
inductive Diagnosis where
  | failover
  | connectionLost
  | readOnly
  | other
deriving DecidableEq, Repr

inductive Report where
  | success
  | error (diagnosis : Diagnosis)
deriving DecidableEq, Repr

-- Only a procedure that was carried out is reported as a success; the error that
-- follows one that was carried out may be any.
structure Attempt where
  executes : Bool
  report : Report
  honest : report = .success → executes = true

structure Redial where
  allocates : Bool
  connects : Bool
  prepares : Bool
deriving DecidableEq, Repr

def Redial.succeeds (redial : Redial) : Bool := redial.allocates && redial.connects && redial.prepares

structure Round where
  attempt : Attempt
  redials : Vector Redial maxRetries

abbrev Pattern := Nat → Round

structure Connection where
  connected : Bool
  stmt : Bool
deriving DecidableEq, Repr

def reconnect (conn : Connection) (redial : Redial) : Connection × Bool :=
  if redial.succeeds then (⟨true, true⟩, true) else ({ conn with stmt := false }, false)

def reconnectLoop : List Redial → Connection → Connection × Bool
  | [], conn => (conn, false)
  | redial :: rest, conn =>
      let tried := reconnect conn redial
      if tried.2 then tried else reconnectLoop rest tried.1

-- SetInitialSessionState after 08S02 sets the time zone of the session and
-- touches no table.
def checkFailoverState (conn : Connection) (diagnosis : Diagnosis) (redials : Vector Redial maxRetries) : Connection × Bool :=
  match diagnosis with
  | .failover => (conn, true)
  | .connectionLost => reconnectLoop redials.toList { conn with connected := false }
  | .readOnly => (conn, true)
  | .other => (conn, false)

variable {Db Row : Type}

structure Progress (Db Row : Type) where
  conn : Connection
  db : Db
  applied : Nat := 0
  seen : List Row := []

variable (proc : Db → Db × Row) (processResult : Option (Row → Bool)) (pattern : Pattern)

def carryOut (attempt : Attempt) (state : Progress Db Row) : Progress Db Row :=
  if attempt.executes then { state with db := (proc state.db).1, applied := state.applied + 1 } else state

def processed (row : Row) (state : Progress Db Row) : Progress Db Row × Int :=
  match processResult with
  | none => (state, 0)
  | some process => ({ state with seen := state.seen ++ [row] }, if process row then 0 else -1)

-- The while loop of ExecuteProc, with the turns left until retries reaches MAX_RETRIES.
def retryLoop : Nat → Nat → Progress Db Row → Progress Db Row × Int
  | 0, _, state => (state, -1)
  | left + 1, retries, state =>
      let round := pattern retries
      let done := carryOut proc round.attempt state
      match round.attempt.report with
      | .success => processed processResult (proc state.db).2 done
      | .error diagnosis =>
          let checked := checkFailoverState done.conn diagnosis round.redials
          if checked.2 then retryLoop left (retries + 1) { done with conn := checked.1 }
          else ({ done with conn := checked.1 }, -1)

def executeProc (conn : Connection) (db : Db) : Progress Db Row × Int :=
  if conn.connected && conn.stmt then retryLoop proc processResult pattern maxRetries 0 { conn, db }
  else ({ conn, db }, -1)

section Retrying

def Round.retried (round : Round) : Bool :=
  match round.attempt.report with
  | .success => false
  | .error .failover => true
  | .error .connectionLost => round.redials.toList.any Redial.succeeds
  | .error .readOnly => true
  | .error .other => false

theorem reconnect_loop_answer (redials : List Redial) (conn : Connection) :
    (reconnectLoop redials conn).2 = redials.any Redial.succeeds := by
  induction redials generalizing conn with
  | nil => rfl
  | cons redial rest ih =>
      cases success : redial.succeeds with
      | true => simp [reconnectLoop, reconnect, success]
      | false => simpa [reconnectLoop, reconnect, success] using ih { conn with stmt := false }

theorem check_failover_answer (round : Round) (conn : Connection) (diagnosis : Diagnosis)
    (reported : round.attempt.report = .error diagnosis) : (checkFailoverState conn diagnosis round.redials).2 = round.retried := by
  rw [Round.retried, reported]
  cases diagnosis with
  | failover => rfl
  | connectionLost => exact reconnect_loop_answer _ _
  | readOnly => rfl
  | other => rfl

@[simp] theorem carry_out_applied (attempt : Attempt) (state : Progress Db Row) :
    (carryOut proc attempt state).applied = state.applied + attempt.executes.toNat := by
  cases runs : attempt.executes <;> simp [carryOut, runs]

@[simp] theorem carry_out_seen (attempt : Attempt) (state : Progress Db Row) : (carryOut proc attempt state).seen = state.seen := by
  cases runs : attempt.executes <;> simp [carryOut, runs]

@[simp] theorem processed_applied (row : Row) (state : Progress Db Row) :
    (processed processResult row state).1.applied = state.applied := by
  cases processResult <;> rfl

theorem retry_loop_success (left retries : Nat) (state : Progress Db Row) (reported : (pattern retries).attempt.report = .success) :
    retryLoop proc processResult pattern (left + 1) retries state =
      processed processResult (proc state.db).2 (carryOut proc (pattern retries).attempt state) := by
  simp only [retryLoop, reported]

theorem retry_loop_error (left retries : Nat) (state : Progress Db Row) (diagnosis : Diagnosis)
    (reported : (pattern retries).attempt.report = .error diagnosis) :
    ∃ conn, retryLoop proc processResult pattern (left + 1) retries state =
      if (pattern retries).retried then
        retryLoop proc processResult pattern left (retries + 1) { carryOut proc (pattern retries).attempt state with conn }
      else ({ carryOut proc (pattern retries).attempt state with conn }, -1) := by
  refine ⟨(checkFailoverState (carryOut proc (pattern retries).attempt state).conn diagnosis (pattern retries).redials).1, ?_⟩
  simp only [retryLoop, reported, check_failover_answer (pattern retries) _ diagnosis reported]

end Retrying

section Counting

-- From this turn on, every turn that is reached leaves the database alone.
def Quiet (turn stop : Nat) : Prop :=
  ∀ later, turn ≤ later → later < stop → (∀ between, turn ≤ between → between < later → (pattern between).retried = true) →
    (pattern later).attempt.executes = false

-- Of the turns reached, none that carries the procedure out follows another.
def Single (turn stop : Nat) : Prop :=
  ∀ first second, turn ≤ first → first < second → second < stop →
    (∀ between, turn ≤ between → between < second → (pattern between).retried = true) →
      (pattern first).attempt.executes = true → (pattern second).attempt.executes = false

theorem reached_succ (turn later : Nat) (here : (pattern turn).retried = true)
    (rest : ∀ between, turn + 1 ≤ between → between < later → (pattern between).retried = true) (between : Nat) (above : turn ≤ between)
    (below : between < later) : (pattern between).retried = true := by
  by_cases same : between = turn
  · rw [same, here]
  · exact rest between (by omega) below

theorem quiet_empty (turn : Nat) : Quiet pattern turn turn := fun _ above below => absurd below (Nat.not_lt.mpr above)

theorem single_empty (turn : Nat) : Single pattern turn turn :=
  fun _ _ above order below => absurd (above.trans_lt order) (Nat.not_lt.mpr below.le)

theorem quiet_step (turn stop : Nat) (inside : turn < stop) :
    Quiet pattern turn stop ↔
      (pattern turn).attempt.executes = false ∧ ((pattern turn).retried = true → Quiet pattern (turn + 1) stop) := by
  constructor
  · intro quiet
    refine ⟨quiet turn (le_refl _) inside (fun between above below => absurd below (Nat.not_lt.mpr above)), ?_⟩
    intro retried later above below rest
    exact quiet later (by omega) below (reached_succ pattern turn later retried rest)
  · rintro ⟨first, rest⟩ later above below reached
    by_cases same : later = turn
    · rw [same, first]
    · have retried : (pattern turn).retried = true := reached turn (le_refl _) (by omega)
      exact rest retried later (by omega) below (fun between above => reached between (by omega))

theorem single_step (turn stop : Nat) (inside : turn < stop) :
    Single pattern turn stop ↔ ((pattern turn).retried = true →
      Single pattern (turn + 1) stop ∧ ((pattern turn).attempt.executes = true → Quiet pattern (turn + 1) stop)) := by
  constructor
  · intro single retried
    constructor
    · intro first second above order below rest
      exact single first second (by omega) order below (reached_succ pattern turn second retried rest)
    · intro runs later above below rest
      exact single turn later (le_refl _) (by omega) below (reached_succ pattern turn later retried rest) runs
  · intro split first second above order below reached runs
    obtain ⟨single, quiet⟩ := split (reached turn (le_refl _) (by omega))
    by_cases same : first = turn
    · subst same
      exact quiet runs second (by omega) below (fun between above => reached between (by omega))
    · exact single first second (by omega) order below (fun between above => reached between (by omega)) runs

variable (left turn : Nat) (state : Progress Db Row)

theorem retry_loop_grows : state.applied ≤ (retryLoop proc processResult pattern left turn state).1.applied := by
  induction left generalizing turn state with
  | zero => exact le_refl _
  | succ left ih =>
      cases reported : (pattern turn).attempt.report with
      | success =>
          rw [retry_loop_success proc processResult pattern left turn state reported, processed_applied, carry_out_applied]
          exact Nat.le_add_right _ _
      | error diagnosis =>
          obtain ⟨conn, turned⟩ := retry_loop_error proc processResult pattern left turn state diagnosis reported
          rw [turned]
          split
          · refine le_trans ?_ (ih (turn + 1) _)
            simp
          · simp

theorem retry_loop_quiet :
    (retryLoop proc processResult pattern left turn state).1.applied = state.applied ↔ Quiet pattern turn (turn + left) := by
  induction left generalizing turn state with
  | zero => exact iff_of_true rfl (quiet_empty pattern turn)
  | succ left ih =>
      rw [quiet_step pattern turn (turn + (left + 1)) (by omega), show turn + (left + 1) = turn + 1 + left by omega]
      cases reported : (pattern turn).attempt.report with
      | success =>
          have runs := (pattern turn).attempt.honest reported
          rw [retry_loop_success proc processResult pattern left turn state reported, processed_applied, carry_out_applied, runs]
          simp
      | error diagnosis =>
          obtain ⟨conn, turned⟩ := retry_loop_error proc processResult pattern left turn state diagnosis reported
          rw [turned]
          have later := ih (turn + 1) { carryOut proc (pattern turn).attempt state with conn }
          have grows := retry_loop_grows proc processResult pattern left (turn + 1) { carryOut proc (pattern turn).attempt state with conn }
          rw [← later]
          cases runs : (pattern turn).attempt.executes <;> cases retried : (pattern turn).retried <;>
            simp [runs, carry_out_applied] at grows ⊢
          omega

theorem retry_loop_once :
    (retryLoop proc processResult pattern left turn state).1.applied ≤ state.applied + 1 ↔ Single pattern turn (turn + left) := by
  induction left generalizing turn state with
  | zero => exact iff_of_true (Nat.le_succ _) (single_empty pattern turn)
  | succ left ih =>
      rw [single_step pattern turn (turn + (left + 1)) (by omega), show turn + (left + 1) = turn + 1 + left by omega]
      cases reported : (pattern turn).attempt.report with
      | success =>
          have ends : (pattern turn).retried = false := by rw [Round.retried, reported]
          have runs := (pattern turn).attempt.honest reported
          rw [retry_loop_success proc processResult pattern left turn state reported, processed_applied, carry_out_applied, runs, ends]
          simp
      | error diagnosis =>
          obtain ⟨conn, turned⟩ := retry_loop_error proc processResult pattern left turn state diagnosis reported
          rw [turned]
          have once := ih (turn + 1) { carryOut proc (pattern turn).attempt state with conn }
          have quiet := retry_loop_quiet proc processResult pattern left (turn + 1) { carryOut proc (pattern turn).attempt state with conn }
          have grows := retry_loop_grows proc processResult pattern left (turn + 1) { carryOut proc (pattern turn).attempt state with conn }
          rw [← once, ← quiet]
          cases runs : (pattern turn).attempt.executes <;> cases retried : (pattern turn).retried <;>
            simp [runs, carry_out_applied] at grows ⊢
          omega

end Counting

section Results

def ran (count : Nat) (db : Db) : Db := (fun db => (proc db).1)^[count] db

def progressed (conn : Connection) (count : Nat) (state : Progress Db Row) : Progress Db Row :=
  { conn, db := ran proc count state.db, applied := state.applied + count, seen := state.seen }

theorem progressed_zero (state : Progress Db Row) (conn : Connection) : progressed proc conn 0 state = { state with conn } := rfl

theorem carry_out_progressed (attempt : Attempt) (state : Progress Db Row) (conn next : Connection) (count : Nat) :
    progressed proc next count { carryOut proc attempt state with conn } =
      progressed proc next (attempt.executes.toNat + count) state := by
  cases runs : attempt.executes with
  | true =>
      simp only [carryOut, runs, if_true, progressed, ran, Bool.toNat_true, Nat.add_comm 1 count, Function.iterate_succ_apply]
      congr 1
      omega
  | false => simp [carryOut, runs, progressed]

theorem retry_loop_ends (left turn : Nat) (state : Progress Db Row) :
    ∃ count conn, retryLoop proc processResult pattern left turn state = (progressed proc conn count state, -1) ∨
      ∃ before, count = before + 1 ∧ retryLoop proc processResult pattern left turn state =
        processed processResult (proc (ran proc before state.db)).2 (progressed proc conn count state) := by
  induction left generalizing turn state with
  | zero => exact ⟨0, state.conn, .inl rfl⟩
  | succ left ih =>
      cases reported : (pattern turn).attempt.report with
      | success =>
          refine ⟨1, state.conn, .inr ⟨0, rfl, ?_⟩⟩
          rw [retry_loop_success proc processResult pattern left turn state reported, carryOut,
            (pattern turn).attempt.honest reported]
          rfl
      | error diagnosis =>
          obtain ⟨conn, turned⟩ := retry_loop_error proc processResult pattern left turn state diagnosis reported
          rw [turned]
          cases retried : (pattern turn).retried with
          | false =>
              refine ⟨(pattern turn).attempt.executes.toNat, conn, .inl ?_⟩
              have ends := carry_out_progressed proc (pattern turn).attempt state conn conn 0
              rw [progressed_zero, add_zero] at ends
              exact congrArg (fun state => (state, -1)) ends
          | true =>
              rw [if_pos rfl]
              obtain ⟨count, next, failed | ⟨before, rfl, handed⟩⟩ := ih (turn + 1) { carryOut proc (pattern turn).attempt state with conn }
              · exact ⟨_, next, .inl (by rw [failed, carry_out_progressed])⟩
              · refine ⟨_, next, .inr ⟨(pattern turn).attempt.executes.toNat + before, (add_assoc _ _ _).symm, ?_⟩⟩
                have db := congrArg Progress.db (carry_out_progressed proc (pattern turn).attempt state conn conn before)
                rw [handed, carry_out_progressed]
                exact congrArg (fun db => processed processResult (proc db).2 _) db

structure AtMostOnce (call : Progress Db Row × Int) : Prop where
  applies : call.1.applied ≤ 1
  counts : call.2 = 0 → call.1.applied = 1
  processes : call.1.seen.length ≤ 1

theorem processed_seen (row : Row) (state : Progress Db Row) :
    (processed processResult row state).1.seen.length ≤ state.seen.length + 1 := by
  cases processResult with
  | none => exact Nat.le_succ _
  | some process => simp [processed]

theorem executes_once_iff (conn : Connection) (db : Db) :
    AtMostOnce (executeProc proc processResult pattern conn db) ↔
      (conn.connected && conn.stmt) = true → Single pattern 0 maxRetries := by
  rw [executeProc]
  cases open_ : conn.connected && conn.stmt with
  | false => exact iff_of_true ⟨Nat.zero_le _, fun ok => absurd (show (-1 : Int) = 0 from ok) (by decide), Nat.zero_le _⟩ nofun
  | true =>
      have once := retry_loop_once proc processResult pattern maxRetries 0 { conn, db }
      rw [Nat.zero_add, Nat.zero_add] at once
      rw [if_pos rfl, forall_prop_of_true rfl, ← once]
      constructor
      · exact AtMostOnce.applies
      · intro applies
        refine ⟨applies, fun ok => le_antisymm applies ?_, ?_⟩
        · obtain ⟨count, next, failed | ⟨before, rfl, handed⟩⟩ := retry_loop_ends proc processResult pattern maxRetries 0 { conn, db }
          · rw [failed] at ok
            exact absurd ok (by decide : ¬ (-1 : Int) = 0)
          · rw [handed, processed_applied]
            exact Nat.le_add_left 1 _
        · obtain ⟨count, next, failed | ⟨before, rfl, handed⟩⟩ := retry_loop_ends proc processResult pattern maxRetries 0 { conn, db }
          · rw [failed]
            exact Nat.zero_le _
          · rw [handed]
            exact processed_seen processResult _ _

end Results

section CommitThenLoss

-- The procedure runs, the connection is lost before the reply, Reconnect succeeds
-- and the procedure runs again.
def commitThenLoss : Pattern := fun turn =>
  { attempt := { executes := true, report := if turn = 0 then .error .connectionLost else .success, honest := fun _ => rfl }
    redials := Vector.replicate maxRetries ⟨true, true, true⟩ }

theorem commit_then_loss_applies_twice :
    ¬ AtMostOnce (executeProc (fun db : Database => db.spInventoryAdd 1 7) none commitThenLoss ⟨true, true⟩
      { accounts := [], characters := .empty, inventory := .empty, equipment := fun _ _ => none, questProgress := fun _ => ∅,
        attendance := [], today := 0, defaultLevel := 1, defaultExp := 0 }) := by
  intro once
  exact absurd once.applies (by decide)

end CommitThenLoss

-- Where no turn repeats the procedure, the call ends as one of the outcomes that
-- the server's model foresees for a stored procedure.
section Outcomes

variable (conn : Connection) (s : ServerState) (stored : Database → Database × Row)

def captured : Option (Row → Bool) := some (fun _ => true)

structure EndsAs (call : Progress Database Row × Int) (outcome : DbOutcome) : Prop where
  db : call.1.db = ({ s with dbPlan := outcome :: s.dbPlan }).procDb (fun db => some (stored db))
  success : call.2 = 0 ↔ (({ s with dbPlan := outcome :: s.dbPlan }).procReply (fun db => some (stored db))).success = true
  row : call.1.seen.head? = (({ s with dbPlan := outcome :: s.dbPlan }).procReply (fun db => some (stored db))).row

theorem failed_outcome (progress : Progress Database Row) (same : progress.db = s.db) (unseen : progress.seen = []) :
    EndsAs s stored (progress, -1) .failed where
  db := same
  success := iff_of_false (show ¬ (-1 : Int) = 0 by decide) (show ¬ false = true by decide)
  row := congrArg List.head? unseen

theorem lost_outcome (progress : Progress Database Row) (same : progress.db = (stored s.db).1) (unseen : progress.seen = []) :
    EndsAs s stored (progress, -1) .lost where
  db := same
  success := iff_of_false (show ¬ (-1 : Int) = 0 by decide) (show ¬ false = true by decide)
  row := congrArg List.head? unseen

theorem execute_proc_outcome (once : (conn.connected && conn.stmt) = true → Single pattern 0 maxRetries) :
    ∃ outcome, EndsAs s stored (executeProc stored captured pattern conn s.db) outcome := by
  have applies := ((executes_once_iff stored captured pattern conn s.db).mpr once).applies
  rw [executeProc] at applies ⊢
  cases open_ : conn.connected && conn.stmt with
  | false => exact ⟨.failed, failed_outcome s stored { conn, db := s.db } rfl rfl⟩
  | true =>
      rw [open_, if_pos rfl] at applies
      rw [if_pos rfl]
      obtain ⟨count, next, failed | ⟨before, rfl, handed⟩⟩ := retry_loop_ends stored captured pattern maxRetries 0 { conn, db := s.db }
      · rw [failed] at applies ⊢
        have few : count ≤ 1 := by simpa [progressed] using applies
        cases count with
        | zero => exact ⟨.failed, failed_outcome s stored _ rfl rfl⟩
        | succ count =>
            obtain rfl : count = 0 := Nat.le_zero.mp (Nat.le_of_succ_le_succ few)
            exact ⟨.lost, lost_outcome s stored _ rfl rfl⟩
      · rw [handed, processed_applied] at applies
        obtain rfl : before = 0 := by simpa [progressed] using applies
        rw [handed]
        exact ⟨.ok, rfl, iff_of_true rfl rfl, rfl⟩

end Outcomes

end DbConnection

end MmorpgSimulator
