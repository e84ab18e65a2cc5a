import MmorpgSimulator.HandleStates

set_option autoImplicit false

namespace MmorpgSimulator

namespace Odbc

open DbConnection

-- Whether the time zone is set after a turn of ExecuteProc: a failover brings a fresh
-- session, in which it is set if the SET is carried out; so does a Reconnect, in which
-- nobody sets it.
def zoneAfter (zone : Bool) (episode : Episode) : Bool :=
  match episode.round.attempt.report with
  | .error .failover => episode.zoneSet
  | .error .connectionLost => false
  | _ => zone

-- From a turn on, with so many left, the procedure is carried out only while the time
-- zone is set.
def inZone (pattern : Nat → Episode) : Nat → Nat → Bool → Prop
  | 0, _, _ => True
  | left + 1, turn, zone =>
      ((pattern turn).round.attempt.executes = true → zone = true) ∧
        ((pattern turn).round.retried = true → inZone pattern left (turn + 1) (zoneAfter zone (pattern turn)))

section Recording

variable (link : Link)

@[simp] theorem call_ran (routine : Routine) (handle : Option Handle) : (link.call routine handle).ran = link.ran := rfl

@[simp] theorem alloc_ran (kind : HandleKind) (parent : Option Handle) (succeeds : Bool) :
    (link.alloc kind parent succeeds).1.ran = link.ran := by
  cases succeeds <;> rfl

@[simp] theorem free_ran (handle : Option Handle) : (link.free handle).ran = link.ran := by
  cases handle <;> rfl

@[simp] theorem hang_up_ran (handle : Option Handle) : (link.hangUp handle).ran = link.ran := rfl

@[simp] theorem fresh_session_ran (handle : Option Handle) : (link.freshSession handle).ran = link.ran := by
  cases handle <;> rfl

@[simp] theorem set_zone_ran : link.setZone.ran = link.ran := by
  rw [Link.setZone]
  split <;> rfl

@[simp] theorem drop_stmt_ran : (dropStmt link).ran = link.ran := by
  rw [dropStmt]
  split
  · exact free_ran link link.hStmt
  · rfl

@[simp] theorem drop_dbc_ran : (dropDbc link).ran = link.ran := by
  rw [dropDbc]
  split
  · exact free_ran (link.hangUp link.hDbc) link.hDbc
  · rfl

@[simp] theorem drop_env_ran : (dropEnv link).ran = link.ran := by
  rw [dropEnv]
  split
  · exact free_ran link link.hEnv
  · rfl

@[simp] theorem prepare_ran (diagnose : Link → Link) (quiet : ∀ link, (diagnose link).ran = link.ran) (prepares : Bool) :
    (prepare diagnose prepares link).1.ran = link.ran := by
  rw [prepare]
  cases prepares with
  | true => rfl
  | false => exact (free_ran _ _).trans (quiet _)

@[simp] theorem establish_ran (diagnose : Link → Link) (quiet : ∀ link, (diagnose link).ran = link.ran) (redial : Redial) :
    (establish diagnose redial link).1.ran = link.ran := by
  rw [establish]
  cases redial.connects with
  | true => exact (prepare_ran _ diagnose quiet redial.prepares).trans (fresh_session_ran _ _)
  | false => exact free_ran _ _

theorem connect_ran (dial : Dial) : (connect dial link).1.ran = link.ran := by
  rw [connect]
  cases dial.environment with
  | false => rfl
  | true =>
      cases dial.redial.allocates with
      | false => rfl
      | true => exact (establish_ran _ (fun link => link.call .getDiagRec link.hDbc) (fun _ => rfl) dial.redial).trans rfl

theorem disconnect_ran : (disconnect link).ran = link.ran := by
  rw [disconnect]
  simp

theorem reconnect_ran (redial : Redial) : (reconnect redial link).1.ran = link.ran := by
  have dropped : (dropDbc (dropStmt link)).ran = link.ran := by simp
  rw [reconnect]
  cases redial.allocates with
  | false => exact dropped
  | true => exact (establish_ran _ id (fun _ => rfl) redial).trans dropped

theorem reconnect_loop_ran (redials : List Redial) : (reconnectLoop redials link).1.ran = link.ran := by
  induction redials generalizing link with
  | nil => rfl
  | cons redial rest ih =>
      rw [reconnectLoop]
      split
      · exact reconnect_ran link redial
      · rw [ih, reconnect_ran]

theorem check_failover_ran (diagnosis : Diagnosis) (episode : Episode) : (checkFailoverState diagnosis episode link).1.ran = link.ran := by
  cases diagnosis with
  | readOnly => rfl
  | other => rfl
  | connectionLost => exact reconnect_loop_ran _ _
  | failover =>
      change (setInitialSessionState episode.zoneSet (Link.freshSession _ _)).ran = link.ran
      rw [setInitialSessionState]
      split
      · cases episode.zoneSet <;> simp
      · simp

theorem issue_ran (procedure : Procedure) (attempt : Attempt) :
    (issue procedure attempt link).ran = link.ran ++ if attempt.executes then [link.zone] else [] := by
  rw [issue]
  cases procedure.binds <;> cases attempt.executes <;> first | rfl | exact (List.append_nil _).symm

end Recording

section Zones

variable {strict : Prop} {link : Link}

theorem issue_zone (procedure : Procedure) (attempt : Attempt) : (issue procedure attempt link).zone = link.zone := by
  rw [issue]
  cases procedure.binds <;> cases attempt.executes <;> rfl

theorem up_session (up : Up strict link) : ∃ session, link.session = some session := by
  obtain ⟨handle, statement⟩ := Option.isSome_iff_exists.mp up.statement
  obtain ⟨session, held⟩ := up.stmt handle statement
  exact ⟨session, by rw [Link.session, statement, Option.bind_some, held, Option.bind_some]⟩

theorem fresh_session_zone (session : Handle) (known : link.session = some session) :
    (link.freshSession link.session).session = some session ∧ (link.freshSession link.session).zone = false := by
  have fresh : link.freshSession link.session = { link with zoned := Function.update link.zoned session false } := by
    rw [known]
    rfl
  rw [fresh]
  refine ⟨known, ?_⟩
  change link.session.any (Function.update link.zoned session false) = false
  rw [known, Option.any_some, Function.update_self]

theorem set_zone_zone (session : Handle) (known : link.session = some session) : link.setZone.zone = true := by
  have set : link.setZone = { link with zoned := Function.update link.zoned session true } := by rw [Link.setZone, known]
  rw [set]
  change link.session.any (Function.update link.zoned session true) = true
  rw [known, Option.any_some, Function.update_self]

theorem set_initial_zone (up : Up strict link) (zoneSet : Bool) :
    (setInitialSessionState zoneSet (link.freshSession link.session)).zone = zoneSet := by
  obtain ⟨session, known⟩ := up_session up
  obtain ⟨kept, unset⟩ := fresh_session_zone session known
  have statement : (link.freshSession link.session).hStmt = link.hStmt := by
    rw [known]
    rfl
  generalize link.freshSession link.session = fresh at kept unset statement
  rw [setInitialSessionState, if_pos (statement ▸ up.statement)]
  cases zoneSet with
  | false => exact unset
  | true => exact @set_zone_zone (fresh.call .execDirect fresh.hStmt) session kept

theorem prepare_zone (session : Handle) (dbc : link.hDbc = some session) (unset : link.zoned session = false) (diagnose : Link → Link) :
    (prepare diagnose true link).1.zone = false := by
  have zone : (prepare diagnose true link).1.zone =
      ((Function.update link.nodes link.next (some ⟨.stmt, link.hDbc⟩) link.next).bind Node.parent).any link.zoned := rfl
  rw [zone, Function.update_self, dbc, Option.bind_some, Option.any_some, unset]

theorem establish_zone (session : Handle) (dbc : link.hDbc = some session) (diagnose : Link → Link) (redial : Redial)
    (connects : (redial.connects && redial.prepares) = true) : (establish diagnose redial link).1.zone = false := by
  obtain ⟨dials, prepares⟩ := Bool.and_eq_true_iff.mp connects
  have tried : establish diagnose redial link =
      prepare diagnose true ((link.call .driverConnect (some session)).freshSession (some session)) := by
    simp [establish, dials, prepares, dbc]
  have unset : Function.update link.zoned session false session = false := Function.update_self _ _ _
  rw [tried]
  apply prepare_zone session
  · exact dbc
  · exact unset

theorem reconnect_zone (redial : Redial) (succeeds : redial.succeeds = true) : (reconnect redial link).1.zone = false := by
  have split : redial.allocates = true ∧ (redial.connects && redial.prepares) = true := by
    rw [Redial.succeeds, Bool.and_assoc, Bool.and_eq_true] at succeeds
    exact succeeds
  rw [reconnect, split.1]
  exact establish_zone _ rfl id redial split.2

theorem reconnect_loop_zone (redials : List Redial) (sane : Sane strict link) (succeeds : redials.any Redial.succeeds = true) :
    (reconnectLoop redials link).1.zone = false := by
  induction redials generalizing link with
  | nil => exact absurd succeeds nofun
  | cons redial rest ih =>
      have attempted := (reconnect_attempted sane redial).1
      rw [reconnectLoop, attempted.answer]
      cases now : redial.succeeds with
      | true => exact reconnect_zone redial now
      | false =>
          rw [List.any_cons, now, Bool.false_or] at succeeds
          exact ih attempted.sane succeeds

theorem check_failover_zone (up : Up strict link) (episode : Episode) (diagnosis : Diagnosis)
    (reported : episode.round.attempt.report = .error diagnosis) (unlost : ¬ Lost episode.round) :
    (checkFailoverState diagnosis episode link).1.zone = zoneAfter link.zone episode := by
  have diagnosed := up_call up .getDiagRec
  rw [zoneAfter, reported]
  cases diagnosis with
  | failover => exact set_initial_zone diagnosed episode.zoneSet
  | readOnly => rfl
  | other => rfl
  | connectionLost =>
      have start : Sane strict { link.call .getDiagRec link.hStmt with connected := false } :=
        { fresh := diagnosed.fresh, env := diagnosed.env, dbc := diagnosed.dbc, stmt := diagnosed.stmt, proper := diagnosed.proper }
      have succeeds : episode.round.redials.toList.any Redial.succeeds = true := by
        by_contra none
        refine unlost ⟨reported, fun redial member => ?_⟩
        exact Bool.eq_false_iff.mpr (fun succeeds => none (List.any_eq_true.mpr ⟨redial, member, succeeds⟩))
      exact reconnect_loop_zone _ start succeeds

end Zones

def Zoned (link : Link) : Prop := ∀ zone ∈ link.ran, zone = true

def staysZoned (link : Link) : Request → Prop
  | .executeProc _ pattern => (link.connected && link.hStmt.isSome) = true → inZone pattern maxRetries 0 link.zone
  | _ => True

section Runs

variable {link : Link} (procedure : Procedure) (pattern : Nat → Episode)

theorem zoned_append (zone : Bool) (executes : Bool) (ran : List Bool) :
    (∀ entry ∈ ran ++ (if executes then [zone] else []), entry = true) ↔ (∀ entry ∈ ran, entry = true) ∧ (executes = true → zone = true) := by
  cases executes <;> simp [or_imp, forall_and]

theorem call_loose (sane : Sane False link) (routine : Routine) (handle : Option Handle) : Sane False (link.call routine handle) :=
  { fresh := sane.fresh, env := sane.env, dbc := sane.dbc, stmt := sane.stmt, proper := nofun }

theorem close_loose (sane : Sane False link) : Sane False (closeStatement link) := call_loose (call_loose sane .closeCursor _) .freeStmt _

theorem retry_loop_zoned (left turn : Nat) (up : Up False link) : Sane False (retryLoop procedure pattern left turn link).1 ∧
    (Zoned (retryLoop procedure pattern left turn link).1 ↔ Zoned link ∧ inZone pattern left turn link.zone) := by
  induction left generalizing turn link with
  | zero => exact ⟨up.toSane, (and_iff_left trivial).symm⟩
  | succ left ih =>
      have issued := up_issue up procedure (pattern turn).round.attempt
      have ran := issue_ran link procedure (pattern turn).round.attempt
      have zone : (issue procedure (pattern turn).round.attempt link).zone = link.zone := issue_zone procedure _
      have recorded : Zoned (issue procedure (pattern turn).round.attempt link) ↔
          Zoned link ∧ ((pattern turn).round.attempt.executes = true → link.zone = true) := by
        rw [Zoned, ran]
        exact zoned_append _ _ _
      rw [retryLoop, inZone]
      simp only
      cases reported : (pattern turn).round.attempt.report with
      | success =>
          have ends : (pattern turn).round.retried = false := by rw [Round.retried, reported]
          have left : ((pattern turn).round.retried = true → inZone pattern left (turn + 1) (zoneAfter link.zone (pattern turn))) :=
            fun retried => absurd (ends.symm.trans retried) (by simp)
          rw [and_iff_left left]
          simp only
          split
          · exact ⟨close_loose (call_loose issued.toSane .fetch _), recorded⟩
          · exact ⟨close_loose issued.toSane, recorded⟩
      | error diagnosis =>
          have diagnosed := up_call issued .getDiagRec
          obtain ⟨answer, sane, keeps, _⟩ := check_failover_up diagnosed (pattern turn) diagnosis reported
          have unrecorded := check_failover_ran ((issue procedure (pattern turn).round.attempt link).call .getDiagRec
            (issue procedure (pattern turn).round.attempt link).hStmt) diagnosis (pattern turn)
          simp only [answer]
          cases retried : (pattern turn).round.retried with
          | false =>
              simp only [Bool.false_eq_true, false_implies, and_true, if_false]
              refine ⟨close_loose sane, ?_⟩
              change (∀ entry ∈ (checkFailoverState diagnosis (pattern turn) _).1.ran, entry = true) ↔ _
              rw [unrecorded]
              exact recorded
          | true =>
              have unlost : ¬ Lost (pattern turn).round := fun lost => absurd ((lost_unanswered _ lost).symm.trans retried) (by simp)
              obtain ⟨saneAfter, zoned⟩ := ih (turn + 1) (keeps unlost)
              have turned := check_failover_zone diagnosed (pattern turn) diagnosis reported unlost
              refine ⟨saneAfter, zoned.trans ?_⟩
              rw [turned, show Link.zone (Link.call _ .getDiagRec _) = link.zone from zone, ← and_assoc, ← recorded]
              refine and_congr ?_ (by simp)
              rw [Zoned, unrecorded]
              exact Iff.rfl

theorem step_zoned_iff (request : Request) (sane : Sane False link) :
    Sane False (step link request) ∧ (Zoned (step link request) ↔ Zoned link ∧ staysZoned link request) := by
  cases request with
  | disconnect =>
      have unprepared := drop_stmt_sane sane
      obtain ⟨dropped, bare, down⟩ := drop_dbc_sane unprepared.1 unprepared.2
      have gone := drop_env_sane dropped bare down
      refine ⟨{ fresh := gone.fresh, env := gone.env, dbc := gone.dbc, stmt := gone.stmt, proper := (by simp) }, ?_⟩
      rw [step, Zoned, disconnect_ran]
      exact (and_iff_left trivial).symm
  | connect dial =>
      refine ⟨(connect_attempted sane dial).1, ?_⟩
      rw [step, Zoned, connect_ran]
      exact (and_iff_left trivial).symm
  | executeProc procedure pattern =>
      rw [step, executeProc, staysZoned]
      cases ready : link.connected && link.hStmt.isSome with
      | false => exact ⟨sane, (and_iff_left (by simp)).symm⟩
      | true =>
          have up : Up False link := { toSane := sane, statement := (Bool.and_eq_true_iff.mp ready).2, whole := (by simp) }
          obtain ⟨saneAfter, zoned⟩ := retry_loop_zoned procedure pattern maxRetries 0 up
          rw [forall_prop_of_true rfl]
          exact ⟨saneAfter, zoned⟩

theorem sessions_zoned_iff (requests : List Request) :
    Machine.Throughout step Zoned {} requests ↔ Machine.Guarded step staysZoned {} requests := by
  apply Machine.throughout_iff_guarded step staysZoned (fun link => Sane False link ∧ Zoned link)
  · exact fun link held => held.2
  · intro link request held keeps
    obtain ⟨sane, zoned⟩ := step_zoned_iff request held.1
    exact ⟨sane, zoned.mpr ⟨held.2, keeps⟩⟩
  · intro link request held breaks zonedAfter
    exact breaks ((step_zoned_iff request held.1).2.mp zonedAfter).2
  · exact ⟨{ fresh := fun _ _ => rfl, env := nofun, dbc := nofun, stmt := nofun, proper := nofun }, nofun⟩

def firstProcedure : List Request :=
  [.connect ⟨true, ⟨true, true, true⟩⟩, .executeProc ⟨false, none⟩ (fun _ =>
    { round := { attempt := { executes := true, report := .success, honest := fun _ => rfl },
                 redials := Vector.replicate maxRetries ⟨true, true, true⟩ }, zoneSet := true })]

theorem first_procedure_unzoned : ¬ Machine.Throughout step Zoned {} firstProcedure := by
  intro holds
  have zoned := Machine.throughout_run step Zoned {} firstProcedure [] holds
  have ran : false ∈ (Machine.run step {} firstProcedure).ran := by decide +kernel
  exact absurd (zoned false ran) nofun

end Runs

end Odbc

end MmorpgSimulator
