import MmorpgSimulator.Odbc
import MmorpgSimulator.Library.Run

set_option autoImplicit false

namespace MmorpgSimulator

namespace Odbc

open DbConnection

def Routine.OnStatement (routine : Routine) : Prop :=
  routine = .execDirect ∨ routine = .getDiagRec ∨ routine = .closeCursor ∨ routine = .freeStmt

structure ApiCall.Proper (call : ApiCall) : Prop where
  unfreed : call.passed ≠ .freed
  given : call.passed = .null → ¬ call.routine.OnStatement

structure Rooted (link : Link) : Prop where
  fresh : ∀ handle, link.next ≤ handle → link.nodes handle = none
  env : ∀ handle, link.hEnv = some handle → ∃ parent, link.nodes handle = some ⟨.env, parent⟩
  dbc : ∀ handle, link.hDbc = some handle → ∃ parent, link.nodes handle = some ⟨.dbc, parent⟩
  stmt : ∀ handle, link.hStmt = some handle → ∃ session, link.nodes handle = some ⟨.stmt, some session⟩

-- Unless no account is kept of it, the driver was given the right handles as well.
structure Sane (strict : Prop) (link : Link) : Prop extends Rooted link where
  proper : strict → ∀ call ∈ link.calls, call.Proper

section Routines

variable {strict : Prop} {link : Link}

theorem passing_live (handle : Handle) (node : Node) (held : link.nodes handle = some node) : link.passing (some handle) = .live := by
  rw [Link.passing, held]
  rfl

theorem call_sane (sane : Sane strict link) (routine : Routine) (handle : Option Handle) (unfreed : link.passing handle ≠ .freed)
    (given : link.passing handle = .null → ¬ routine.OnStatement) : Sane strict (link.call routine handle) where
  fresh := sane.fresh
  env := sane.env
  dbc := sane.dbc
  stmt := sane.stmt
  proper := by
    intro kept call made
    rcases List.mem_append.mp made with earlier | now
    · exact sane.proper kept call earlier
    · obtain rfl := List.mem_singleton.mp now
      exact ⟨unfreed, given⟩

theorem call_live (sane : Sane strict link) (routine : Routine) (handle : Handle) (node : Node) (held : link.nodes handle = some node) :
    Sane strict (link.call routine (some handle)) := by
  have live := passing_live handle node held
  exact call_sane sane routine (some handle) (by rw [live]; exact nofun) (by rw [live]; exact nofun)

theorem call_null (sane : Sane strict link) (routine : Routine) (other : ¬ routine.OnStatement) : Sane strict (link.call routine none) :=
  call_sane sane routine none nofun (fun _ => other)

theorem alloc_keeps (rooted : Rooted link) (kind : HandleKind) (parent : Option Handle) (succeeds : Bool) (handle : Handle) (node : Node)
    (held : link.nodes handle = some node) : (link.alloc kind parent succeeds).1.nodes handle = some node := by
  cases succeeds with
  | false => exact held
  | true =>
      have apart : handle ≠ link.next := by
        rintro rfl
        rw [rooted.fresh link.next (le_refl _)] at held
        exact absurd held nofun
      exact (Function.update_of_ne apart _ link.nodes).trans held

theorem alloc_fresh (rooted : Rooted link) (kind : HandleKind) (parent : Option Handle) (succeeds : Bool) (handle : Handle)
    (above : (link.alloc kind parent succeeds).1.next ≤ handle) : (link.alloc kind parent succeeds).1.nodes handle = none := by
  cases succeeds with
  | false => exact rooted.fresh handle above
  | true =>
      have beyond : link.next + 1 ≤ handle := above
      exact (Function.update_of_ne (Nat.lt_of_succ_le beyond).ne' _ link.nodes).trans (rooted.fresh handle (Nat.le_of_succ_le beyond))

theorem alloc_gives (kind : HandleKind) (parent : Option Handle) (succeeds : Bool) (handle : Handle)
    (given : (link.alloc kind parent succeeds).2 = some handle) : (link.alloc kind parent succeeds).1.nodes handle = some ⟨kind, parent⟩ := by
  cases succeeds with
  | false => exact absurd given nofun
  | true =>
      obtain rfl : link.next = handle := Option.some.inj given
      exact Function.update_self _ _ _

theorem alloc_calls (kind : HandleKind) (parent : Option Handle) (succeeds : Bool) :
    (link.alloc kind parent succeeds).1.calls = (link.call .allocHandle parent).calls := by
  cases succeeds <;> rfl

theorem free_keeps (freed other : Handle) (apart : other ≠ freed) : (link.free (some freed)).nodes other = link.nodes other :=
  Function.update_of_ne apart _ _

theorem free_fresh (rooted : Rooted link) (freed handle : Handle) (above : link.next ≤ handle) :
    (link.free (some freed)).nodes handle = none := by
  by_cases same : handle = freed
  · rw [same]
    exact Function.update_self _ _ _
  · rw [free_keeps freed handle same]
    exact rooted.fresh handle above

theorem apart_of_kind (one other : Handle) (node node' : Node) (held : link.nodes one = some node) (heldToo : link.nodes other = some node')
    (kinds : node.kind ≠ node'.kind) : one ≠ other := by
  rintro rfl
  rw [held] at heldToo
  exact kinds (congrArg Node.kind (Option.some.inj heldToo))

theorem hang_up_keeps (connection : Option Handle) (handle : Handle) (node : Node) (other : node.kind ≠ .stmt)
    (held : link.nodes handle = some node) : (link.hangUp connection).nodes handle = some node := by
  change (link.nodes handle).filter _ = some node
  rw [held, Option.filter_some, if_pos]
  simp [other]

theorem hang_up_fresh (rooted : Rooted link) (connection : Option Handle) (handle : Handle) (above : link.next ≤ handle) :
    (link.hangUp connection).nodes handle = none := by
  change (link.nodes handle).filter _ = none
  rw [rooted.fresh handle above]
  rfl

end Routines

section Dropping

variable {strict : Prop} {link : Link}

theorem drop_stmt_sane (sane : Sane strict link) : Sane strict (dropStmt link) ∧ (dropStmt link).hStmt = none := by
  rw [dropStmt]
  cases statement : link.hStmt with
  | none => exact ⟨sane, statement⟩
  | some handle =>
      obtain ⟨session, held⟩ := sane.stmt handle statement
      have called := call_live sane .freeHandle handle _ held
      refine ⟨{ fresh := fun other above => free_fresh sane.toRooted handle other above, env := ?_, dbc := ?_, stmt := nofun, proper := called.proper }, rfl⟩
      · intro env same
        obtain ⟨parent, node⟩ := sane.env env same
        exact ⟨parent, (free_keeps handle env (apart_of_kind env handle _ _ node held nofun)).trans node⟩
      · intro dbc same
        obtain ⟨parent, node⟩ := sane.dbc dbc same
        exact ⟨parent, (free_keeps handle dbc (apart_of_kind dbc handle _ _ node held nofun)).trans node⟩

theorem hang_up_sane (sane : Sane strict link) (bare : link.hStmt = none) (handle : Handle) (dbc : link.hDbc = some handle) :
    Sane strict (link.hangUp (some handle)) := by
  obtain ⟨parent, held⟩ := sane.dbc handle dbc
  have called := call_live sane .disconnect handle _ held
  exact {
    fresh := fun other above => hang_up_fresh sane.toRooted (some handle) other above
    env := fun env same => (sane.env env same).imp (fun parent node => hang_up_keeps (some handle) env _ nofun node)
    dbc := fun dbc same => (sane.dbc dbc same).imp (fun parent node => hang_up_keeps (some handle) dbc _ nofun node)
    stmt := fun other same => absurd (bare.symm.trans same) nofun
    proper := called.proper }

theorem free_dbc_sane (sane : Sane strict link) (handle : Handle) (dbc : link.hDbc = some handle) :
    Sane strict { link.free (some handle) with hDbc := none } := by
  obtain ⟨parent, held⟩ := sane.dbc handle dbc
  have called := call_live sane .freeHandle handle _ held
  refine { fresh := fun other above => free_fresh sane.toRooted handle other above, env := ?_, dbc := nofun, stmt := ?_, proper := called.proper }
  · intro env same
    obtain ⟨parent, node⟩ := sane.env env same
    exact ⟨parent, (free_keeps handle env (apart_of_kind env handle _ _ node held nofun)).trans node⟩
  · intro stmt same
    obtain ⟨session, node⟩ := sane.stmt stmt same
    exact ⟨session, (free_keeps handle stmt (apart_of_kind stmt handle _ _ node held nofun)).trans node⟩

theorem drop_dbc_sane (sane : Sane strict link) (bare : link.hStmt = none) :
    Sane strict (dropDbc link) ∧ (dropDbc link).hStmt = none ∧ (dropDbc link).hDbc = none := by
  rw [dropDbc]
  cases connection : link.hDbc with
  | none => exact ⟨sane, bare, connection⟩
  | some handle => exact ⟨free_dbc_sane (hang_up_sane sane bare handle connection) handle connection, bare, rfl⟩

theorem drop_env_sane (sane : Sane strict link) (bare : link.hStmt = none) (down : link.hDbc = none) : Sane strict (dropEnv link) := by
  rw [dropEnv]
  cases environment : link.hEnv with
  | none => exact sane
  | some handle =>
      obtain ⟨parent, held⟩ := sane.env handle environment
      have freed := call_live sane .freeHandle handle _ held
      exact {
        fresh := fun other above => free_fresh sane.toRooted handle other above
        env := fun other same => absurd same nofun
        dbc := fun other same => absurd (down.symm.trans same) nofun
        stmt := fun other same => absurd (bare.symm.trans same) nofun
        proper := freed.proper }

theorem drop_frame : (dropDbc (dropStmt link)).hEnv = link.hEnv ∧ (dropDbc (dropStmt link)).connected = link.connected := by
  have first : (dropStmt link).hEnv = link.hEnv ∧ (dropStmt link).connected = link.connected := by
    rw [dropStmt]
    split <;> exact ⟨by cases link.hStmt <;> rfl, by cases link.hStmt <;> rfl⟩
  have second (link : Link) : (dropDbc link).hEnv = link.hEnv ∧ (dropDbc link).connected = link.connected := by
    rw [dropDbc]
    split <;> exact ⟨by cases link.hDbc <;> rfl, by cases link.hDbc <;> rfl⟩
  exact ⟨(second _).1.trans first.1, (second _).2.trans first.2⟩

end Dropping

section Establishing

variable {strict : Prop} {link : Link}

theorem alloc_proper (sane : Sane strict link) (kind : HandleKind) (parent : Option Handle) (succeeds : Bool)
    (held : ∀ handle, parent = some handle → ∃ node, link.nodes handle = some node) :
    strict → ∀ call ∈ (link.alloc kind parent succeeds).1.calls, call.Proper := by
  rw [alloc_calls]
  cases parent with
  | none => exact (call_null sane .allocHandle (by simp [Routine.OnStatement])).proper
  | some handle =>
      obtain ⟨node, live⟩ := held handle rfl
      exact (call_live sane .allocHandle handle node live).proper

theorem alloc_stmt_sane (sane : Sane strict link) (session : Handle) (dbc : link.hDbc = some session) (succeeds : Bool) :
    Sane strict { (link.alloc .stmt (some session) succeeds).1 with hStmt := (link.alloc .stmt (some session) succeeds).2 } where
  fresh := fun handle above => alloc_fresh sane.toRooted .stmt (some session) succeeds handle above
  env := fun handle same => (sane.env handle (by cases succeeds <;> exact same)).imp
    (fun parent node => alloc_keeps sane.toRooted .stmt (some session) succeeds handle _ node)
  dbc := fun handle same => (sane.dbc handle (by cases succeeds <;> exact same)).imp
    (fun parent node => alloc_keeps sane.toRooted .stmt (some session) succeeds handle _ node)
  stmt := fun handle same => ⟨session, alloc_gives .stmt (some session) succeeds handle same⟩
  proper := by
    refine alloc_proper sane .stmt (some session) succeeds (fun handle same => ?_)
    obtain ⟨parent, node⟩ := sane.dbc handle (dbc.trans same)
    exact ⟨_, node⟩

theorem alloc_dbc_sane (sane : Sane strict link) (succeeds : Bool) :
    Sane strict { (link.alloc .dbc link.hEnv succeeds).1 with hDbc := (link.alloc .dbc link.hEnv succeeds).2 } where
  fresh := fun handle above => alloc_fresh sane.toRooted .dbc link.hEnv succeeds handle above
  env := fun handle same => (sane.env handle (by cases succeeds <;> exact same)).imp
    (fun parent node => alloc_keeps sane.toRooted .dbc link.hEnv succeeds handle _ node)
  dbc := fun handle same => ⟨_, alloc_gives .dbc link.hEnv succeeds handle same⟩
  stmt := fun handle same => (sane.stmt handle (by cases succeeds <;> exact same)).imp
    (fun session node => alloc_keeps sane.toRooted .dbc link.hEnv succeeds handle _ node)
  proper := by
    refine alloc_proper sane .dbc link.hEnv succeeds (fun handle same => ?_)
    obtain ⟨parent, node⟩ := sane.env handle same
    exact ⟨_, node⟩

theorem alloc_env_sane (sane : Sane strict link) (succeeds : Bool) :
    Sane strict { (link.alloc .env none succeeds).1 with hEnv := (link.alloc .env none succeeds).2 } where
  fresh := fun handle above => alloc_fresh sane.toRooted .env none succeeds handle above
  env := fun handle same => ⟨_, alloc_gives .env none succeeds handle same⟩
  dbc := fun handle same => (sane.dbc handle (by cases succeeds <;> exact same)).imp
    (fun parent node => alloc_keeps sane.toRooted .env none succeeds handle _ node)
  stmt := fun handle same => (sane.stmt handle (by cases succeeds <;> exact same)).imp
    (fun session node => alloc_keeps sane.toRooted .env none succeeds handle _ node)
  proper := alloc_proper sane .env none succeeds nofun

theorem fresh_session_sane (sane : Sane strict link) (handle : Option Handle) : Sane strict (link.freshSession handle) := by
  cases handle with
  | none => exact sane
  | some handle => exact { fresh := sane.fresh, env := sane.env, dbc := sane.dbc, stmt := sane.stmt, proper := sane.proper }

structure Attempted (strict : Prop) (before : Link) (tried : Link × Bool) (succeeds : Bool) : Prop where
  sane : Sane strict tried.1
  answer : tried.2 = succeeds
  env : tried.1.hEnv = before.hEnv
  up : succeeds = true → tried.1.connected = true ∧ tried.1.hDbc.isSome ∧ tried.1.hStmt.isSome
  down : succeeds = false → tried.1.connected = before.connected ∧ tried.1.hDbc = none ∧ (before.hStmt = none → tried.1.hStmt = none)

theorem prepare_attempted (sane : Sane strict link) (session : Handle) (dbc : link.hDbc = some session) (diagnose : Link → Link)
    (quiet : diagnose = id ∨ diagnose = fun link => link.call .getDiagRec link.hDbc) (prepares : Bool) :
    Attempted strict link (prepare diagnose prepares link) prepares := by
  have prepared := alloc_stmt_sane sane session dbc prepares
  cases prepares with
  | true =>
      have tried : prepare diagnose true link = ({ { (link.alloc .stmt (some session) true).1 with hStmt := some link.next }.call .setStmtAttr
          (some link.next) with connected := true }, true) := by
        rw [prepare, dbc]
        rfl
      have held : (link.alloc .stmt (some session) true).1.nodes link.next = some ⟨.stmt, some session⟩ :=
        alloc_gives .stmt (some session) true link.next rfl
      have called := call_live prepared .setStmtAttr link.next _ held
      rw [tried]
      refine ⟨?_, rfl, rfl, fun _ => ⟨rfl, ?_, rfl⟩, nofun⟩
      · exact { fresh := called.fresh, env := called.env, dbc := called.dbc, stmt := called.stmt, proper := called.proper }
      · exact congrArg Option.isSome dbc
  | false =>
      let bare : Link := { (link.alloc .stmt (some session) false).1 with hStmt := none }
      have bareSane : Sane strict bare := prepared
      have kept : bare.hDbc = some session := dbc
      have tried : prepare diagnose false link = ({ ((diagnose bare).hangUp bare.hDbc).free bare.hDbc with hDbc := none }, false) := by
        rw [prepare, dbc]
        exact if_neg Bool.false_ne_true
      have diagnosed : Sane strict (diagnose bare) ∧ (diagnose bare).hDbc = some session ∧ (diagnose bare).hStmt = none ∧
          (diagnose bare).hEnv = link.hEnv ∧ (diagnose bare).connected = link.connected := by
        obtain ⟨parent, held⟩ := bareSane.dbc session kept
        rcases quiet with rfl | rfl
        · exact ⟨bareSane, kept, rfl, rfl, rfl⟩
        · refine ⟨?_, kept, rfl, rfl, rfl⟩
          have called := call_live bareSane .getDiagRec session _ held
          rw [← kept] at called
          exact called
      obtain ⟨ready, same, unprepared, env, connected⟩ := diagnosed
      rw [tried, kept]
      exact ⟨free_dbc_sane (hang_up_sane ready unprepared session same) session same, rfl, env, nofun,
        fun _ => ⟨connected, rfl, fun _ => unprepared⟩⟩

theorem establish_attempted (sane : Sane strict link) (session : Handle) (dbc : link.hDbc = some session) (diagnose : Link → Link)
    (quiet : diagnose = id ∨ diagnose = fun link => link.call .getDiagRec link.hDbc) (redial : Redial) :
    Attempted strict link (establish diagnose redial link) (redial.connects && redial.prepares) := by
  obtain ⟨parent, held⟩ := sane.dbc session dbc
  have dialled : Sane strict (link.call .driverConnect (some session)) := call_live sane .driverConnect session _ held
  cases connects : redial.connects with
  | false =>
      have tried : establish diagnose redial link =
          ({ ((link.call .driverConnect (some session)).call .getDiagRec (some session)).free (some session) with hDbc := none }, false) := by
        simp [establish, connects, dbc]
      have diagnosed := call_live dialled .getDiagRec session _ held
      rw [tried]
      exact ⟨free_dbc_sane diagnosed session dbc, rfl, rfl, nofun, fun _ => ⟨rfl, rfl, id⟩⟩
  | true =>
      have tried : establish diagnose redial link =
          prepare diagnose redial.prepares ((link.call .driverConnect (some session)).freshSession (some session)) := by
        simp [establish, connects, dbc]
      have attempted := prepare_attempted (fresh_session_sane dialled (some session)) session dbc diagnose quiet redial.prepares
      rw [tried, Bool.true_and]
      exact ⟨attempted.sane, attempted.answer, attempted.env, attempted.up, attempted.down⟩

theorem reconnect_attempted (sane : Sane strict link) (redial : Redial) :
    Attempted strict link (reconnect redial link) redial.succeeds ∧ (redial.succeeds = false → (reconnect redial link).1.hStmt = none) := by
  obtain ⟨env, connected⟩ := @drop_frame link
  have unprepared := drop_stmt_sane sane
  obtain ⟨dropped, bare, down⟩ := drop_dbc_sane unprepared.1 unprepared.2
  generalize before : dropDbc (dropStmt link) = base at env connected dropped bare down
  have allocated := alloc_dbc_sane dropped redial.allocates
  rw [reconnect, before, Redial.succeeds]
  cases allocates : redial.allocates with
  | false =>
      rw [allocates] at allocated
      exact ⟨⟨allocated, rfl, env, nofun, fun _ => ⟨connected, rfl, fun _ => bare⟩⟩, fun _ => bare⟩
  | true =>
      rw [allocates] at allocated
      have attempted := establish_attempted allocated base.next rfl id (.inl rfl) redial
      rw [Bool.true_and]
      refine ⟨⟨attempted.sane, attempted.answer, attempted.env.trans env, attempted.up, fun failed => ?_⟩, fun failed => ?_⟩
      · obtain ⟨same, gone, statement⟩ := attempted.down failed
        exact ⟨same.trans connected, gone, fun _ => statement bare⟩
      · exact (attempted.down failed).2.2 bare

theorem reconnect_loop_attempted (redials : List Redial) (sane : Sane strict link) :
    Sane strict (reconnectLoop redials link).1 ∧ (reconnectLoop redials link).2 = redials.any Redial.succeeds ∧
      (reconnectLoop redials link).1.hEnv = link.hEnv ∧
        (redials.any Redial.succeeds = true → (reconnectLoop redials link).1.connected = true ∧ (reconnectLoop redials link).1.hDbc.isSome ∧
          (reconnectLoop redials link).1.hStmt.isSome) ∧
          (redials.any Redial.succeeds = false → redials ≠ [] → (reconnectLoop redials link).1.hStmt = none) := by
  induction redials generalizing link with
  | nil => exact ⟨sane, rfl, rfl, nofun, fun _ nonempty => absurd rfl nonempty⟩
  | cons redial rest ih =>
      obtain ⟨attempted, bare⟩ := reconnect_attempted sane redial
      rw [reconnectLoop, List.any_cons]
      cases succeeds : redial.succeeds with
      | true =>
          rw [succeeds] at attempted
          simp only [attempted.answer, if_true, Bool.true_or]
          exact ⟨attempted.sane, trivial, attempted.env, fun _ => attempted.up rfl, nofun⟩
      | false =>
          rw [succeeds] at attempted bare
          simp only [attempted.answer, Bool.false_or, Bool.false_eq_true, if_false]
          obtain ⟨saneAfter, answer, env, up, down⟩ := ih attempted.sane
          refine ⟨saneAfter, answer, env.trans attempted.env, up, fun failed _ => ?_⟩
          cases rest with
          | nil => exact bare rfl
          | cons next later => exact down failed nofun

end Establishing

structure Up (strict : Prop) (link : Link) : Prop extends Sane strict link where
  statement : link.hStmt.isSome
  whole : strict → link.connected = true ∧ link.hEnv.isSome ∧ link.hDbc.isSome

section Executing

variable {strict : Prop} {link : Link}

theorem up_call (up : Up strict link) (routine : Routine) : Up strict (link.call routine link.hStmt) := by
  obtain ⟨handle, statement⟩ := Option.isSome_iff_exists.mp up.statement
  obtain ⟨session, held⟩ := up.stmt handle statement
  have called := call_live up.toSane routine handle _ held
  rw [← statement] at called
  exact { toSane := called, statement := up.statement, whole := up.whole }

theorem up_issue (up : Up strict link) (procedure : Procedure) (attempt : Attempt) : Up strict (issue procedure attempt link) := by
  have bound : Up strict (if procedure.binds then link.call .bindParameter link.hStmt else link) := by
    split
    · exact up_call up .bindParameter
    · exact up
  have issued := up_call bound .execDirect
  rw [issue]
  cases attempt.executes with
  | true => exact { fresh := issued.fresh, env := issued.env, dbc := issued.dbc, stmt := issued.stmt, proper := issued.proper,
                    statement := issued.statement, whole := issued.whole }
  | false => exact issued

theorem up_close (up : Up strict link) : Up strict (closeStatement link) := up_call (up_call up .closeCursor) .freeStmt

theorem up_set_initial (up : Up strict link) (zoneSet : Bool) : Up strict (setInitialSessionState zoneSet (link.freshSession link.session)) := by
  have zones (link : Link) (up : Up strict link) (zoned : Handle → Bool) : Up strict { link with zoned } :=
    { fresh := up.fresh, env := up.env, dbc := up.dbc, stmt := up.stmt, proper := up.proper, statement := up.statement, whole := up.whole }
  have fresh : Up strict (link.freshSession link.session) := by
    cases link.session with
    | none => exact up
    | some session => exact zones link up _
  have set (link : Link) (up : Up strict link) : Up strict link.setZone := by
    rw [Link.setZone]
    cases link.session with
    | none => exact up
    | some session => exact zones link up _
  generalize link.freshSession link.session = base at fresh
  rw [setInitialSessionState, if_pos fresh.statement]
  have called := up_call fresh .execDirect
  cases zoneSet with
  | false => exact called
  | true => exact set _ called

theorem close_bare (bare : link.hStmt = none) : ∃ call ∈ (closeStatement link).calls, ¬ call.Proper := by
  have made : (⟨.closeCursor, .null⟩ : ApiCall) ∈ (link.call .closeCursor link.hStmt).calls := by
    rw [bare]
    exact List.mem_append_right _ (List.mem_singleton_self _)
  exact ⟨_, List.mem_append_left _ made, fun proper => proper.given rfl (.inr (.inr (.inl rfl)))⟩

-- What is lost in a turn: SQLExecDirectW reports 08S01, and all attempts to reconnect fail.
def Lost (round : Round) : Prop := round.attempt.report = .error .connectionLost ∧ ∀ redial ∈ round.redials.toList, redial.succeeds = false

theorem lost_unanswered (round : Round) (lost : Lost round) : round.retried = false := by
  rw [Round.retried, lost.1]
  exact List.any_eq_false.mpr (fun redial member => by simp [lost.2 redial member])

theorem check_failover_up (up : Up strict link) (episode : Episode) (diagnosis : Diagnosis)
    (reported : episode.round.attempt.report = .error diagnosis) :
    (checkFailoverState diagnosis episode link).2 = episode.round.retried ∧ Sane strict (checkFailoverState diagnosis episode link).1 ∧
      (¬ Lost episode.round → Up strict (checkFailoverState diagnosis episode link).1) ∧
        (Lost episode.round → (checkFailoverState diagnosis episode link).1.hStmt = none) := by
  have diagnosed := up_call up .getDiagRec
  have kept (other : diagnosis ≠ .connectionLost) : ¬ Lost episode.round := fun lost => other (Report.error.inj (reported.symm.trans lost.1))
  rw [Round.retried, reported]
  cases diagnosis with
  | failover =>
      have set := up_set_initial diagnosed episode.zoneSet
      exact ⟨rfl, set.toSane, fun _ => set, fun lost => absurd lost (kept (by simp))⟩
  | readOnly => exact ⟨rfl, diagnosed.toSane, fun _ => diagnosed, fun lost => absurd lost (kept (by simp))⟩
  | other => exact ⟨rfl, diagnosed.toSane, fun _ => diagnosed, fun lost => absurd lost (kept (by simp))⟩
  | connectionLost =>
      have start : Sane strict { link.call .getDiagRec link.hStmt with connected := false } :=
        { fresh := diagnosed.fresh, env := diagnosed.env, dbc := diagnosed.dbc, stmt := diagnosed.stmt, proper := diagnosed.proper }
      obtain ⟨sane, answer, env, connects, fails⟩ := reconnect_loop_attempted episode.round.redials.toList start
      refine ⟨answer, sane, fun unlost => ?_, fun lost => ?_⟩
      · have some : episode.round.redials.toList.any Redial.succeeds = true := by
          by_contra none
          refine unlost ⟨reported, fun redial member => ?_⟩
          exact Bool.eq_false_iff.mpr (fun succeeds => none (List.any_eq_true.mpr ⟨redial, member, succeeds⟩))
        obtain ⟨connected, connection, statement⟩ := connects some
        have environment (asked : strict) := (congrArg Option.isSome env).trans (diagnosed.whole asked).2.1
        exact { toSane := sane, statement, whole := fun asked => ⟨connected, environment asked, connection⟩ }
      · have none : episode.round.redials.toList.any Redial.succeeds = false :=
          List.any_eq_false.mpr (fun redial member => by simp [lost.2 redial member])
        refine fails none (fun empty => ?_)
        have length : episode.round.redials.toList.length = maxRetries := episode.round.redials.length_toList
        rw [empty] at length
        exact absurd length (by decide)

end Executing

def LosesFrom (pattern : Nat → Episode) (turn stop : Nat) : Prop :=
  ∃ later, turn ≤ later ∧ later < stop ∧ (∀ between, turn ≤ between → between < later → (pattern between).round.retried = true) ∧
    Lost (pattern later).round

section Calling

variable {strict : Prop} (procedure : Procedure) (pattern : Nat → Episode)

theorem loses_step (turn stop : Nat) (inside : turn < stop) : LosesFrom pattern turn stop ↔
    Lost (pattern turn).round ∨ (pattern turn).round.retried = true ∧ LosesFrom pattern (turn + 1) stop := by
  constructor
  · rintro ⟨later, above, below, reached, lost⟩
    by_cases same : later = turn
    · exact .inl (same ▸ lost)
    · have retried := reached turn (le_refl _) (by omega)
      exact .inr ⟨retried, later, by omega, below, fun between above => reached between (by omega), lost⟩
  · rintro (lost | ⟨retried, later, above, below, reached, lost⟩)
    · exact ⟨turn, le_refl _, inside, fun between above below => absurd below (Nat.not_lt.mpr above), lost⟩
    · exact ⟨later, by omega, below, reached_succ (fun turn => (pattern turn).round) turn later retried reached, lost⟩

theorem retry_loop_up (left turn : Nat) (link : Link) (up : Up strict link) :
    (¬ LosesFrom pattern turn (turn + left) → Up strict (retryLoop procedure pattern left turn link).1) ∧
      (LosesFrom pattern turn (turn + left) → ∃ call ∈ (retryLoop procedure pattern left turn link).1.calls, ¬ call.Proper) := by
  induction left generalizing turn link with
  | zero =>
      refine ⟨fun _ => up, fun soon => ?_⟩
      obtain ⟨later, above, below, _⟩ := soon
      exact absurd below (Nat.not_lt.mpr above)
  | succ left ih =>
      have issued := up_issue up procedure (pattern turn).round.attempt
      rw [loses_step pattern turn (turn + (left + 1)) (by omega), show turn + (left + 1) = turn + 1 + left by omega, retryLoop]
      simp only
      cases reported : (pattern turn).round.attempt.report with
      | success =>
          have ends : (pattern turn).round.retried = false := by rw [Round.retried, reported]
          have unlost : ¬ Lost (pattern turn).round := fun lost => absurd (reported.symm.trans lost.1) (by simp)
          refine ⟨fun _ => ?_, fun loses => ?_⟩
          · simp only
            split
            · exact up_close (up_call issued .fetch)
            · exact up_close issued
          · rw [ends] at loses
            exact absurd loses (not_or.mpr ⟨unlost, fun both => absurd both.1 (by simp)⟩)
      | error diagnosis =>
          have diagnosed := up_call issued .getDiagRec
          obtain ⟨answer, _, keeps, loses⟩ := check_failover_up diagnosed (pattern turn) diagnosis reported
          simp only [answer]
          cases retried : (pattern turn).round.retried with
          | true =>
              have unlost : ¬ Lost (pattern turn).round := fun lost => absurd ((lost_unanswered _ lost).symm.trans retried) (by simp)
              obtain ⟨stays, breaks⟩ := ih (turn + 1) _ (keeps unlost)
              exact ⟨fun safe => stays (fun loses => safe (.inr ⟨rfl, loses⟩)), fun either => breaks (either.resolve_left unlost).2⟩
          | false =>
              refine ⟨fun safe => up_close (keeps (fun lost => safe (.inl lost))), fun either => ?_⟩
              have lost := either.resolve_right (fun both => absurd both.1 (by simp))
              exact close_bare (loses lost)

end Calling

def Link.view (link : Link) : Connection := ⟨link.connected, link.hStmt.isSome⟩

section Views

variable {strict : Prop} {link : Link}

theorem reconnect_view (sane : Sane strict link) (redial : Redial) :
    (reconnect redial link).1.view = (DbConnection.reconnect link.view redial).1 ∧
      (reconnect redial link).2 = (DbConnection.reconnect link.view redial).2 := by
  obtain ⟨attempted, bare⟩ := reconnect_attempted sane redial
  rw [attempted.answer, DbConnection.reconnect, Link.view]
  cases succeeds : redial.succeeds with
  | true =>
      obtain ⟨connected, _, statement⟩ := attempted.up succeeds
      rw [connected, statement]
      exact ⟨rfl, rfl⟩
  | false =>
      rw [(attempted.down succeeds).1, bare succeeds]
      exact ⟨rfl, rfl⟩

theorem reconnect_loop_view (redials : List Redial) (sane : Sane strict link) :
    (reconnectLoop redials link).1.view = (DbConnection.reconnectLoop redials link.view).1 := by
  induction redials generalizing link with
  | nil => rfl
  | cons redial rest ih =>
      obtain ⟨view, answer⟩ := reconnect_view sane redial
      have attempted := (reconnect_attempted sane redial).1
      rw [reconnectLoop, DbConnection.reconnectLoop]
      simp only [answer]
      split
      · exact view
      · rw [ih attempted.sane, view]

theorem issue_view (procedure : Procedure) (attempt : Attempt) : (issue procedure attempt link).view = link.view := by
  rw [issue]
  cases procedure.binds <;> cases attempt.executes <;> rfl

theorem set_initial_view (zoneSet : Bool) (session : Option Handle) :
    (setInitialSessionState zoneSet (link.freshSession session)).view = link.view := by
  have fresh : (link.freshSession session).view = link.view := by
    cases session <;> rfl
  have set (link : Link) : link.setZone.view = link.view := by
    rw [Link.setZone]
    split <;> rfl
  rw [setInitialSessionState, ← fresh]
  split
  · cases zoneSet with
    | true => exact set _
    | false => rfl
  · rfl

theorem check_failover_view (sane : Sane strict link) (statement : link.hStmt.isSome) (episode : Episode) (diagnosis : Diagnosis) :
    (checkFailoverState diagnosis episode link).1.view =
      (DbConnection.checkFailoverState link.view diagnosis episode.round.redials).1 := by
  cases diagnosis with
  | failover => exact set_initial_view episode.zoneSet _
  | readOnly => rfl
  | other => rfl
  | connectionLost =>
      obtain ⟨handle, held⟩ := Option.isSome_iff_exists.mp statement
      obtain ⟨session, node⟩ := sane.stmt handle held
      have diagnosed := call_live sane .getDiagRec handle _ node
      rw [← held] at diagnosed
      have start : Sane strict { link.call .getDiagRec link.hStmt with connected := false } :=
        { fresh := diagnosed.fresh, env := diagnosed.env, dbc := diagnosed.dbc, stmt := diagnosed.stmt, proper := diagnosed.proper }
      exact reconnect_loop_view episode.round.redials.toList start

variable {Db Row : Type} (proc : Db → Db × Row) (processResult : Option (Row → Bool)) (procedure : Procedure) (pattern : Nat → Episode)

-- Both models of the call agree on the connection it leaves.
theorem retry_loop_view (left turn : Nat) (up : Up strict link) (state : Progress Db Row) (same : state.conn = link.view) :
    (retryLoop procedure pattern left turn link).1.view =
      (DbConnection.retryLoop proc processResult (fun turn => (pattern turn).round) left turn state).1.conn := by
  induction left generalizing turn link state with
  | zero => exact same.symm
  | succ left ih =>
      have issued := up_issue up procedure (pattern turn).round.attempt
      have viewed : (issue procedure (pattern turn).round.attempt link).view = link.view := issue_view procedure _
      have carried : (carryOut proc (pattern turn).round.attempt state).conn = link.view := by
        rw [carryOut]
        split <;> exact same
      rw [retryLoop, DbConnection.retryLoop]
      simp only
      cases reported : (pattern turn).round.attempt.report with
      | success =>
          cases processResult <;> simp only <;> split <;> exact viewed.trans carried.symm
      | error diagnosis =>
          have diagnosed := up_call issued .getDiagRec
          obtain ⟨answer, _, keeps, _⟩ := check_failover_up diagnosed (pattern turn) diagnosis reported
          have view := check_failover_view diagnosed.toSane diagnosed.statement (pattern turn) diagnosis
          have before : ((issue procedure (pattern turn).round.attempt link).call .getDiagRec
              (issue procedure (pattern turn).round.attempt link).hStmt).view = (carryOut proc (pattern turn).round.attempt state).conn :=
            viewed.trans carried.symm
          rw [before] at view
          have answers := check_failover_answer (pattern turn).round (carryOut proc (pattern turn).round.attempt state).conn diagnosis reported
          simp only [answer, answers]
          cases retried : (pattern turn).round.retried with
          | false => exact view
          | true =>
              have unlost : ¬ Lost (pattern turn).round := fun lost => absurd ((lost_unanswered _ lost).symm.trans retried) (by simp)
              exact ih (turn + 1) (keeps unlost) _ view.symm

theorem execute_proc_view (db : Db) (standing : link.connected = true → Up strict link) : (executeProc procedure pattern link).1.view =
    (DbConnection.executeProc proc processResult (fun turn => (pattern turn).round) link.view db).1.conn := by
  rw [executeProc, DbConnection.executeProc]
  cases ready : link.connected && link.hStmt.isSome with
  | false =>
      rw [show (link.view.connected && link.view.stmt) = false from ready]
      rfl
  | true =>
      rw [show (link.view.connected && link.view.stmt) = true from ready]
      exact retry_loop_view proc processResult procedure pattern maxRetries 0 (standing (Bool.and_eq_true_iff.mp ready).1) { conn := link.view, db } rfl

end Views

-- A connection that says it is connected has its handles, and the driver was
-- given no handle that it should not have been given.
structure Sound (link : Link) : Prop where
  whole : link.connected = true → link.passing link.hEnv = .live ∧ link.passing link.hDbc = .live ∧ link.passing link.hStmt = .live
  proper : ∀ call ∈ link.calls, call.Proper

def Loses (pattern : Nat → Episode) : Prop :=
  ∃ turn < maxRetries, (∀ earlier < turn, (pattern earlier).round.retried = true) ∧ Lost (pattern turn).round

-- Connect does not fail where there is a connection already, and ExecuteProc does
-- not lose the one there is for good.
def keepsHandles (link : Link) : Request → Prop
  | .connect dial => link.connected = true → dial.succeeds = true
  | .disconnect => True
  | .executeProc _ pattern => (link.connected && link.hStmt.isSome) = true → ¬ Loses pattern

structure Standing (link : Link) : Prop extends Sane True link where
  whole : link.connected = true → link.hEnv.isSome ∧ link.hDbc.isSome ∧ link.hStmt.isSome

section Runs

variable {link : Link}

theorem loses_from_start (pattern : Nat → Episode) : LosesFrom pattern 0 (0 + maxRetries) ↔ Loses pattern := by
  rw [Nat.zero_add]
  constructor
  · rintro ⟨turn, _, below, reached, lost⟩
    exact ⟨turn, below, fun earlier => reached earlier (Nat.zero_le _), lost⟩
  · rintro ⟨turn, below, reached, lost⟩
    exact ⟨turn, Nat.zero_le _, below, fun earlier _ => reached earlier, lost⟩

theorem standing_sound (standing : Standing link) : Sound link where
  whole := by
    intro connected
    obtain ⟨environment, connection, statement⟩ := standing.whole connected
    obtain ⟨env, hEnv⟩ := Option.isSome_iff_exists.mp environment
    obtain ⟨dbc, hDbc⟩ := Option.isSome_iff_exists.mp connection
    obtain ⟨stmt, hStmt⟩ := Option.isSome_iff_exists.mp statement
    obtain ⟨_, first⟩ := standing.env env hEnv
    obtain ⟨_, second⟩ := standing.dbc dbc hDbc
    obtain ⟨_, third⟩ := standing.stmt stmt hStmt
    rw [hEnv, hDbc, hStmt]
    exact ⟨passing_live env _ first, passing_live dbc _ second, passing_live stmt _ third⟩
  proper := standing.proper trivial

theorem up_standing (up : Up True link) : Standing link := by
  obtain ⟨_, environment, connection⟩ := up.whole trivial
  exact { toSane := up.toSane, whole := fun _ => ⟨environment, connection, up.statement⟩ }

theorem standing_up (standing : Standing link) (connected : link.connected = true) : Up True link := by
  obtain ⟨environment, connection, statement⟩ := standing.whole connected
  exact { toSane := standing.toSane, statement, whole := fun _ => ⟨connected, environment, connection⟩ }

theorem connect_attempted {strict : Prop} (sane : Sane strict link) (dial : Dial) : Sane strict (connect dial link).1 ∧
    (dial.succeeds = true → Up strict (connect dial link).1) ∧
      (dial.succeeds = false → (connect dial link).1.connected = link.connected ∧
        ((connect dial link).1.hEnv = none ∨ (connect dial link).1.hDbc = none)) := by
  have environment := alloc_env_sane sane dial.environment
  rw [connect, Dial.succeeds, Redial.succeeds]
  cases env : dial.environment with
  | false =>
      rw [env] at environment
      exact ⟨environment, nofun, fun _ => ⟨rfl, .inl rfl⟩⟩
  | true =>
      rw [env] at environment
      have attributed := call_live environment .setEnvAttr link.next _ (alloc_gives .env none true link.next rfl)
      have allocated := alloc_dbc_sane attributed dial.redial.allocates
      cases allocates : dial.redial.allocates with
      | false =>
          rw [allocates] at allocated
          obtain ⟨parent, held⟩ := allocated.env link.next rfl
          exact ⟨call_live allocated .getDiagRec link.next _ held, nofun, fun _ => ⟨rfl, .inr rfl⟩⟩
      | true =>
          rw [allocates] at allocated
          have attempted := establish_attempted allocated (link.next + 1) rfl (fun link => link.call .getDiagRec link.hDbc) (.inr rfl) dial.redial
          rw [Bool.true_and, Bool.true_and]
          refine ⟨attempted.sane, fun succeeds => ?_, fun fails => ?_⟩
          · obtain ⟨connected, connection, statement⟩ := attempted.up succeeds
            have environment := congrArg Option.isSome attempted.env
            exact { toSane := attempted.sane, statement, whole := fun _ => ⟨connected, environment, connection⟩ }
          · obtain ⟨same, gone, _⟩ := attempted.down fails
            exact ⟨same, .inr gone⟩

theorem disconnect_standing (standing : Standing link) : Standing (disconnect link) := by
  have unprepared := drop_stmt_sane standing.toSane
  obtain ⟨dropped, bare, down⟩ := drop_dbc_sane unprepared.1 unprepared.2
  have gone := drop_env_sane dropped bare down
  exact { fresh := gone.fresh, env := gone.env, dbc := gone.dbc, stmt := gone.stmt, proper := gone.proper, whole := nofun }

theorem step_standing_iff (request : Request) (standing : Standing link) :
    (keepsHandles link request → Standing (step link request)) ∧ (¬ keepsHandles link request → ¬ Sound (step link request)) := by
  cases request with
  | disconnect => exact ⟨fun _ => disconnect_standing standing, fun breaks => absurd trivial breaks⟩
  | connect dial =>
      obtain ⟨sane, succeeds, fails⟩ := connect_attempted standing.toSane dial
      cases result : dial.succeeds with
      | true => exact ⟨fun _ => up_standing (succeeds result), fun breaks => absurd (fun _ => result) breaks⟩
      | false =>
          obtain ⟨same, missing⟩ := fails result
          refine ⟨fun keeps => { toSane := sane, whole := fun connected => ?_ }, fun breaks sound => ?_⟩
          · exact absurd ((keeps (same.symm.trans connected)).symm.trans result) nofun
          · have connected : link.connected = true := by
              by_contra off
              exact breaks (fun on => absurd on off)
            obtain ⟨env, dbc, _⟩ := sound.whole (same.trans connected)
            rcases missing with none | none
            · rw [step, none] at env
              exact absurd env nofun
            · rw [step, none] at dbc
              exact absurd dbc nofun
  | executeProc procedure pattern =>
      rw [step, executeProc]
      cases ready : link.connected && link.hStmt.isSome with
      | false =>
          have keeps : keepsHandles link (.executeProc procedure pattern) := fun held => absurd (ready.symm.trans held) nofun
          exact ⟨fun _ => standing, fun breaks => absurd keeps breaks⟩
      | true =>
          have up := standing_up standing (Bool.and_eq_true_iff.mp ready).1
          obtain ⟨stays, breaks⟩ := retry_loop_up procedure pattern maxRetries 0 link up
          rw [loses_from_start] at stays breaks
          refine ⟨fun keeps => up_standing (stays (keeps ready)), fun loses sound => ?_⟩
          have lost : Loses pattern := by
            by_contra safe
            exact loses (fun _ => safe)
          obtain ⟨call, made, improper⟩ := breaks lost
          exact improper (sound.proper call made)

theorem handles_sound_iff (requests : List Request) :
    Machine.Throughout step Sound {} requests ↔ Machine.Guarded step keepsHandles {} requests := by
  apply Machine.throughout_iff_guarded step keepsHandles Standing
  · exact fun link standing => standing_sound standing
  · exact fun link request standing keeps => (step_standing_iff request standing).1 keeps
  · exact fun link request standing breaks => (step_standing_iff request standing).2 breaks
  · exact { fresh := fun _ _ => rfl, env := nofun, dbc := nofun, stmt := nofun, proper := nofun, whole := nofun }

def losesForGood : List Request :=
  [.connect ⟨true, ⟨true, true, true⟩⟩, .executeProc ⟨false, none⟩ (fun _ =>
    { round := { attempt := { executes := false, report := .error .connectionLost, honest := nofun },
                 redials := Vector.replicate maxRetries ⟨true, false, false⟩ }, zoneSet := false })]

def connectsAgain : List Request := [.connect ⟨true, ⟨true, true, true⟩⟩, .connect ⟨true, ⟨true, false, false⟩⟩]

theorem bad_paths_unsound :
    ¬ Machine.Throughout step Sound {} losesForGood ∧ ¬ Machine.Throughout step Sound {} connectsAgain := by
  constructor
  · intro holds
    have sound := Machine.throughout_run step Sound {} losesForGood [] holds
    have closes : (⟨.closeCursor, .null⟩ : ApiCall) ∈ (Machine.run step {} losesForGood).calls := by decide +kernel
    exact (sound.proper _ closes).given rfl (.inr (.inr (.inl rfl)))
  · intro holds
    have sound := Machine.throughout_run step Sound {} connectsAgain [] holds
    have half : (Machine.run step {} connectsAgain).connected = true ∧ (Machine.run step {} connectsAgain).hDbc = none := by decide +kernel
    have live := (sound.whole half.1).2.1
    rw [half.2] at live
    exact absurd live nofun

end Runs

end Odbc

end MmorpgSimulator
