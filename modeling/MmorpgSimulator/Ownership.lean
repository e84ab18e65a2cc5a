import MmorpgSimulator.Entrance

set_option autoImplicit false

namespace MmorpgSimulator

def Database.ownerOf (db : Database) (charUid : CharUid) : Option AccountUid := (db.character charUid).map CharacterRow.accountUid

def Owned (s : ServerState) : Prop :=
  ∀ sid, (s.player sid).loggedIn = true → s.db.ownerOf (s.player sid).charUid = some (s.player sid).accountUid

section Accounts

def namedAccount (db : Database) (channelId : Nat) : AccountUid :=
  let account := db.accounts.find? (fun row => row.channelType = 0 ∧ row.channelId = channelId)
  let accountUid := (account.map AccountRow.accountUid).getD 0
  if accountUid = 0 then channelId else accountUid

def loginAccount (data : GameData) (db : Database) (outcome : DbOutcome) (login : CsLogin) : AccountUid :=
  if outcome = .ok then namedAccount db (channelIdOf data login.accountId) else channelIdOf data login.accountId

theorem channel_id_positive (data : GameData) (accountId : Bytes) : 0 < channelIdOf data accountId := by
  rw [channelIdOf]
  split
  · omega
  · rename_i positive
    omega

theorem account_login_uid (db : Database) (channelId : Nat) : (db.spAccountLogin 0 channelId).2.1 = namedAccount db channelId := by
  rw [Database.spAccountLogin, namedAccount]
  split <;> rfl

theorem account_login_characters (db : Database) (channelId : Nat) :
    (db.spAccountLogin 0 channelId).1.characters = db.characters := by
  simp only [Database.spAccountLogin]
  split <;> rfl

theorem named_account_positive (db : Database) (channelId : Nat) (positive : 0 < channelId) : 0 < namedAccount db channelId := by
  rw [namedAccount]
  split
  · exact positive
  · rename_i set
    exact Nat.pos_of_ne_zero set

end Accounts

section Handlers

variable (data : GameData) (s : ServerState) (sid : SessionId)

theorem login_reply (login : CsLogin) :
    (let reply := s.procReply (fun db => some (db.spAccountLogin 0 (channelIdOf data login.accountId)))
      let accountUid := (reply.row.map Prod.fst).getD 0
      if reply.success ∧ 0 < accountUid then accountUid else channelIdOf data login.accountId) = loginAccount data s.db s.outcome login := by
  have named := named_account_positive s.db _ (channel_id_positive data login.accountId)
  rw [loginAccount, ServerState.procReply]
  cases s.outcome with
  | ok => simp [account_login_uid, named]
  | failed => rfl
  | lost => rfl
  | noRow => rfl

theorem on_login_player (login : CsLogin) (here : sid ∈ s.sessions) : (onLogin data s sid login).player sid =
    { s.player sid with accountUid := loginAccount data s.db s.outcome login } := by
  rw [← login_reply]
  exact player_set_self _ sid _ here

theorem on_login_others (login : CsLogin) (other : SessionId) (apart : other ≠ sid) :
    (onLogin data s sid login).player other = s.player other :=
  player_set_other _ sid other _ apart

theorem char_list_db : (sendCharList s sid).db = s.db := proc_db_reads s (fun db => db.spCharacterList (s.player sid).accountUid)

theorem char_list_sessions : (sendCharList s sid).sessions = s.sessions := rfl

theorem on_login_characters (login : CsLogin) : (onLogin data s sid login).db.characters = s.db.characters := by
  have kept := proc_db_keeps s (fun db => some (db.spAccountLogin 0 (channelIdOf data login.accountId))) Database.characters
    (fun db result called => by
      obtain rfl := Option.some.inj called
      exact account_login_characters db _)
  exact (congrArg Database.characters (char_list_db _ sid)).trans kept

theorem add_keeps_owner (table : CharacterTable) (accountUid : AccountUid) (charName : Bytes) (charType : UInt8) (level : Int32)
    (exp : Int64) (charUid : CharUid) (row : CharacterRow) (found : table.rows.find? (fun row => row.charUid = charUid) = some row) :
    (table.add accountUid charName charType level exp).rows.find? (fun row => row.charUid = charUid) = some row := by
  rw [CharacterTable.add, List.find?_append, found]
  rfl

theorem create_keeps_owner (db : Database) (accountUid : AccountUid) (arguments : Option (Bytes × UInt8)) (result : Database × CharUid)
    (created : arguments.bind (fun bound => db.spCharacterCreate accountUid bound.1 bound.2) = some result) (charUid : CharUid)
    (owner : AccountUid) (owned : db.ownerOf charUid = some owner) : result.1.ownerOf charUid = some owner := by
  obtain ⟨bound, _, inserted⟩ := Option.bind_eq_some_iff.mp created
  obtain ⟨row, found, same⟩ := Option.map_eq_some_iff.mp owned
  rw [Database.spCharacterCreate] at inserted
  split at inserted
  · exact absurd inserted (by simp)
  · obtain rfl := Option.some.inj inserted
    exact Option.map_eq_some_iff.mpr ⟨row, add_keeps_owner db.characters _ _ _ _ _ charUid row found, same⟩

theorem proc_db_holds {Row : Type} (proc : Database → Option (Database × Row)) (property : Database → Prop)
    (keeps : ∀ result, proc s.db = some result → property result.1) (holds : property s.db) : property (s.procDb proc) := by
  cases called : proc s.db with
  | none => simpa only [ServerState.procDb, called] using holds
  | some result =>
      have after := keeps result called
      cases outcome : s.outcome <;> simp only [ServerState.procDb, called, outcome] <;> assumption

theorem on_char_create_fields (req : CsCharCreate) : (onCharCreate data s sid req).sessions = s.sessions ∧
    (onCharCreate data s sid req).db = s.procDb (fun db => (data.characterCreateArguments req.name req.charType).bind (fun arguments =>
      db.spCharacterCreate (s.player sid).accountUid arguments.1 arguments.2)) := by
  rw [onCharCreate]
  simp only
  split
  · exact ⟨char_list_sessions _ sid, char_list_db _ sid⟩
  · exact ⟨rfl, rfl⟩

theorem on_char_create_owned (req : CsCharCreate) (owned : Owned s) : Owned (onCharCreate data s sid req) := by
  obtain ⟨sessions, db⟩ := on_char_create_fields data s sid req
  intro other plays
  rw [player_same _ _ sessions other] at plays ⊢
  rw [db]
  apply proc_db_holds s _ (fun db => db.ownerOf (s.player other).charUid = some (s.player other).accountUid)
  · exact fun result created => create_keeps_owner s.db _ _ result created _ _ (owned other plays)
  · exact owned other plays

end Handlers

section Steps

variable (data : GameData) (s : ServerState)

theorem owned_same (t : ServerState) (players : ∀ sid, t.player sid = s.player sid) (rows : t.db.characters = s.db.characters)
    (owned : Owned s) : Owned t := by
  intro sid plays
  rw [players sid] at plays ⊢
  rw [Database.ownerOf, Database.character, rows]
  exact owned sid plays

theorem owned_departed (sid : SessionId) (owned : Owned s) : Owned (onDisconnect (setUnconnected s sid) sid) := by
  have gone := on_disconnect_departed (setUnconnected s sid) sid
  have idle := idle_set_unconnected s sid
  intro other plays
  by_cases leaver : other = sid
  · rw [leaver, gone.player] at plays
    exact absurd plays Bool.false_ne_true
  · rw [gone.players other leaver, idle.players other] at plays ⊢
    rw [gone.db, idle.db]
    exact owned other plays

def relogin (input : Input) : Option (SessionId × CsLogin) :=
  match input.event with
  | .packet sid (.login login) => if s.fault = none ∧ (s.player sid).loggedIn = true then some (sid, login) else none
  | _ => none

def keepsAccount (input : Input) : Prop :=
  ∀ entry ∈ relogin s input, loginAccount data s.db (input.answer 0) entry.2 = (s.player entry.1).accountUid

instance (input : Input) : Decidable (keepsAccount data s input) := inferInstanceAs (Decidable (∀ entry ∈ relogin s input, _))

theorem relogin_spec (input : Input) (sid : SessionId) (login : CsLogin) (again : (sid, login) ∈ relogin s input) :
    input.event = .packet sid (.login login) ∧ s.fault = none ∧ (s.player sid).loggedIn = true := by
  rw [relogin] at again
  split at again
  · rename_i asks
    simp only [Option.mem_def, Option.ite_none_right_eq_some, Option.some.injEq, Prod.mk.injEq] at again
    obtain ⟨⟨alive, plays⟩, rfl, rfl⟩ := again
    exact ⟨asks, alive, plays⟩
  · exact absurd again nofun

theorem keeps_account_spared (input : Input) (spared : ∀ sid login, input.event = .packet sid (.login login) → s.fault = none →
    (s.player sid).loggedIn = true → False) : keepsAccount data s input := by
  intro entry again
  obtain ⟨asks, alive, plays⟩ := relogin_spec s input entry.1 entry.2 again
  exact (spared entry.1 entry.2 asks alive plays).elim

theorem keeps_account_login (input : Input) (sid : SessionId) (login : CsLogin) (asks : input.event = .packet sid (.login login))
    (alive : s.fault = none) : keepsAccount data s input ↔
      ((s.player sid).loggedIn = true → loginAccount data s.db (input.answer 0) login = (s.player sid).accountUid) := by
  rw [keepsAccount, relogin, asks]
  by_cases plays : (s.player sid).loggedIn = true
  · simp [alive, plays]
  · simp [plays]

theorem login_owned_iff (sid : SessionId) (login : CsLogin) (here : sid ∈ s.sessions) (owned : Owned s) :
    Owned (onLogin data s sid login) ↔
      ((s.player sid).loggedIn = true → loginAccount data s.db s.outcome login = (s.player sid).accountUid) := by
  have own := on_login_player data s sid login here
  have rows (charUid : CharUid) : (onLogin data s sid login).db.ownerOf charUid = s.db.ownerOf charUid := by
    rw [Database.ownerOf, Database.character, on_login_characters]
    rfl
  constructor
  · intro after plays
    have same := after sid (by rw [own]; exact plays)
    rw [rows, own] at same
    exact Option.some.inj (same.symm.trans (owned sid plays))
  · intro keeps other plays
    by_cases self : other = sid
    · subst self
      rw [own] at plays
      rw [rows, own, keeps plays]
      exact owned other plays
    · rw [on_login_others data s sid login other self] at plays ⊢
      rw [rows]
      exact owned other plays

theorem login_owner (sid : SessionId) (req : CsCharSelect) (row : Int32 × Int64 × Int64)
    (found : (s.procReply (loginCall s sid req)).row = some row) : s.db.ownerOf req.charUid = some (s.player sid).accountUid := by
  cases called : loginCall s sid req s.db with
  | none => simp [ServerState.procReply, called] at found
  | some result =>
      cases known : s.db.character req.charUid with
      | none => simp [loginCall, Database.spCharacterLogin, known] at called
      | some entry =>
          simp only [loginCall, Database.spCharacterLogin, known, Option.ite_none_right_eq_some] at called
          rw [Database.ownerOf, known]
          exact congrArg some called.1

theorem select_owned (input : Input) (sid : SessionId) (req : CsCharSelect) (row : Int32 × Int64 × Int64)
    (selects : selecting s input = some (sid, req, row)) (owned : Owned s) : Owned (step data s input) := by
  obtain ⟨_, db, others, _⟩ := select_items data s sid req input row selects
  have own := select_player data s sid req row input selects
  intro other plays
  rw [db]
  by_cases self : other = sid
  · rw [self, own]
    exact login_owner (facing s input) sid req row (step_selecting data s sid req input row selects).2.2.1
  · rw [(others other self).1] at plays ⊢
    exact owned other plays

theorem missed_owned (sid : SessionId) (req : CsCharSelect) (missing : (s.procReply (loginCall s sid req)).row = none) (owned : Owned s) :
    Owned (onCharSelect data s sid req) := by
  rw [on_char_select_missing data s sid req missing]
  refine owned_same s _ (fun _ => rfl) ?_ owned
  exact congrArg Database.characters (login_call_db s sid req)

theorem selecting_found (input : Input) (sid : SessionId) (req : CsCharSelect) (row : Int32 × Int64 × Int64)
    (asks : input.event = .packet sid (.charSelect req)) (alive : s.fault = none) (here : sid ∈ s.sessions)
    (read : ((facing s input).procReply (loginCall s sid req)).row = some row) : selecting s input = some (sid, req, row) := by
  simp [selecting, asks, alive, here, read]

def EntryEvent : Event → Prop
  | .packet _ request =>
      match request with
      | .login _ | .charList | .charCreate _ | .charSelect _ => True
      | _ => False
  | _ => True

theorem packet_owned_iff (input : Input) (sid : SessionId) (request : Request) (asks : input.event = .packet sid request)
    (entry : EntryEvent input.event) (alive : s.fault = none) (here : sid ∈ s.sessions) (owned : Owned s) :
    Owned (step data s input) ↔ keepsAccount data s input := by
  have start : Owned (facing s input) := owned
  have spared (others : ∀ login, request ≠ .login login) : keepsAccount data s input := by
    refine keeps_account_spared data s input (fun named login logs _ _ => ?_)
    exact others login (Event.packet.inj (asks.symm.trans logs)).2
  have handled : step data s input = handle data (facing s input) sid request := by
    rw [step_alive data s input alive, asks, handle_event_here data (facing s input) sid request here]
  rw [asks] at entry
  cases request with
  | login login =>
      rw [handled, keeps_account_login data s input sid login asks alive]
      exact login_owned_iff data (facing s input) sid login here start
  | charList =>
      rw [handled]
      refine iff_of_true (owned_same (facing s input) _ (fun _ => rfl) ?_ start) (spared nofun)
      exact congrArg Database.characters (char_list_db (facing s input) sid)
  | charCreate req =>
      rw [handled]
      exact iff_of_true (on_char_create_owned data (facing s input) sid req start) (spared nofun)
  | charSelect req =>
      refine iff_of_true ?_ (spared nofun)
      cases read : ((facing s input).procReply (loginCall s sid req)).row with
      | none =>
          rw [handled]
          exact missed_owned data (facing s input) sid req read start
      | some row => exact select_owned data s input sid req row (selecting_found s input sid req row asks alive here read) owned
  | _ => exact absurd entry id

theorem step_owned_iff (input : Input) (entry : EntryEvent input.event) (owned : Owned s) :
    Owned (step data s input) ↔ keepsAccount data s input := by
  cases dead : s.fault with
  | some fault =>
      rw [step_dead data s input fault dead]
      exact iff_of_true owned (keeps_account_spared data s input (fun _ _ _ alive _ => absurd (dead.symm.trans alive) nofun))
  | none =>
      cases happens : input.event with
      | accept =>
          rw [step_alive data s input dead, happens]
          have idle := idle_do_accept (facing s input)
          refine iff_of_true ?_ (keeps_account_spared data s input (fun _ _ logs => absurd (happens.symm.trans logs) nofun))
          exact owned_same (facing s input) _ idle.players (congrArg Database.characters idle.db) owned
      | writeError sid =>
          rw [step_alive data s input dead, happens]
          have idle := idle_set_unconnected (facing s input) sid
          refine iff_of_true ?_ (keeps_account_spared data s input (fun _ _ logs => absurd (happens.symm.trans logs) nofun))
          exact owned_same (facing s input) _ idle.players (congrArg Database.characters idle.db) owned
      | disconnect sid =>
          rw [step_alive data s input dead, happens]
          refine iff_of_true ?_ (keeps_account_spared data s input (fun _ _ logs => absurd (happens.symm.trans logs) nofun))
          by_cases here : sid ∈ s.sessions
          · rw [disconnect_here data (facing s input) sid here]
            exact owned_departed (facing s input) sid owned
          · rwa [disconnect_absent data (facing s input) sid here]
      | packet sid request =>
          by_cases here : sid ∈ s.sessions
          · exact packet_owned_iff data s input sid request happens entry dead here owned
          · rw [step_alive data s input dead, happens, handle_event_absent data (facing s input) sid request here]
            refine iff_of_true owned (keeps_account_spared data s input (fun other login logs _ plays => ?_))
            rw [← (Event.packet.inj (happens.symm.trans logs)).1, player_absent s sid here] at plays
            exact Bool.false_ne_true plays

end Steps

section Runs

variable (data : GameData) (db : Database) (draw : Nat → Nat)

theorem boot_owned : Owned (boot db draw) := by
  intro sid plays
  rw [player_absent (boot db draw) sid (by simp [boot])] at plays
  exact absurd plays Bool.false_ne_true

theorem in_game_owned_iff (inputs : List Input) (entries : ∀ input ∈ inputs, EntryEvent input.event) :
    Machine.Throughout (step data) Owned (boot db draw) inputs ↔ Machine.Guarded (step data) (keepsAccount data) (boot db draw) inputs := by
  apply Machine.throughout_iff_guarded_among (step data) (keepsAccount data) Owned (fun input => EntryEvent input.event)
  · exact fun s owned => owned
  · exact fun s input entry owned keeps => (step_owned_iff data s input entry owned).mpr keeps
  · exact fun s input entry owned breaks after => breaks ((step_owned_iff data s input entry owned).mp after)
  · exact entries
  · exact boot_owned db draw

-- Session 1 enters the game with the character of account 1, and then logs in as account 2.
def loginInGame : List Input :=
  [⟨.accept, [], []⟩, ⟨.packet 1 (.login ⟨[49]⟩), [], []⟩, ⟨.packet 1 (.charSelect ⟨1⟩), [], []⟩, ⟨.packet 1 (.login ⟨[50]⟩), [], []⟩]

theorem login_in_game_disowns : (∀ input ∈ loginInGame, EntryEvent input.event) ∧
    ¬ Machine.Throughout (step emptyData) Owned (boot twoCharacters (fun _ => 0)) loginInGame := by
  refine ⟨by simp [loginInGame, EntryEvent], fun holds => ?_⟩
  have owned := Machine.throughout_run (step emptyData) _ _ loginInGame [] holds 1
  have player : ((Machine.run (step emptyData) (boot twoCharacters (fun _ => 0)) loginInGame).player 1).loggedIn = true ∧
      (Machine.run (step emptyData) (boot twoCharacters (fun _ => 0)) loginInGame).db.ownerOf
        ((Machine.run (step emptyData) (boot twoCharacters (fun _ => 0)) loginInGame).player 1).charUid = some 1 ∧
      ((Machine.run (step emptyData) (boot twoCharacters (fun _ => 0)) loginInGame).player 1).accountUid = 2 := by
    decide +kernel
  have same := owned player.1
  rw [player.2.1, player.2.2] at same
  exact absurd same (by decide)

theorem login_again_owned : Machine.Throughout (step emptyData) Owned (boot twoCharacters (fun _ => 0))
    (loginInGame.take 3 ++ [⟨.packet 1 (.login ⟨[49]⟩), [], []⟩]) :=
  (in_game_owned_iff emptyData twoCharacters (fun _ => 0) _ (by simp [loginInGame, EntryEvent])).mpr (by decide +kernel)

end Runs

end MmorpgSimulator
