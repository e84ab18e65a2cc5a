import MmorpgSimulator.Registry
import MmorpgSimulator.Replies
import MmorpgSimulator.PartyRuns
import MmorpgSimulator.Library.Ascending

set_option autoImplicit false

namespace MmorpgSimulator

section Tables

variable (db : Database)

def Database.charactersOf (accountUid : AccountUid) : List CharacterRow :=
  db.characters.rows.filter (fun row => row.accountUid = accountUid)

theorem stored_owner (row : CharacterRow) (stored : row ∈ db.characters.rows) : db.ownerOf row.charUid = some row.accountUid := by
  have distinct := db.characters.ascending.imp (fun rises => Nat.ne_of_lt rises)
  rw [Database.ownerOf, Database.character, Ascending.found CharacterRow.charUid db.characters.rows distinct row stored]
  rfl

def createdRow (accountUid : AccountUid) (charName : Bytes) (charType : UInt8) : CharacterRow :=
  ⟨db.characters.nextUid, accountUid, charName, charType, db.defaultLevel, db.defaultExp, 0⟩

theorem created_characters (accountUid : AccountUid) (charName : Bytes) (charType : UInt8) (result : Database × CharUid)
    (created : db.spCharacterCreate accountUid charName charType = some result) :
    result.2 = db.characters.nextUid ∧
      result.1.charactersOf accountUid = db.charactersOf accountUid ++ [createdRow db accountUid charName charType] := by
  rw [Database.spCharacterCreate] at created
  split at created
  · exact absurd created (by simp)
  · obtain rfl := Option.some.inj created
    refine ⟨rfl, ?_⟩
    simp [Database.charactersOf, CharacterTable.add, createdRow]

theorem older_apart (accountUid : AccountUid) (row : CharacterRow) (old : row ∈ db.charactersOf accountUid) :
    row.charUid ≠ db.characters.nextUid :=
  Nat.ne_of_lt (db.characters.issued row (List.mem_of_mem_filter old)).2

end Tables

section Listing

-- The fetch loop's rows: five at most, up to the first name that does not fit charName[21].
def fetchedRows (rows : List CharacterRow) : List CharacterRow := (rows.take 5).takeWhile (fun row => fetchable row.charName)

theorem fetched_last_iff (old : List CharacterRow) (fresh : CharacterRow) (apart : ∀ row ∈ old, row.charUid ≠ fresh.charUid) :
    (fresh.charUid ∈ (fetchedRows (old ++ [fresh])).map CharacterRow.charUid ∧
        (fetchedRows (old ++ [fresh])).any (fun row => !strncpyFits 20 row.charName 20) = false) ↔
      old.length < 5 ∧ ∀ row ∈ old ++ [fresh], row.charName.length < 20 := by
  constructor
  · rintro ⟨shown, copies⟩
    obtain ⟨row, fetched, same⟩ := List.mem_map.mp shown
    have inTime : row ∈ (old ++ [fresh]).take 5 := (List.takeWhile_sublist _).subset fetched
    have last : row = fresh := by
      rcases List.mem_append.mp (List.mem_of_mem_take inTime) with earlier | final
      · exact absurd same (apart row earlier)
      · exact List.mem_singleton.mp final
    subst last
    have few : old.length < 5 := by
      by_contra many
      rw [List.take_append_of_le_length (Nat.not_lt.mp many)] at inTime
      exact apart row (List.mem_of_mem_take inTime) rfl
    have short : (old ++ [row]).length ≤ 5 := by simpa using few
    -- A part from the front that reaches the last row is all of it.
    have whole : fetchedRows (old ++ [row]) = old ++ [row] := by
      have front : fetchedRows (old ++ [row]) <+: old ++ [row] := by
        rw [fetchedRows, List.take_of_length_le short]
        exact List.takeWhile_prefix _
      rcases List.prefix_concat_iff.mp front with all | part
      · exact all
      · exact absurd rfl (apart row (part.subset fetched))
    refine ⟨few, fun other member => ?_⟩
    rw [whole, List.any_eq_false] at copies
    have fits := copies other member
    rw [strncpyFits] at fits
    simp only [Bool.not_eq_true, Bool.not_eq_false', decide_eq_true_eq] at fits
    omega
  · rintro ⟨few, names⟩
    have short : (old ++ [fresh]).length ≤ 5 := by simpa using few
    have whole : fetchedRows (old ++ [fresh]) = old ++ [fresh] := by
      rw [fetchedRows, List.take_of_length_le short, List.takeWhile_eq_self_iff]
      intro row member
      exact decide_eq_true (Nat.le_of_lt (names row member))
    rw [whole]
    refine ⟨List.mem_map.mpr ⟨fresh, List.mem_append_right _ (List.mem_singleton_self fresh), rfl⟩, ?_⟩
    rw [List.any_eq_false]
    intro row member
    have name := names row member
    rw [strncpyFits]
    simp only [Bool.not_eq_true, Bool.not_eq_false', decide_eq_true_eq]
    omega

variable (s : ServerState) (sid : SessionId)

def rosterRead : List CharacterRow :=
  if s.outcome = .ok then fetchedRows (s.db.charactersOf (s.player sid).accountUid) else []

theorem char_list_read : ((s.procReply (fun db => some (db, db.spCharacterList (s.player sid).accountUid))).row.getD []).takeWhile
    (fun row => fetchable row.charName) = rosterRead s sid := by
  rw [ServerState.procReply, rosterRead]
  cases s.outcome <;> rfl

theorem send_char_list_sent :
    (sendCharList s sid).sent = s.sent ++ s.deliver sid (.charList { chars := (rosterRead s sid).map charListEntryOf }) := by
  rw [← char_list_read]
  rfl

theorem send_char_list_fault (alive : s.fault = none) : (sendCharList s sid).fault =
    if (rosterRead s sid).any (fun row => !strncpyFits 20 row.charName 20) then some .invalidParameter else none := by
  rw [← char_list_read]
  change (s.fault <|> _) = _
  rw [alive]
  rfl

theorem roster_owner (row : CharacterRow) (listed : row ∈ rosterRead s sid) : s.db.ownerOf row.charUid = some (s.player sid).accountUid := by
  rw [rosterRead] at listed
  split at listed
  · have inTime := (List.takeWhile_sublist _).subset listed
    obtain ⟨stored, own⟩ := List.mem_filter.mp (List.mem_of_mem_take inTime)
    rw [stored_owner s.db row stored, of_decide_eq_true own]
  · exact absurd listed List.not_mem_nil

end Listing

section Creation

variable (data : GameData) (s : ServerState) (sid : SessionId) (req : CsCharCreate) (input : Input)

def creationCall : Database → Option (Database × CharUid) :=
  fun db => (data.characterCreateArguments req.name req.charType).bind (fun arguments =>
    db.spCharacterCreate (s.player sid).accountUid arguments.1 arguments.2)

def grantedResult (charUid : CharUid) : ScCharCreateResult := { success := 1, charUid, message := text "Character created" }

def afterCreation (charUid : CharUid) : ServerState :=
  (s.executeProc (creationCall data s sid req)).1.send sid (.charCreateResult (grantedResult charUid))

theorem on_char_create_granted (charUid : CharUid) (read : (s.procReply (creationCall data s sid req)).row = some charUid)
    (positive : 0 < charUid) : onCharCreate data s sid req =
      sendCharList (afterCreation data s sid req charUid) sid := by
  have answered : (s.procReply (creationCall data s sid req)).success = true := by
    rw [ServerState.procReply] at read ⊢
    split <;> simp_all
  have row : (s.executeProc (fun db => (data.characterCreateArguments req.name req.charType).bind (fun arguments =>
      db.spCharacterCreate (s.player sid).accountUid arguments.1 arguments.2))).2.row = some charUid := read
  have success : (s.executeProc (fun db => (data.characterCreateArguments req.name req.charType).bind (fun arguments =>
      db.spCharacterCreate (s.player sid).accountUid arguments.1 arguments.2))).2.success = true := answered
  simp only [onCharCreate, row, success, Option.getD_some, true_and, if_pos positive]
  rfl

theorem on_char_create_refused (refused : (s.procReply (creationCall data s sid req)).row = none) :
    onCharCreate data s sid req = (s.executeProc (creationCall data s sid req)).1.send sid
      (.charCreateResult { success := 0, charUid := 0, message := text "Create failed" }) := by
  have row : (s.executeProc (fun db => (data.characterCreateArguments req.name req.charType).bind (fun arguments =>
      db.spCharacterCreate (s.player sid).accountUid arguments.1 arguments.2))).2.row = none := refused
  simp only [onCharCreate, row, Option.getD_none, Nat.lt_irrefl, and_false, if_false]
  rfl

theorem unhandled_silent (request : Request) (asks : input.event = .packet sid request)
    (unhandled : ¬ (s.fault = none ∧ sid ∈ s.sessions)) : (step data s input).sent = s.sent := by
  cases condition : s.fault with
  | some fault => rw [step_dead data s input fault condition]
  | none =>
      have absent : sid ∉ s.sessions := fun here => unhandled ⟨condition, here⟩
      rw [step_alive data s input condition, asks, handle_event_absent data (facing s input) sid request absent]
      rfl

theorem creation_read (charUid : CharUid) (read : (s.procReply (creationCall data s sid req)).row = some charUid) :
    ∃ bound result, data.characterCreateArguments req.name req.charType = some bound ∧
      s.db.spCharacterCreate (s.player sid).accountUid bound.1 bound.2 = some result ∧ charUid = result.2 ∧
        s.procDb (creationCall data s sid req) = result.1 := by
  cases called : creationCall data s sid req s.db with
  | none => simp [ServerState.procReply, called] at read
  | some result =>
      obtain ⟨bound, arguments, inserted⟩ := Option.bind_eq_some_iff.mp called
      cases outcome : s.outcome with
      | ok =>
          simp only [ServerState.procReply, called, outcome, Option.some.injEq] at read
          exact ⟨bound, result, arguments, inserted, read.symm, by simp only [ServerState.procDb, called, outcome]⟩
      | _ => simp [ServerState.procReply, called, outcome] at read

theorem created_inbox (charUid : CharUid) (unsent : s.sent = []) :
    inbox (sendCharList (afterCreation data s sid req charUid) sid).sent sid =
      if s.line sid = some true then [.charCreateResult (grantedResult charUid),
        .charList { chars := (rosterRead (afterCreation data s sid req charUid) sid).map charListEntryOf }] else [] := by
  have told : (afterCreation data s sid req charUid).sent = s.deliver sid (.charCreateResult (grantedResult charUid)) := by
    change s.sent ++ s.deliver sid _ = _
    rw [unsent, List.nil_append]
  have line : (afterCreation data s sid req charUid).line sid = s.line sid := rfl
  rw [send_char_list_sent, told, inbox_append, inbox_deliver, inbox_deliver, line]
  by_cases open_ : s.line sid = some true
  · rw [if_pos ⟨rfl, open_⟩, if_pos ⟨rfl, open_⟩, if_pos open_]
    rfl
  · rw [if_neg (fun both => open_ both.2), if_neg (fun both => open_ both.2), if_neg open_]
    rfl

theorem created_roster (charUid : CharUid) (bound : Bytes × UInt8) (created : Database × CharUid)
    (inserted : s.db.spCharacterCreate (s.player sid).accountUid bound.1 bound.2 = some created)
    (db : s.procDb (creationCall data s sid req) = created.1) :
    rosterRead (afterCreation data s sid req charUid) sid = if s.dbPlan.tail.headD .ok = .ok then
      fetchedRows (s.db.charactersOf (s.player sid).accountUid ++ [createdRow s.db (s.player sid).accountUid bound.1 bound.2]) else [] := by
  have rows := (created_characters s.db (s.player sid).accountUid bound.1 bound.2 created inserted).2
  have stored : (afterCreation data s sid req charUid).db = created.1 := db
  have account : ((afterCreation data s sid req charUid).player sid).accountUid = (s.player sid).accountUid := rfl
  rw [rosterRead, stored, account, rows]
  rfl

structure ListedAfter (t : ServerState) (result : ScCharCreateResult) : Prop where
  alive : t.fault = none
  shown : ∃ list, inbox t.sent sid = [.charCreateResult result, .charList list] ∧ result.charUid ∈ list.chars.map ScCharListEntry.charUid

-- The account has room in the list, and all its names room in the entries.
structure RosterFits : Prop where
  answered : input.answer 1 = .ok
  few : (s.db.charactersOf (s.player sid).accountUid).length < 5
  short : ∀ row ∈ s.db.charactersOf (s.player sid).accountUid, row.charName.length < 20
  named : ∀ bound, data.characterCreateArguments req.name req.charType = some bound → bound.1.length < 20

theorem created_listed_iff (result : ScCharCreateResult) (asks : input.event = .packet sid (.charCreate req))
    (told : .charCreateResult result ∈ inbox (step data { s with sent := [] } input).sent sid) (granted : result.success = 1) :
    ListedAfter sid (step data { s with sent := [] } input) result ↔ RosterFits data s sid req input := by
  let f := facing { s with sent := [] } input
  by_cases handled : s.fault = none ∧ sid ∈ s.sessions
  · have acts : step data { s with sent := [] } input = onCharCreate data f sid req := by
      rw [step_alive data { s with sent := [] } input handled.1, asks]
      exact handle_event_here data f sid _ handled.2
    rw [acts] at told ⊢
    cases read : (f.procReply (creationCall data f sid req)).row with
    | none =>
        rw [on_char_create_refused data f sid req read] at told
        have delivered : Message.charCreateResult result ∈ inbox (f.deliver sid (.charCreateResult
            { success := 0, charUid := 0, message := text "Create failed" })) sid := told
        rw [inbox_deliver] at delivered
        split at delivered
        · rw [Message.charCreateResult.inj (List.mem_singleton.mp delivered)] at granted
          exact absurd granted (by decide)
        · exact absurd delivered List.not_mem_nil
    | some charUid =>
        obtain ⟨bound, created, arguments, inserted, uid, db⟩ := creation_read data f sid req charUid read
        obtain ⟨fresh, rows⟩ := created_characters f.db (f.player sid).accountUid bound.1 bound.2 created inserted
        rw [on_char_create_granted data f sid req charUid read (uid ▸ fresh ▸ f.db.characters.positive)] at told ⊢
        have messages := created_inbox data f sid req charUid rfl
        have open_ : f.line sid = some true := by
          by_contra shut
          rw [messages, if_neg shut] at told
          exact absurd told List.not_mem_nil
        rw [if_pos open_] at messages
        have same : result = grantedResult charUid := by
          rw [messages] at told
          rcases List.mem_pair.mp told with reply | list
          · exact Message.charCreateResult.inj reply
          · exact absurd list (by simp)
        have roster := created_roster data f sid req charUid bound created inserted db
        have answer : f.dbPlan.tail.headD .ok = input.answer 1 := by
          rw [Input.answer, List.drop_one]
          rfl
        rw [answer] at roster
        let row := createdRow f.db (f.player sid).accountUid bound.1 bound.2
        have listing := fetched_last_iff (f.db.charactersOf (f.player sid).accountUid) row (older_apart f.db (f.player sid).accountUid)
        have uids (rows : List CharacterRow) : (rows.map charListEntryOf).map ScCharListEntry.charUid = rows.map CharacterRow.charUid := by
          rw [List.map_map]
          rfl
        have number : charUid = row.charUid := uid.trans fresh
        have fault := send_char_list_fault (afterCreation data f sid req charUid) sid handled.1
        constructor
        · rintro ⟨alive, list, shown, member⟩
          rw [messages] at shown
          obtain ⟨_, sent⟩ := List.cons.inj shown
          rw [← Message.charList.inj (List.cons.inj sent).1, same, uids, roster] at member
          rw [alive, roster] at fault
          by_cases answered : input.answer 1 = .ok
          · rw [if_pos answered] at member fault
            have copies : (fetchedRows (f.db.charactersOf (f.player sid).accountUid ++ [row])).any
                (fun row => !strncpyFits 20 row.charName 20) = false := by
              by_contra some
              rw [Bool.not_eq_false] at some
              rw [if_pos some] at fault
              exact absurd fault (by simp)
            rw [number] at member
            obtain ⟨few, short⟩ := listing.mp ⟨member, copies⟩
            refine ⟨answered, few, fun old listed => short old (List.mem_append_left _ listed), fun other equal => ?_⟩
            rw [arguments] at equal
            obtain rfl := Option.some.inj equal
            exact short row (List.mem_append_right _ (List.mem_singleton_self row))
          · rw [if_neg answered] at member
            exact absurd member List.not_mem_nil
        · rintro ⟨answered, few, short, named⟩
          have names : ∀ one ∈ f.db.charactersOf (f.player sid).accountUid ++ [row], one.charName.length < 20 := by
            intro one member
            rcases List.mem_append.mp member with old | last
            · exact short one old
            · rw [List.mem_singleton.mp last]
              exact named bound arguments
          obtain ⟨member, copies⟩ := listing.mpr ⟨few, names⟩
          rw [roster, if_pos answered, copies] at fault
          refine ⟨fault, _, same ▸ messages, ?_⟩
          rw [same, uids, roster, if_pos answered]
          exact number ▸ member
  · have silent := unhandled_silent data { s with sent := [] } sid input (.charCreate req) asks handled
    rw [silent] at told
    exact absurd told List.not_mem_nil

end Creation

section Selection

variable (data : GameData) (s : ServerState)

def OwnerIs (charUid : CharUid) (owner : AccountUid) (people : List AccountRow × CharacterTable) : Prop :=
  (people.2.rows.find? (fun row => row.charUid = charUid)).map CharacterRow.accountUid = some owner

theorem owner_enrolment (charUid : CharUid) (owner : AccountUid) : Enrolment (OwnerIs charUid owner) where
  login := by
    intro db channelId owned
    have rows := account_login_characters db channelId
    rw [OwnerIs, peopleOf, rows]
    exact owned
  create := fun db accountUid charName charType result created owned =>
    create_keeps_owner db accountUid (some (charName, charType)) result created charUid owner owned
  attend := by
    intro db rewarded owned
    simp only [Database.spAttendanceCheck]
    split
    · exact owned
    · rw [OwnerIs, peopleOf, CharacterTable.addGold, List.find?_map, Option.map_map]
      exact owned

theorem login_read_iff (sid : SessionId) (req : CsCharSelect) : (s.procReply (loginCall s sid req)).row.isSome ↔
    s.db.ownerOf req.charUid = some (s.player sid).accountUid ∧ s.outcome = .ok := by
  constructor
  · intro read
    obtain ⟨row, found⟩ := Option.isSome_iff_exists.mp read
    refine ⟨login_owner s sid req row found, ?_⟩
    rw [ServerState.procReply] at found
    split at found <;> simp_all
  · rintro ⟨owned, answered⟩
    obtain ⟨row, known, own⟩ := Option.map_eq_some_iff.mp owned
    have called : loginCall s sid req s.db = some (s.db, (row.level, row.exp, row.gold)) := by
      rw [loginCall, Database.spCharacterLogin, known]
      exact if_pos own
    rw [ServerState.procReply, called, answered]
    rfl

theorem selecting_iff (sid : SessionId) (req : CsCharSelect) (input : Input) (asks : input.event = .packet sid (.charSelect req))
    (alive : s.fault = none) (here : sid ∈ s.sessions) : (selecting s input).isSome ↔
      s.db.ownerOf req.charUid = some (s.player sid).accountUid ∧ input.answer 0 = .ok := by
  have handled : s.fault.isNone = true ∧ sid ∈ s.sessions := ⟨Option.isNone_iff_eq_none.mpr alive, here⟩
  rw [selecting, asks]
  simp only [if_pos handled, Option.isSome_map]
  exact login_read_iff (facing s input) sid req

def NoList (message : Message) : Prop := ∀ list, message ≠ .charList list

theorem roster_told (unsent : s.sent = []) (g : ServerState) (quiet : Speaks NoList s g) (owner sid : SessionId)
    (list : ScCharList) (told : .charList list ∈ inbox (sendCharList g owner).sent sid) (entry : ScCharListEntry) (shown : entry ∈ list.chars) :
    (sendCharList g owner).db.ownerOf entry.charUid = some ((sendCharList g owner).player sid).accountUid := by
  obtain ⟨extra, sent, spoken⟩ := quiet
  rw [unsent, List.nil_append] at sent
  rw [send_char_list_sent, inbox_append, inbox_deliver] at told
  rcases List.mem_append.mp told with earlier | delivered
  · rw [sent, mem_inbox] at earlier
    exact absurd rfl (spoken _ earlier list)
  · split at delivered
    · rename_i own
      rw [Message.charList.inj (List.mem_singleton.mp delivered)] at shown
      obtain ⟨row, listed, rfl⟩ := List.mem_map.mp shown
      rw [own.1, char_list_db]
      exact roster_owner g owner row listed
    · exact absurd delivered List.not_mem_nil

theorem handle_listed (owner sid : SessionId) (request : Request) (unsent : s.sent = []) (list : ScCharList)
    (told : .charList list ∈ inbox (handle data s owner request).sent sid) (entry : ScCharListEntry) (shown : entry ∈ list.chars) :
    (handle data s owner request).db.ownerOf entry.charUid = some ((handle data s owner request).player sid).accountUid := by
  obtain ⟨extra, sent, spoken⟩ := handle_speaks data s owner request
  have answers : request.Answers (.charList list) := by
    rw [sent, unsent, List.nil_append] at told
    exact spoken _ ((mem_inbox extra sid _).mp told)
  have start (t : ServerState) (sent : t.sent = s.sent) : Speaks NoList s t := (Speaks.refl s).same sent
  cases request with
  | login req => exact roster_told s unsent _ ((start _ (by rfl)).send owner _ (by exact fun _ => nofun)) owner sid list told entry shown
  | charList => exact roster_told s unsent s (Speaks.refl s) owner sid list told entry shown
  | charCreate req =>
      change .charList list ∈ inbox (onCharCreate data s owner req).sent sid at told
      change (onCharCreate data s owner req).db.ownerOf entry.charUid = some ((onCharCreate data s owner req).player sid).accountUid
      cases read : (s.procReply (creationCall data s owner req)).row with
      | none =>
          rw [on_char_create_refused data s owner req read] at told
          obtain ⟨more, refused, plain⟩ : Speaks NoList s ((s.executeProc (creationCall data s owner req)).1.send owner
              (.charCreateResult { success := 0, charUid := 0, message := text "Create failed" })) :=
            (start _ (by rfl)).send owner _ (by exact fun _ => nofun)
          rw [refused, unsent, List.nil_append, mem_inbox] at told
          exact absurd rfl (plain _ told list)
      | some charUid =>
          obtain ⟨bound, created, _, inserted, uid, _⟩ := creation_read data s owner req charUid read
          have fresh := (created_characters s.db (s.player owner).accountUid bound.1 bound.2 created inserted).1
          rw [on_char_create_granted data s owner req charUid read (uid ▸ fresh ▸ s.db.characters.positive)] at told ⊢
          have quiet : Speaks NoList s (afterCreation data s owner req charUid) := (start _ (by rfl)).send owner _ (by exact fun _ => nofun)
          exact roster_told s unsent _ quiet owner sid list told entry shown
  | _ => exact absurd answers id

theorem step_listed (input : Input) (sid : SessionId) (unsent : s.sent = []) (list : ScCharList)
    (told : .charList list ∈ inbox (step data s input).sent sid) (entry : ScCharListEntry) (shown : entry ∈ list.chars) :
    (step data s input).db.ownerOf entry.charUid = some ((step data s input).player sid).accountUid := by
  have silent (t : ServerState) (sent : t.sent = []) (told : .charList list ∈ inbox t.sent sid) : False := by
    rw [sent] at told
    exact absurd told List.not_mem_nil
  cases condition : s.fault with
  | some fault =>
      rw [step_dead data s input fault condition] at told
      exact (silent s unsent told).elim
  | none =>
      cases asks : input.event with
      | accept =>
          rw [step_alive data s input condition, asks] at told
          refine (silent _ ?_ told).elim
          rw [handleEvent, doAccept]
          split <;> exact unsent
      | writeError other =>
          rw [step_alive data s input condition, asks] at told
          exact (silent _ (by exact unsent) told).elim
      | disconnect other =>
          rw [step_alive data s input condition, asks] at told
          by_cases here : other ∈ s.sessions
          · rw [disconnect_here data (facing s input) other here] at told
            obtain ⟨extra, sent, spoken⟩ := on_disconnect_speaks (setUnconnected (facing s input) other) other
            have before : (setUnconnected (facing s input) other).sent = [] := unsent
            rw [sent, before, List.nil_append, mem_inbox] at told
            exact absurd (spoken _ told) id
          · rw [disconnect_absent data (facing s input) other here] at told
            exact (silent _ unsent told).elim
      | packet other request =>
          by_cases here : other ∈ s.sessions
          · have acts : step data s input = handle data (facing s input) other request := by
              rw [step_alive data s input condition, asks, handle_event_here data (facing s input) other request here]
            rw [acts] at told ⊢
            exact handle_listed data (facing s input) other sid request unsent list told entry shown
          · rw [unhandled_silent data s other input request asks (fun both => here both.2)] at told
            exact (silent s unsent told).elim

theorem created_selectable_iff (sid : SessionId) (input : Input) :
    let t := step data { s with sent := [] } input
    (∀ req result, input.event = .packet sid (.charCreate req) → .charCreateResult result ∈ inbox t.sent sid → result.success = 1 →
      (ListedAfter sid t result ↔ RosterFits data s sid req input)) ∧
    ∀ list entry, .charList list ∈ inbox t.sent sid → entry ∈ list.chars → ∀ between again,
      let later := Machine.run (step data) t between
      later.fault = none → sid ∈ later.sessions → again.event = .packet sid (.charSelect ⟨entry.charUid⟩) →
        ((selecting later again).isSome ↔ (later.player sid).accountUid = (t.player sid).accountUid ∧ again.answer 0 = .ok) := by
  intro t
  constructor
  · exact fun req result asks told granted => created_listed_iff data s sid req input result asks told granted
  · intro list entry told shown between again later alive here asks
    have owned := step_listed data { s with sent := [] } input sid rfl list told entry shown
    have kept : later.db.ownerOf entry.charUid = some (t.player sid).accountUid :=
      (owner_enrolment entry.charUid (t.player sid).accountUid).run data t between owned
    rw [selecting_iff later sid ⟨entry.charUid⟩ again asks alive here, kept, Option.some.injEq]
    exact and_congr_left (fun _ => eq_comm)

def signingIn : List Input := [⟨.accept, [], []⟩, ⟨.packet 1 (.login ⟨[49]⟩), [], []⟩]

def populated (count : Nat) : Database :=
  { twoCharacters with
    characters := (List.range count).foldl (fun table index => table.add 1 [UInt8.ofNat (65 + index)] 0 1 0) CharacterTable.empty }

def creation (name : Bytes) : Input := ⟨.packet 1 (.charCreate ⟨name, 0⟩), [], []⟩

theorem first_character_listed :
    let s := Machine.run (step emptyData) (boot (populated 0) (fun _ => 0)) signingIn
    let t := step emptyData { s with sent := [] } (creation [90])
    ListedAfter 1 t (grantedResult 1) ∧ (selecting t ⟨.packet 1 (.charSelect ⟨1⟩), [], []⟩).isSome := by
  intro s t
  have settled := created_selectable_iff emptyData s 1 (creation [90])
  have told : inbox t.sent 1 = [.charCreateResult (grantedResult 1), .charList { chars := [⟨1, [90], 0, 1⟩] }] := by decide +kernel
  have nobody : s.db.charactersOf (s.player 1).accountUid = [] := by decide +kernel
  constructor
  · refine (settled.1 ⟨[90], 0⟩ (grantedResult 1) rfl ?_ rfl).mpr ⟨rfl, ?_, ?_, ?_⟩
    · exact told ▸ List.mem_cons_self
    · rw [nobody]
      decide
    · rw [nobody]
      exact nofun
    · intro bound arguments
      obtain rfl : ([90], 0) = bound := Option.some.inj arguments
      decide
  · refine (settled.2 { chars := [⟨1, [90], 0, 1⟩] } ⟨1, [90], 0, 1⟩ ?_ List.mem_cons_self [] ⟨.packet 1 (.charSelect ⟨1⟩), [], []⟩ ?_ ?_ rfl).mpr ?_
    · exact told ▸ List.mem_cons_of_mem _ List.mem_cons_self
    · decide +kernel
    · decide +kernel
    · exact ⟨rfl, rfl⟩

-- The sixth character is created and not listed; a name of 20 bytes ends the process.
theorem sixth_character_unlisted :
    let crowded := Machine.run (step emptyData) (boot (populated 5) (fun _ => 0)) signingIn
    let empty := Machine.run (step emptyData) (boot (populated 0) (fun _ => 0)) signingIn
    let sixth := step emptyData { crowded with sent := [] } (creation [90])
    let long := step emptyData { empty with sent := [] } (creation (List.replicate 20 90))
    .charCreateResult (grantedResult 6) ∈ inbox sixth.sent 1 ∧ ¬ ListedAfter 1 sixth (grantedResult 6) ∧
      .charCreateResult (grantedResult 1) ∈ inbox long.sent 1 ∧ long.fault = some .invalidParameter ∧
        ¬ ListedAfter 1 long (grantedResult 1) := by
  intro crowded empty sixth long
  have five : (crowded.db.charactersOf (crowded.player 1).accountUid).length = 5 := by decide +kernel
  have sixthTold : .charCreateResult (grantedResult 6) ∈ inbox sixth.sent 1 := by decide +kernel
  have longTold : .charCreateResult (grantedResult 1) ∈ inbox long.sent 1 := by decide +kernel
  have died : long.fault = some .invalidParameter := by decide +kernel
  refine ⟨sixthTold, fun listed => ?_, longTold, died, fun listed => ?_⟩
  · have fits := (created_listed_iff emptyData crowded 1 ⟨[90], 0⟩ (creation [90]) (grantedResult 6) rfl sixthTold rfl).mp listed
    exact absurd (five ▸ fits.few) (by decide)
  · exact absurd (died.symm.trans listed.alive) nofun

end Selection

end MmorpgSimulator
