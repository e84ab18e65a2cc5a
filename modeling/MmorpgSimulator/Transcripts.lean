import MmorpgSimulator.WellFormed
import MmorpgSimulator.Logins

set_option autoImplicit false

namespace MmorpgSimulator

-- What 64-bit counters and columns and NUL-terminated names can hold, in a process that lives.
structure Storable (s : ServerState) : Prop where
  alive : s.fault = none
  created : s.db.characters.nextUid ≤ 256 ^ 8
  accounts : ∀ row ∈ s.db.accounts, row.accountUid < 256 ^ 8
  names : ∀ row ∈ s.db.characters.rows, 0 ∉ row.charName

-- The tables only grow: no number is taken back, and no name changed.
structure Extended (base people : List AccountRow × CharacterTable) : Prop where
  accounts : ∀ row ∈ base.1, ∃ later ∈ people.1, later.accountUid = row.accountUid
  counter : base.2.nextUid ≤ people.2.nextUid
  names : ∀ row ∈ base.2.rows, ∃ later ∈ people.2.rows, later.charName = row.charName

-- What the text of a request may not hold; no request that is read off a packet does.
def Request.Legible : Request → Prop
  | .chat req => 0 ∉ req.message
  | _ => True

def Input.Legible (input : Input) : Prop := ∀ sid request, input.event = .packet sid request → request.Legible

structure Tellable (created : Nat) (s : ServerState) : Prop where
  people : ∀ sid, (s.player sid).Decent
  fitted : Fitted s
  parties : PartyCount created s

section Growth

theorem extended_refl (people : List AccountRow × CharacterTable) : Extended people people :=
  ⟨fun row listed => ⟨row, listed, rfl⟩, Nat.le_refl _, fun row listed => ⟨row, listed, rfl⟩⟩

theorem extended_enrolment (base : List AccountRow × CharacterTable) : Enrolment (Extended base) where
  login := by
    intro db channelId extended
    simp only [Database.spAccountLogin]
    split
    · refine ⟨fun row listed => ?_, extended.counter, extended.names⟩
      obtain ⟨later, here, same⟩ := extended.accounts row listed
      exact ⟨later, List.mem_append_left _ here, same⟩
    · exact extended
  create := by
    intro db accountUid charName charType result created extended
    rw [Database.spCharacterCreate, Option.ite_none_left_eq_some, Option.some.injEq] at created
    obtain ⟨_, rfl⟩ := created
    refine ⟨fun row listed => ?_, Nat.le_succ_of_le extended.counter, fun row listed => ?_⟩
    · obtain ⟨later, here, same⟩ := extended.accounts row listed
      exact ⟨_, List.mem_map_of_mem here, same⟩
    · obtain ⟨later, here, same⟩ := extended.names row listed
      exact ⟨later, List.mem_append_left _ here, same⟩
  attend := by
    intro db charUid extended
    simp only [Database.spAttendanceCheck]
    split
    · exact extended
    · refine ⟨extended.accounts, extended.counter, fun row listed => ?_⟩
      obtain ⟨later, here, same⟩ := extended.names row listed
      exact ⟨_, List.mem_map_of_mem here, same⟩

variable (data : GameData) (s : ServerState) (input : Input)

theorem storable_before (storable : Storable (step data s input)) : Storable s := by
  have extended := (extended_enrolment (peopleOf s.db)).step data s input (extended_refl _)
  refine ⟨?_, extended.counter.trans storable.created, fun row listed => ?_,
    fun row listed => ?_⟩
  · cases dead : s.fault with
    | none => rfl
    | some fault =>
        have alive := storable.alive
        rw [step_dead data s input fault dead, dead] at alive
        exact absurd alive nofun
  · obtain ⟨later, here, same⟩ := extended.accounts row listed
    exact same ▸ storable.accounts later here
  · obtain ⟨later, here, same⟩ := extended.names row listed
    exact same ▸ storable.names later here

end Growth

section Logins

variable (data : GameData) (accountId : Bytes)

theorem atoll_bound : atoll accountId < 2 ^ 63 := by
  rw [atoll]
  split <;> omega

theorem channel_id_bound : channelIdOf data accountId < 256 ^ 8 := by
  have bound := atoll_bound accountId
  rw [channelIdOf]
  split <;> omega

theorem login_account_bound (db : Database) (outcome : DbOutcome) (accounts : ∀ row ∈ db.accounts, row.accountUid < 256 ^ 8) :
    loginAccount data db outcome ⟨accountId⟩ < 256 ^ 8 := by
  have bound := channel_id_bound data accountId
  rw [loginAccount, namedAccount]
  split
  · simp only
    split
    · exact bound
    · cases found : db.accounts.find? (fun row => row.channelType = 0 ∧ row.channelId = channelIdOf data accountId) with
      | none => decide
      | some row => exact accounts row (List.mem_of_find?_eq_some found)
  · exact bound

end Logins

section Seats

variable (t : ServerState) (sid other : SessionId)

theorem do_accept_player : (doAccept t).player other = t.player other := by
  rw [doAccept]
  split
  · rfl
  · rename_i absent
    simp only [ServerState.player, Std.ExtTreeMap.getElem?_insert]
    split
    · rename_i same
      rw [← Std.compare_eq_iff_eq.mp same, Std.ExtTreeMap.getElem?_eq_none absent]
      rfl
    · rfl

theorem set_unconnected_player : (setUnconnected t sid).player other = t.player other := by
  simp only [ServerState.player, setUnconnected, Std.ExtTreeMap.getElem?_modify]
  split
  · rename_i same
    rw [← Std.compare_eq_iff_eq.mp same]
    cases t.sessions[sid]? <;> rfl
  · rfl

end Seats

section Steps

variable (data : GameData) (legible : data.Legible) {created : Nat} {t : ServerState} (tellable : Tellable created t) (sid : SessionId)

theorem parties_small (s : ServerState) (parties : PartyCount created s) (index : UInt32) : (s.party.membersOf index).length ≤ maxParty := by
  cases present : s.party.parties[index]? with
  | none => simp [PartyState.membersOf, present]
  | some found => exact PartyState.members_of_found s.party index found present ▸ (parties.sized index found present).2

include tellable

include legible in
theorem handle_good (before : Storable t) (request : Request) (clear : request.Legible) (after : Storable (handle data t sid request)) :
    Good t (handle data t sid request) := by
  have good := Good.refl tellable.people
  cases request with
  | login req =>
      exact on_login_good data good sid req (login_account_bound data req.accountId t.db t.outcome before.accounts) before.alive after.alive
        before.created before.names
  | charList =>
      exact send_char_list_good good sid (char_list_proper t sid before.alive after.alive before.created before.names)
  | charCreate req => exact on_char_create_good data good sid req before.alive after.alive after.created after.names
  | charSelect req => exact on_char_select_good data legible good sid req tellable.fitted before.created before.names
  | attendanceCheck => exact on_attendance_check_good good sid
  | heartbeat => exact good.send sid _ ⟨trivial, trivial⟩
  | move req => exact on_move_good good sid req
  | attack req => exact on_attack_good data legible good sid req
  | chat req => exact on_chat_good good sid req clear
  | itemUse req => exact on_item_use_good data legible good sid req
  | itemEquip req => exact on_item_equip_good data legible good sid req
  | shopOpen => exact on_shop_open_good data legible good sid
  | shopBuy req => exact on_shop_buy_good data legible good sid req after.alive
  | shopSell req => exact on_shop_sell_good data legible good sid req after.alive
  | questList => exact on_quest_list_good data legible good sid
  | questAccept req => exact on_quest_accept_good data good sid req
  | questComplete req => exact on_quest_complete_good data legible good sid req
  | partyInvite req => exact on_party_invite_good good sid req
  | partyAccept req => exact on_party_accept_good good sid req
  | partyLeave => exact remove_from_party_good good sid (parties_small t tellable.parties)

theorem do_accept_good : Good t (doAccept t) := by
  refine (Good.refl tellable.people).blanks (doAccept t) ?_ (fun other => .inl ?_)
  · rw [doAccept]
    split <;> rfl
  · exact do_accept_player t other

theorem on_disconnect_good : Good t (onDisconnect (setUnconnected t sid) sid) := by
  have closing : Good t (setUnconnected t sid) := (Good.refl tellable.people).blanks _ rfl (fun other => .inl (set_unconnected_player t sid other))
  have removed := remove_from_party_good closing sid (parties_small t tellable.parties)
  have left : Good t (onPlayerDisconnect (setUnconnected t sid) sid) := removed.elsewhere _ rfl rfl
  have erased (u : ServerState) (h : Good t u) : Good t { u with sessions := u.sessions.erase sid } := by
    refine h.blanks _ rfl (fun other => ?_)
    simp only [ServerState.player, Std.ExtTreeMap.getElem?_erase]
    split
    · exact .inr rfl
    · exact .inl rfl
  rw [onDisconnect]
  refine erased _ ?_
  split
  · exact left
  · rename_i session known
    have uid : session.player.accountUid < 256 ^ 8 := by
      have decent := (left.people sid).account
      rwa [ServerState.player, known] at decent
    exact .ite (fun _ => left.broadcastExcept sid _ ⟨uid, trivial⟩) (fun _ => left)

include legible in
theorem step_good (before : Storable t) (input : Input) (clear : input.Legible) (after : Storable (step data t input)) :
    Good t (step data t input) := by
  have ready : Tellable created (facing t input) :=
    ⟨tellable.people, fitted_same (by rfl) tellable.fitted, tellable.parties.indexed, tellable.parties.sized, tellable.parties.numbered,
      tellable.parties.undivided, tellable.parties.counted⟩
  have storable : Storable (facing t input) := ⟨before.alive, before.created, before.accounts, before.names⟩
  have kept (u : ServerState) (good : Good (facing t input) u) : Good t u := ⟨good.said, good.people⟩
  rw [step_alive data t input before.alive] at after ⊢
  refine kept _ ?_
  cases event : input.event with
  | accept => exact do_accept_good ready
  | writeError sid =>
      exact (Good.refl ready.people).blanks _ rfl (fun other => .inl (set_unconnected_player (facing t input) sid other))
  | disconnect sid =>
      by_cases here : sid ∈ t.sessions
      · rw [disconnect_here data (facing t input) sid here]
        exact on_disconnect_good ready sid
      · rw [disconnect_absent data (facing t input) sid here]
        exact Good.refl ready.people
  | packet sid request =>
      rw [event] at after
      by_cases here : sid ∈ t.sessions
      · rw [handle_event_here data (facing t input) sid request here] at after ⊢
        exact handle_good data legible ready sid storable request (clear sid request event) after
      · rw [handle_event_absent data (facing t input) sid request here]
        exact Good.refl ready.people

include legible in
theorem step_tellable (before : Storable t) (input : Input) (clear : input.Legible) (after : Storable (step data t input))
    (few : (step data t input).party.nextPartyId ≠ t.party.nextPartyId → created + 1 < 2 ^ 32) :
    Tellable (created + if (step data t input).party.nextPartyId = t.party.nextPartyId then 0 else 1) (step data t input) where
  people := (step_good data legible tellable before input clear after).people
  fitted := step_fitted data t input tellable.fitted
  parties := step_party_count data t input created tellable.parties few

end Steps

section Runs

variable (data : GameData) (legible : data.Legible)

theorem storable_run_before (inputs : List Input) (s : ServerState) (storable : Storable (Machine.run (step data) s inputs)) :
    Storable s := by
  induction inputs generalizing s with
  | nil => exact storable
  | cons input rest ih => exact storable_before data s input (ih _ storable)

include legible in
theorem run_good (inputs : List Input) (clear : ∀ input ∈ inputs, input.Legible) {created : Nat} (s : ServerState) (tellable : Tellable created s)
    (few : created + partiesCreated data s inputs < 2 ^ 32) (storable : Storable (Machine.run (step data) s inputs)) :
    Good s (Machine.run (step data) s inputs) := by
  induction inputs generalizing s created with
  | nil => exact Good.refl tellable.people
  | cons input rest ih =>
      have after := storable_run_before data rest _ storable
      have before := storable_before data s input after
      have here := clear input List.mem_cons_self
      rw [partiesCreated, ← Nat.add_assoc] at few
      have next := step_tellable data legible tellable before input here after (fun changed => by
        rw [if_neg changed] at few
        omega)
      exact (step_good data legible tellable before input here after).trans (ih (fun later listed => clear later (List.mem_cons_of_mem input listed))
        _ next few storable)

theorem boot_tellable (db : Database) (draw : Nat → Nat) : Tellable 0 (boot db draw) where
  people := by
    intro sid
    rw [player_absent (boot db draw) sid (by simp [boot])]
    exact blank_decent
  fitted := boot_fitted db draw
  parties := ⟨PartyState.indexed_empty, PartyState.sized_empty, PartyState.numbered_empty, nofun, nofun⟩

variable (db : Database) (draw : Nat → Nat)

-- Whatever is said in a run fits the struct it is sent in, and shows nobody off the map.
include legible in
theorem messages_proper (inputs : List Input) (clear : ∀ input ∈ inputs, input.Legible)
    (few : partiesCreated data (boot db draw) inputs < 2 ^ 32) (storable : Storable (Machine.run (step data) (boot db draw) inputs)) :
    (∀ post ∈ (Machine.run (step data) (boot db draw) inputs).sent, post.2.Proper) ∧
      ∀ sid, ((Machine.run (step data) (boot db draw) inputs).player sid).Decent := by
  have good := run_good data legible inputs clear (boot db draw) (boot_tellable db draw) (by rwa [Nat.zero_add]) storable
  obtain ⟨extra, sent, proper⟩ := good.said
  have silent : (boot db draw).sent = [] := rfl
  rw [silent, List.nil_append] at sent
  exact ⟨sent ▸ proper, good.people⟩

def firstSteps : List Input :=
  [⟨.accept, [], []⟩, ⟨.packet 1 (.login ⟨text "1"⟩), [], []⟩, ⟨.packet 1 (.charSelect ⟨1⟩), [3, 4], []⟩,
    ⟨.packet 1 (.move ⟨1, 0⟩), [], []⟩, ⟨.packet 1 (.chat ⟨0, [], text "hello"⟩), [], []⟩]

theorem first_steps_storable : Storable (Machine.run (step emptyData) (boot twoCharacters (fun _ => 0)) firstSteps) where
  alive := by decide +kernel
  created := by decide +kernel
  accounts := by decide +kernel
  names := by decide +kernel

theorem first_steps_proper :
    ∀ post ∈ (Machine.run (step emptyData) (boot twoCharacters (fun _ => 0)) firstSteps).sent, post.2.Proper := by
  refine (messages_proper emptyData ⟨nofun, nofun⟩ twoCharacters (fun _ => 0) firstSteps ?_ (by decide +kernel) first_steps_storable).1
  intro input listed sid request asks
  simp only [firstSteps, List.mem_cons, List.not_mem_nil, or_false] at listed
  rcases listed with rfl | rfl | rfl | rfl | rfl <;> cases asks
  · trivial
  · trivial
  · trivial
  · show 0 ∉ text "hello"
    decide +kernel

end Runs

end MmorpgSimulator
