import MmorpgSimulator.PartyFrame

set_option autoImplicit false

namespace MmorpgSimulator

def ServerState.online (s : ServerState) : Set SessionId := {sid | sid ∈ s.sessions}

-- The acceptance an input carries out, by who accepts and whose invitation it is.
def answering (s : ServerState) (input : Input) : Option (SessionId × SessionId) :=
  match input.event with
  | .packet sid (.partyAccept req) =>
      if s.fault = none ∧ sid ∈ s.sessions ∧ req.accept ≠ 0 then
        ((s.party.pendingInvites[sid]?).filter (fun inviterId => inviterId ∈ s.sessions)).map (fun inviterId => (sid, inviterId))
      else none
  | _ => none

structure Settles (s s' : ServerState) (party' : PartyState) : Prop where
  party : s'.party = party'
  online : ∀ sid, sid ∈ s'.sessions ↔ sid ∈ s.sessions
  updates : ∀ (sid : SessionId) (update : ScPartyUpdate), (sid, Message.partyUpdate update) ∈ s'.sent →
    (sid, Message.partyUpdate update) ∈ s.sent ∨
      ∃ (partyId : UInt32) (found : Party), party'.parties[partyId]? = some found ∧
        update.memberCount = UInt8.ofNat found.members.length
  undivided : s.party.Divisible → s'.fault = some .divideByZero → s.fault = some .divideByZero

structure PartyStep (s : ServerState) (label : Option (SessionId × SessionId)) (s' : ServerState) : Prop where
  move : PartyMove s.party s.online label s'.party s'.online
  updates : ∀ (sid : SessionId) (update : ScPartyUpdate), (sid, Message.partyUpdate update) ∈ s'.sent →
    (sid, Message.partyUpdate update) ∈ s.sent ∨
      ∃ (partyId : UInt32) (found : Party), s'.party.parties[partyId]? = some found ∧
        update.memberCount = UInt8.ofNat found.members.length
  undivided : s.party.Divisible → s'.fault = some .divideByZero → s.fault = some .divideByZero

section Settling

variable {s s' : ServerState} {party' : PartyState}

theorem quiet_settles (h : Quiet s s') : Settles s s' s.party :=
  ⟨h.party, h.online, fun sid update sent => Or.inl (h.updates sid update sent), h.undivided⟩

theorem set_party_settles (s : ServerState) (party' : PartyState) : Settles s (s.setParty party') party' :=
  ⟨rfl, fun _ => Iff.rfl, fun _ _ sent => Or.inl sent, fun _ => id⟩

theorem settles_sends {extra : List (SessionId × Message)} (h : Settles s s' party')
    (announced : ∀ (sid : SessionId) (update : ScPartyUpdate), (sid, Message.partyUpdate update) ∈ extra →
      ∃ (partyId : UInt32) (found : Party), party'.parties[partyId]? = some found ∧
        update.memberCount = UInt8.ofNat found.members.length) :
    Settles s { s' with sent := s'.sent ++ extra } party' where
  party := h.party
  online := h.online
  updates := by
    intro sid update sent
    rcases List.mem_append.mp sent with old | fresh
    · exact h.updates sid update old
    · exact Or.inr (announced sid update fresh)
  undivided := h.undivided

theorem settles_send (h : Settles s s' party') (sid : SessionId) (message : Message) (other : NoUpdate message) :
    Settles s (s'.send sid message) party' := by
  apply settles_sends h
  intro receiver update fresh
  rw [← mem_deliver _ _ _ _ _ fresh] at other
  exact other.elim

theorem settles_fold (act : ServerState → SessionId → ServerState) (each : ∀ t sid, Settles s t party' → Settles s (act t sid) party')
    (members : List SessionId) (h : Settles s s' party') : Settles s (members.foldl act s') party' :=
  Machine.foldl_keeps act (fun t => Settles s t party') each members s' h

theorem send_party_update_settles (h : Settles s s' party') (partyId : UInt32) :
    Settles s (sendPartyUpdate s' partyId) party' := by
  unfold sendPartyUpdate
  cases present : s'.party.parties[partyId]? with
  | none => exact h
  | some found =>
      apply settles_fold _ _ found.members h
      intro t mid before
      apply settles_sends before
      intro sid update fresh
      have same : update = partyUpdateOf s' found.members := Message.partyUpdate.inj (mem_deliver _ _ _ _ _ fresh)
      exact ⟨partyId, found, h.party ▸ present, by rw [same]; rfl⟩

theorem remove_from_party_settles (s : ServerState) (sid : SessionId) :
    Settles s (removeFromParty s sid) (s.party.without sid) := by
  have moved := set_party_settles s (s.party.without sid)
  unfold removeFromParty
  cases placed : s.party.playerParty[sid]? with
  | none =>
      rw [PartyState.without_unplaced s.party sid placed]
      exact quiet_settles (Quiet.refl s)
  | some partyId =>
      simp only
      cases present : s.party.parties[partyId]? with
      | none => exact moved
      | some found =>
          simp only
          have told (charUid : CharUid) := settles_fold _ (fun t mid before => settles_send before mid (.partyLeave { charUid }) (by trivial))
            (found.members.filter (fun mid => mid ≠ sid)) moved
          split
          · cases last : (found.members.filter (fun mid => mid ≠ sid)).head? with
            | none => exact told _
            | some mid => exact settles_send (told _) mid _ (by trivial)
          · exact send_party_update_settles (told _) partyId

theorem join_party_settles (s : ServerState) (entered : PartyState) (sid : SessionId) (partyId : UInt32) :
    Settles s (joinParty (s.setParty entered) sid partyId)
      (if maxParty ≤ (entered.membersOf partyId).length then entered else entered.join partyId sid) := by
  by_cases full : maxParty ≤ (entered.membersOf partyId).length
  · have stays : joinParty (s.setParty entered) sid partyId = s.setParty entered := if_pos full
    rw [stays, if_pos full]
    exact set_party_settles s entered
  · have joins : joinParty (s.setParty entered) sid partyId = sendPartyUpdate (s.setParty (entered.join partyId sid)) partyId :=
      if_neg full
    rw [joins, if_neg full]
    exact send_party_update_settles (set_party_settles s _) partyId

theorem settles_step (label : Option (SessionId × SessionId)) (h : Settles s s' party')
    (move : PartyMove s.party s.online label party' s.online) : PartyStep s label s' where
  move := by
    have same : s'.online = s.online := Set.ext h.online
    rw [same, h.party]
    exact move
  updates := h.party ▸ h.updates
  undivided := h.undivided

theorem quiet_step (h : Quiet s s') : PartyStep s none s' := settles_step none (quiet_settles h) .stay

end Settling

section Handlers

variable (data : GameData) (s : ServerState)

theorem on_party_invite_step (indexed : s.party.Indexed) (sid : SessionId) (req : CsPartyInvite) :
    PartyStep s none (onPartyInvite s sid req) := by
  have start := Quiet.refl s
  have touched : (s.party.playerParty[sid]?).elim s s.touchParty = s := by
    cases placed : s.party.playerParty[sid]? with
    | none => rfl
    | some partyId => exact touch_party_present s partyId (indexed_present s.party indexed sid partyId placed)
  unfold onPartyInvite
  simp only [touched]
  split
  · exact quiet_step (start.send _ _ (by trivial))
  · split
    · exact quiet_step (start.send _ _ (by trivial))
    · rename_i target found
      by_cases self : target = sid
      · rw [if_pos self]
        exact quiet_step (start.send _ _ (by trivial))
      · rw [if_neg self]
        by_cases placed : target ∈ s.party.playerParty
        · rw [if_pos placed]
          exact quiet_step (start.send _ _ (by trivial))
        · rw [if_neg placed]
          apply settles_step none (settles_send (set_party_settles s _) target _ (by trivial))
          exact .invite sid target self placed

-- With an entry in the index the lookup after partyOf finds its party.
theorem entered_present (party : PartyState) (indexed : party.Indexed) (inviterId : SessionId) :
    (party.partyOf inviterId).2 ∈ (party.partyOf inviterId).1.parties := by
  obtain ⟨found, present⟩ := PartyState.party_of_present party inviterId indexed
  exact Std.ExtTreeMap.mem_iff_isSome_getElem?.mpr (by simp [present])

theorem on_party_accept_refused (sid : SessionId) (req : CsPartyAccept)
    (refused : ∀ inviterId : SessionId, s.party.pendingInvites[sid]? = some inviterId → req.accept = 0 ∨ inviterId ∉ s.sessions) :
    PartyStep s none (onPartyAccept s sid req) := by
  unfold onPartyAccept
  cases invited : s.party.pendingInvites[sid]? with
  | none => exact quiet_step (Quiet.refl s)
  | some inviterId =>
      have declined := settles_step none (set_party_settles s (s.party.withoutInvite sid)) (.decline sid)
      simp only
      by_cases no : req.accept = 0
      · rw [if_pos no]
        exact declined
      · have gone := (refused inviterId invited).resolve_left no
        rw [if_neg no]
        exact (if_pos gone).symm ▸ declined

theorem on_party_accept_answered (indexed : s.party.Indexed) (sid inviterId : SessionId) (req : CsPartyAccept)
    (yes : req.accept ≠ 0) (here : sid ∈ s.sessions) (invited : s.party.pendingInvites[sid]? = some inviterId)
    (there : inviterId ∈ s.sessions) : PartyStep s (some (sid, inviterId)) (onPartyAccept s sid req) := by
  have settled : Settles s (onPartyAccept s sid req) (s.party.answered sid inviterId) := by
    have entered := entered_present (s.party.withoutInvite sid) indexed inviterId
    have present : ¬ inviterId ∉ (s.setParty (s.party.withoutInvite sid)).sessions := not_not.mpr there
    unfold onPartyAccept
    simp only [invited, if_neg yes, if_neg present]
    rw [touch_party_present _ _ entered]
    exact join_party_settles s _ sid _
  exact settles_step _ settled (.answer sid inviterId here invited there)

theorem on_party_leave_step (sid : SessionId) : PartyStep s none (onPartyLeave s sid) :=
  settles_step none (remove_from_party_settles s sid) (.leave sid)

theorem do_accept_step : PartyStep s none (doAccept s) := by
  unfold doAccept
  by_cases used : s.nextSessionId ∈ s.sessions
  · rw [if_pos used]
    exact quiet_step (Quiet.refl s)
  · rw [if_neg used]
    refine ⟨?_, fun _ _ sent => Or.inl sent, fun _ => id⟩
    have grown : ServerState.online { s with sessions := s.sessions.insert s.nextSessionId {}, nextSessionId := s.nextSessionId + 1 } =
        insert s.nextSessionId s.online := by
      ext sid
      have equal : compare s.nextSessionId sid = .eq ↔ sid = s.nextSessionId := Std.compare_eq_iff_eq.trans eq_comm
      rw [Set.mem_insert_iff, ← equal]
      exact Std.ExtTreeMap.mem_insert
    rw [grown]
    exact .connect s.nextSessionId

theorem set_unconnected_settles (sid : SessionId) : Settles s (setUnconnected s sid) s.party :=
  ⟨rfl, fun _ => Std.ExtTreeMap.mem_modify, fun _ _ sent => Or.inl sent, fun _ => id⟩

theorem on_disconnect_step (sid : SessionId) : PartyStep s none (onDisconnect (setUnconnected s sid) sid) := by
  have removed := remove_from_party_settles (setUnconnected s sid) sid
  have cleared : Settles (setUnconnected s sid) (onPlayerDisconnect (setUnconnected s sid) sid)
      ((s.party.without sid).withoutInvite sid) :=
    ⟨congrArg (fun party => party.withoutInvite sid) removed.party, removed.online, removed.updates, removed.undivided⟩
  have told : ∃ t, Settles (setUnconnected s sid) t ((s.party.without sid).withoutInvite sid) ∧
      onDisconnect (setUnconnected s sid) sid = { t with sessions := t.sessions.erase sid } := by
    unfold onDisconnect
    simp only
    split
    · exact ⟨_, cleared, rfl⟩
    · split
      · refine ⟨_, settles_sends cleared ?_, rfl⟩
        intro receiver update fresh
        obtain ⟨other, _, delivered⟩ := List.mem_flatMap.mp fresh
        exact absurd (mem_deliver _ _ _ _ _ delivered) nofun
      · exact ⟨_, cleared, rfl⟩
  obtain ⟨t, settled, left⟩ := told
  have marked := set_unconnected_settles s sid
  rw [left]
  refine ⟨?_, ?_, ?_⟩
  · have shrunk : ServerState.online { t with sessions := t.sessions.erase sid } = s.online \ {sid} := by
      ext other
      have same := (settled.online other).trans (marked.online other)
      have apart : compare sid other ≠ .eq ↔ other ∉ ({sid} : Set SessionId) :=
        not_congr (Std.compare_eq_iff_eq.trans eq_comm)
      have erased : other ∈ t.sessions.erase sid ↔ compare sid other ≠ .eq ∧ other ∈ t.sessions := Std.ExtTreeMap.mem_erase
      rw [same, apart] at erased
      exact erased.trans and_comm
    rw [shrunk]
    exact settled.party ▸ PartyMove.disconnect sid
  · intro receiver update sent
    exact settled.party ▸ settled.updates receiver update sent
  · exact settled.undivided

theorem handle_step (indexed : s.party.Indexed) (sid : SessionId) (request : Request)
    (other : ∀ req, request ≠ .partyAccept req) : PartyStep s none (handle data s sid request) := by
  cases request with
  | partyInvite req => exact on_party_invite_step s indexed sid req
  | partyAccept req => exact absurd rfl (other req)
  | partyLeave => exact on_party_leave_step s sid
  | _ => exact quiet_step (handle_quiet data indexed sid _ trivial)

theorem handle_event_step (indexed : s.party.Indexed) (event : Event)
    (other : ∀ sid req, event ≠ .packet sid (.partyAccept req)) : PartyStep s none (handleEvent data s event) := by
  cases event with
  | accept => exact do_accept_step s
  | packet sid request =>
      by_cases here : sid ∈ s.sessions
      · rw [handle_event_here data s sid request here]
        exact handle_step data s indexed sid request (fun req same => other sid req (by rw [same]))
      · rw [handle_event_absent data s sid request here]
        exact quiet_step (Quiet.refl s)
  | writeError sid => exact settles_step none (set_unconnected_settles s sid) .stay
  | disconnect sid =>
      by_cases here : sid ∈ s.sessions
      · rw [disconnect_here data s sid here]
        exact on_disconnect_step s sid
      · rw [disconnect_absent data s sid here]
        exact quiet_step (Quiet.refl s)

theorem facing_step (input : Input) (label : Option (SessionId × SessionId)) (s' : ServerState)
    (h : PartyStep (facing s input) label s') : PartyStep s label s' :=
  ⟨h.move, h.updates, h.undivided⟩

theorem answering_dead (input : Input) (fault : Fault) (dead : s.fault = some fault) : answering s input = none := by
  unfold answering
  split
  · simp [dead]
  · rfl

theorem answering_other (input : Input) (other : ∀ sid req, input.event ≠ .packet sid (.partyAccept req)) :
    answering s input = none := by
  unfold answering
  split
  · rename_i sid req same
    exact absurd same (other sid req)
  · rfl

theorem answering_accept (input : Input) (sid : SessionId) (req : CsPartyAccept)
    (accepts : input.event = .packet sid (.partyAccept req)) (alive : s.fault = none) (here : sid ∈ s.sessions)
    (yes : req.accept ≠ 0) :
    answering s input =
      ((s.party.pendingInvites[sid]?).filter (fun inviterId => inviterId ∈ s.sessions)).map (fun inviterId => (sid, inviterId)) := by
  simp [answering, accepts, alive, here, yes]

theorem accept_step (indexed : s.party.Indexed) (input : Input) (sid : SessionId) (req : CsPartyAccept)
    (accepts : input.event = .packet sid (.partyAccept req)) (alive : s.fault = none) :
    PartyStep s (answering s input) (step data s input) := by
  rw [step_alive data s input alive, accepts]
  apply facing_step s input
  by_cases here : sid ∈ s.sessions
  · rw [handle_event_here data (facing s input) sid _ here]
    by_cases no : req.accept = 0
    · have silent : answering s input = none := by simp [answering, accepts, no]
      rw [silent]
      exact on_party_accept_refused (facing s input) sid req (fun _ _ => Or.inl no)
    · rw [answering_accept s input sid req accepts alive here no]
      cases invited : (s.party.pendingInvites[sid]?).filter (fun inviterId => inviterId ∈ s.sessions) with
      | none =>
          apply on_party_accept_refused (facing s input) sid req
          intro inviterId pending
          have gone : inviterId ∉ s.sessions := by simpa using Option.filter_eq_none_iff.mp invited inviterId pending
          exact Or.inr gone
      | some inviterId =>
          obtain ⟨pending, there⟩ := Option.filter_eq_some_iff.mp invited
          have present : inviterId ∈ s.sessions := by simpa using there
          exact on_party_accept_answered (facing s input) indexed sid inviterId req no here pending present
  · have silent : answering s input = none := by simp [answering, accepts, here]
    rw [silent, handle_event_absent data (facing s input) sid _ here]
    exact quiet_step (Quiet.refl _)

theorem step_party (indexed : s.party.Indexed) (input : Input) : PartyStep s (answering s input) (step data s input) := by
  cases dead : s.fault with
  | some fault =>
      rw [answering_dead s input fault dead, step_dead data s input fault dead]
      exact quiet_step (Quiet.refl s)
  | none =>
      by_cases accepts : ∃ sid req, input.event = .packet sid (.partyAccept req)
      · obtain ⟨sid, req, same⟩ := accepts
        exact accept_step data s indexed input sid req same dead
      · have other : ∀ sid req, input.event ≠ .packet sid (.partyAccept req) := fun sid req same => accepts ⟨sid, req, same⟩
        rw [answering_other s input other, step_alive data s input dead]
        exact facing_step s input none _ (handle_event_step data (facing s input) indexed input.event other)

end Handlers

structure PartyInvariant (s : ServerState) : Prop where
  indexed : s.party.Indexed
  honest : s.party.NoSelfInvite
  attended : s.party.Attended s.online

section Runs

variable (data : GameData) (db : Database) (draw : Nat → Nat)

theorem boot_party_invariant : PartyInvariant (boot db draw) :=
  ⟨PartyState.indexed_empty, PartyState.no_self_invite_empty, PartyState.attended_empty _⟩

theorem step_party_invariant (s : ServerState) (input : Input) (valid : PartyInvariant s) : PartyInvariant (step data s input) := by
  have move := (step_party data s valid.indexed input).move
  exact ⟨move_indexed move valid.indexed, move_no_self_invite move valid.honest, move_attended move valid.attended⟩

theorem run_party_invariant (inputs : List Input) : PartyInvariant (Machine.run (step data) (boot db draw) inputs) := by
  have always := Machine.guarded_trivial (step data) (fun _ _ => True) (fun _ _ => trivial) (boot db draw) inputs
  apply Machine.run_invariant (step data) (fun _ _ => True) PartyInvariant _ (boot db draw) inputs (boot_party_invariant db draw) always
  exact fun s input valid _ => step_party_invariant data s input valid

-- The test OnPartyAccept leaves out: whoever takes a free place is in no party yet.
def acceptsUnplaced (s : ServerState) (input : Input) : Prop :=
  ∀ sid inviterId, answering s input = some (sid, inviterId) → s.party.roomFor inviterId → sid ∉ s.party.playerParty

instance (party : PartyState) (inviterId : SessionId) : Decidable (party.roomFor inviterId) :=
  inferInstanceAs (Decidable (_ < _))

instance (s : ServerState) (input : Input) : Decidable (acceptsUnplaced s input) :=
  match answers : answering s input with
  | none => .isTrue (by simp [acceptsUnplaced, answers])
  | some (sid, inviterId) =>
      decidable_of_iff (s.party.roomFor inviterId → sid ∉ s.party.playerParty) (by simp [acceptsUnplaced, answers])

theorem membership_unique_iff (inputs : List Input) :
    Machine.Throughout (step data) (fun s => s.party.Exclusive) (boot db draw) inputs ↔
      Machine.Guarded (step data) acceptsUnplaced (boot db draw) inputs := by
  apply Machine.throughout_iff_guarded (step data) acceptsUnplaced (fun s => PartyInvariant s ∧ s.party.Exclusive)
  · exact fun s held => held.2
  · intro s input held unplaced
    have move := (step_party data s held.1.indexed input).move
    exact ⟨step_party_invariant data s input held.1, move_exclusive move held.1.indexed held.1.honest held.2 unplaced⟩
  · intro s input held unmet
    obtain ⟨sid, inviterId, answers, room, placed⟩ : ∃ sid inviterId, answering s input = some (sid, inviterId) ∧
        s.party.roomFor inviterId ∧ sid ∈ s.party.playerParty := by
      simpa [acceptsUnplaced] using unmet
    have move := (step_party data s held.1.indexed input).move
    rw [answers] at move
    exact move_not_exclusive sid inviterId move held.1.indexed held.1.honest room placed
  · exact ⟨boot_party_invariant db draw, PartyState.exclusive_empty⟩

def twoCharacters : Database where
  accounts := []
  characters := (CharacterTable.empty.add 1 [65] 0 1 0).add 2 [66] 0 1 0
  inventory := .empty
  equipment := fun _ _ => none
  questProgress := fun _ => ∅
  attendance := []
  today := 0
  defaultLevel := 1
  defaultExp := 0

def emptyData : GameData where
  items := []
  dropTable := []
  totalWeight := 0
  quests := []
  stdHash := fun _ => 0
  characterCreateArguments := fun name charType => some (name, charType)

def crossedInvites : List Input :=
  [⟨.accept, [], []⟩, ⟨.accept, [], []⟩, ⟨.packet 1 (.login ⟨[49]⟩), [], []⟩, ⟨.packet 2 (.login ⟨[50]⟩), [], []⟩,
    ⟨.packet 1 (.charSelect ⟨1⟩), [], []⟩, ⟨.packet 2 (.charSelect ⟨2⟩), [], []⟩,
    ⟨.packet 1 (.partyInvite ⟨[66]⟩), [], []⟩, ⟨.packet 2 (.partyInvite ⟨[65]⟩), [], []⟩,
    ⟨.packet 2 (.partyAccept ⟨1⟩), [], []⟩, ⟨.packet 1 (.partyAccept ⟨1⟩), [], []⟩]

theorem crossed_invites_list_twice :
    ¬ Machine.Throughout (step emptyData) (fun s => s.party.Exclusive) (boot twoCharacters (fun _ => 0)) crossedInvites := by
  intro holds
  have listed : (Machine.run (step emptyData) (boot twoCharacters (fun _ => 0)) crossedInvites).party.allMembers = [1, 2, 1] := by
    decide +kernel
  have once := (Machine.throughout_run (step emptyData) _ _ crossedInvites [] holds).1
  rw [listed] at once
  exact absurd once (by decide)

def partiesCreated : ServerState → List Input → Nat
  | _, [] => 0
  | s, input :: rest =>
      (if (step data s input).party.nextPartyId = s.party.nextPartyId then 0 else 1) + partiesCreated (step data s input) rest

structure PartySound (s : ServerState) : Prop where
  indexed : s.party.Indexed
  sized : s.party.Sized
  lookups : ∀ t : ServerState, t.party = s.party → ∀ (sid : SessionId) (partyId : UInt32),
    t.party.playerParty[sid]? = some partyId → t.touchParty partyId = t
  entering : ∀ (t : ServerState) (sid : SessionId), t.party = s.party.withoutInvite sid → ∀ inviterId : SessionId,
    (t.setParty (t.party.partyOf inviterId).1).touchParty (t.party.partyOf inviterId).2 = t.setParty (t.party.partyOf inviterId).1
  undivided : s.fault ≠ some .divideByZero
  counted : ∀ (sid : SessionId) (update : ScPartyUpdate), (sid, Message.partyUpdate update) ∈ s.sent →
    update.memberCount.toNat ≤ maxParty

structure PartyCount (created : Nat) (s : ServerState) : Prop where
  indexed : s.party.Indexed
  sized : s.party.Sized
  numbered : s.party.Numbered created
  undivided : s.fault ≠ some .divideByZero
  counted : ∀ (sid : SessionId) (update : ScPartyUpdate), (sid, Message.partyUpdate update) ∈ s.sent →
    update.memberCount.toNat ≤ maxParty

theorem party_count_sound (created : Nat) (s : ServerState) (count : PartyCount created s) : PartySound s where
  indexed := count.indexed
  sized := count.sized
  lookups := by
    intro t same sid partyId placed
    rw [same] at placed
    exact touch_party_present t partyId (same ▸ indexed_present s.party count.indexed sid partyId placed)
  entering := by
    intro t sid same inviterId
    have indexed : t.party.Indexed := by
      rw [same]
      exact count.indexed
    exact touch_party_present _ _ (entered_present t.party indexed inviterId)
  undivided := count.undivided
  counted := count.counted

theorem step_party_count (s : ServerState) (input : Input) (created : Nat) (count : PartyCount created s)
    (bound : (step data s input).party.nextPartyId ≠ s.party.nextPartyId → created + 1 < 2 ^ 32) :
    PartyCount (created + if (step data s input).party.nextPartyId = s.party.nextPartyId then 0 else 1) (step data s input) := by
  have taken := step_party data s count.indexed input
  obtain ⟨sized, numbered⟩ := move_sized taken.move created count.indexed count.sized count.numbered bound
  have divisible := PartyState.sized_divisible s.party count.indexed count.sized
  refine ⟨move_indexed taken.move count.indexed, sized, numbered, ?_, ?_⟩
  · exact fun divided => count.undivided (taken.undivided divisible divided)
  · intro sid update sent
    rcases taken.updates sid update sent with old | ⟨partyId, found, present, announced⟩
    · exact count.counted sid update old
    · have bounds := (sized partyId found present).2
      rw [announced, UInt8.toNat_ofNat']
      exact (Nat.mod_le _ _).trans bounds

theorem run_party_count (inputs : List Input) (s : ServerState) (created : Nat) (count : PartyCount created s)
    (few : created + partiesCreated data s inputs < 2 ^ 32) :
    PartyCount (created + partiesCreated data s inputs) (Machine.run (step data) s inputs) := by
  induction inputs generalizing s created with
  | nil => exact count
  | cons input rest ih =>
      rw [partiesCreated, ← Nat.add_assoc] at few ⊢
      apply ih (step data s input) _ _ few
      apply step_party_count data s input created count
      intro changed
      rw [if_neg changed] at few
      omega

theorem party_index_sound (inputs : List Input) (few : partiesCreated data (boot db draw) inputs < 2 ^ 32) :
    PartySound (Machine.run (step data) (boot db draw) inputs) := by
  have start : PartyCount 0 (boot db draw) :=
    ⟨PartyState.indexed_empty, PartyState.sized_empty, PartyState.numbered_empty, nofun, nofun⟩
  exact party_count_sound _ _ (run_party_count data inputs (boot db draw) 0 start (by rwa [Nat.zero_add]))

theorem crossed_invites_index_sound :
    PartySound (Machine.run (step emptyData) (boot twoCharacters (fun _ => 0)) crossedInvites) :=
  party_index_sound emptyData twoCharacters (fun _ => 0) crossedInvites (by decide +kernel)

end Runs

end MmorpgSimulator
