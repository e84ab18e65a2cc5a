import MmorpgSimulator.Views

set_option autoImplicit false

namespace MmorpgSimulator

def ServerState.tell (s : ServerState) (receivers : List SessionId) (message : Message) : ServerState :=
  { s with sent := s.sent ++ receivers.flatMap (fun mid => s.deliver mid message) }

section Telling

variable (s : ServerState)

theorem fold_send (receivers : List SessionId) (message : Message) :
    receivers.foldl (fun t mid => t.send mid message) s = s.tell receivers message := by
  induction receivers generalizing s with
  | nil => simp [ServerState.tell]
  | cons first rest ih =>
      rw [List.foldl_cons, ih]
      simp only [ServerState.tell, ServerState.send, List.flatMap_cons, List.append_assoc]
      rfl

theorem inbox_tell (receivers : List SessionId) (message : Message) (sid : SessionId) (open_ : s.line sid = some true) :
    inbox (s.tell receivers message).sent sid = inbox s.sent sid ++ List.replicate (receivers.count sid) message := by
  rw [ServerState.tell, inbox_append]
  congr 1
  induction receivers with
  | nil => rfl
  | cons first rest ih =>
      rw [List.flatMap_cons, inbox_append, inbox_deliver, ih]
      by_cases same : sid = first
      · subst same
        rw [if_pos ⟨rfl, open_⟩, List.count_cons_self, List.replicate_succ, List.singleton_append]
      · rw [if_neg (fun both => same both.1), List.count_cons_of_ne (Ne.symm same), List.nil_append]

theorem mem_tell (receivers : List SessionId) (message : Message) (receiver : SessionId) (arrived : Message)
    (member : (receiver, arrived) ∈ (s.tell receivers message).sent) : arrived = message ∨ (receiver, arrived) ∈ s.sent := by
  rcases List.mem_append.mp member with old | fresh
  · exact .inr old
  · obtain ⟨mid, _, delivered⟩ := List.mem_flatMap.mp fresh
    exact .inl (mem_deliver s mid receiver message arrived delivered)

end Telling

section Leaving

variable (s : ServerState) (sid : SessionId) (partyId : UInt32)

def remaining (members : List SessionId) (sid : SessionId) : List SessionId := members.filter (fun mid => mid ≠ sid)

def leaverUid : CharUid := ((s.sessions[sid]?).map (fun session => session.player.charUid)).getD 0

theorem send_party_update_tells :
    sendPartyUpdate s partyId = s.tell (s.party.membersOf partyId) (.partyUpdate (partyUpdateOf s (s.party.membersOf partyId))) := by
  rw [sendPartyUpdate, PartyState.membersOf]
  cases s.party.parties[partyId]? with
  | none => simp [ServerState.tell]
  | some found => exact fold_send s found.members _

theorem mem_remaining (members : List SessionId) (other : SessionId) : other ∈ remaining members sid ↔ other ∈ members ∧ other ≠ sid := by
  rw [remaining, List.mem_filter, decide_eq_true_iff]

theorem without_members (party : PartyState) (index : UInt32) : (party.without sid).membersOf index =
    if party.playerParty[sid]? = some index then
      if (remaining (party.membersOf index) sid).length ≤ 1 then [] else remaining (party.membersOf index) sid
    else party.membersOf index := by
  cases placed : party.playerParty[sid]? with
  | none =>
      rw [PartyState.without_unplaced party sid placed]
      rfl
  | some partyId =>
      cases present : party.parties[partyId]? with
      | none =>
          have same : (party.without sid).parties = party.parties := by
            rw [PartyState.without, placed]
            simp only [present]
          rw [PartyState.membersOf, same]
          by_cases own : partyId = index
          · subst own
            simp [PartyState.membersOf, present, remaining]
          · rw [if_neg (fun equal => own (Option.some.inj equal))]
            rfl
      | some found =>
          have members := PartyState.members_of_found party partyId found present
          by_cases own : partyId = index
          · subst own
            rw [if_pos rfl, members]
            by_cases few : (remaining found.members sid).length ≤ 1
            · rw [if_pos few, PartyState.without_disbanded party sid partyId found placed present few]
              simp [PartyState.membersOf]
            · rw [if_neg few, PartyState.without_reduced party sid partyId found placed present few]
              simp [PartyState.membersOf, remaining]
          · have away : compare partyId index ≠ .eq := fun equal => own (Std.compare_eq_iff_eq.mp equal)
            rw [if_neg (fun equal => own (Option.some.inj equal))]
            by_cases few : (remaining found.members sid).length ≤ 1
            · rw [PartyState.without_disbanded party sid partyId found placed present few]
              simp only [PartyState.membersOf, Std.ExtTreeMap.getElem?_erase, if_neg away]
            · rw [PartyState.without_reduced party sid partyId found placed present few]
              simp only [PartyState.membersOf, Std.ExtTreeMap.getElem?_insert, if_neg away]

theorem remove_from_party_sessions : (removeFromParty s sid).sessions = s.sessions := by
  rw [removeFromParty]
  cases s.party.playerParty[sid]? with
  | none => rfl
  | some partyId =>
      simp only
      cases s.party.parties[partyId]? with
      | none => rfl
      | some found =>
          simp only [fold_send]
          split
          · cases (found.members.filter (fun mid => mid ≠ sid)).head? <;> rfl
          · rw [send_party_update_tells]
            rfl

theorem remove_unplaced (unplaced : s.party.playerParty[sid]? = none) : removeFromParty s sid = s := by
  rw [removeFromParty, unplaced]

variable (found : Party) (placed : s.party.playerParty[sid]? = some partyId) (present : s.party.parties[partyId]? = some found)
include placed present

theorem remove_reduced (enough : 1 < (remaining found.members sid).length) :
    removeFromParty s sid =
      ((s.setParty (s.party.without sid)).tell (remaining found.members sid) (.partyLeave ⟨leaverUid s sid⟩)).tell
        (remaining found.members sid) (.partyUpdate (partyUpdateOf s (remaining found.members sid))) := by
  have many : ¬ (remaining found.members sid).length ≤ 1 := Nat.not_le.mpr enough
  have after : ((s.setParty (s.party.without sid)).tell (remaining found.members sid) (.partyLeave ⟨leaverUid s sid⟩)).party.membersOf
      partyId = remaining found.members sid := by
    change (s.party.without sid).membersOf partyId = remaining found.members sid
    rw [without_members, if_pos placed, PartyState.members_of_found s.party partyId found present, if_neg many]
  have told := send_party_update_tells
    ((s.setParty (s.party.without sid)).tell (remaining found.members sid) (.partyLeave ⟨leaverUid s sid⟩)) partyId
  rw [after] at told
  rw [removeFromParty, placed]
  simp only [present, fold_send]
  exact (if_neg many).trans told

theorem remove_disbanded (few : (remaining found.members sid).length ≤ 1) :
    removeFromParty s sid =
      ((s.setParty (s.party.without sid)).tell (remaining found.members sid) (.partyLeave ⟨leaverUid s sid⟩)).tell
        (remaining found.members sid) (.partyLeave ⟨0⟩) := by
  rw [removeFromParty, placed]
  simp only [present, fold_send]
  refine Eq.trans (if_pos few) ?_
  rw [show found.members.filter (fun mid => mid ≠ sid) = remaining found.members sid from rfl]
  cases rest : remaining found.members sid with
  | nil => simp [ServerState.tell]
  | cons last others =>
      cases others with
      | nil => simp [ServerState.tell, ServerState.send, leaverUid, ServerState.setParty]
      | cons other more => simp [rest] at few

end Leaving

section Inviting

variable (s : ServerState) (sid : SessionId)

def partyFull : Bool :=
  ((s.party.playerParty[sid]?).bind (fun partyId => s.party.parties[partyId]?)).any (fun party => maxParty ≤ party.members.length)

def invitee (req : CsPartyInvite) : Option SessionId :=
  if partyFull s sid then none
  else (sessionsNamed s req.targetName).getLast?.filter (fun target => target ≠ sid ∧ target ∉ s.party.playerParty)

def invite (target : SessionId) : ServerState :=
  (s.setParty { s.party with pendingInvites := s.party.pendingInvites.insert target sid }).send target
    (.partyInvite { inviterName := strncpyS (s.player sid).name 19 })

theorem on_party_invite_spec (indexed : s.party.Indexed) (req : CsPartyInvite) :
    (∃ reason, invitee s sid req = none ∧ onPartyInvite s sid req = partyError s sid reason) ∨
      ∃ target, invitee s sid req = some target ∧ onPartyInvite s sid req = invite s sid target := by
  have touched : (s.party.playerParty[sid]?).elim s s.touchParty = s := by
    cases placed : s.party.playerParty[sid]? with
    | none => rfl
    | some partyId => exact touch_party_present s partyId (indexed_present s.party indexed sid partyId placed)
  simp only [onPartyInvite, invitee, touched]
  change (∃ reason, _ ∧ (if partyFull s sid = true then _ else _) = _) ∨ ∃ target, _ ∧ (if partyFull s sid = true then _ else _) = _
  by_cases full : partyFull s sid = true
  · simp only [if_pos full]
    exact .inl ⟨_, trivial, rfl⟩
  · simp only [if_neg full]
    cases (sessionsNamed s req.targetName).getLast? with
    | none => exact .inl ⟨_, rfl, rfl⟩
    | some target =>
        by_cases self : target = sid
        · simp only [if_pos self]
          exact .inl ⟨_, by simp [self], rfl⟩
        · by_cases placed : target ∈ s.party.playerParty
          · simp only [if_neg self, if_pos placed]
            exact .inl ⟨_, by simp [placed], rfl⟩
          · simp only [if_neg self, if_neg placed]
            exact .inr ⟨target, by simp [self, placed], rfl⟩

end Inviting

section Accepting

variable (s : ServerState) (sid inviterId : SessionId) (req : CsPartyAccept)

theorem on_party_accept_unanswered
    (refused : ∀ inviterId : SessionId, s.party.pendingInvites[sid]? = some inviterId → req.accept = 0 ∨ inviterId ∉ s.sessions) :
    onPartyAccept s sid req = s ∨ onPartyAccept s sid req = s.setParty (s.party.withoutInvite sid) := by
  rw [onPartyAccept]
  cases invited : s.party.pendingInvites[sid]? with
  | none => exact .inl rfl
  | some inviterId =>
      refine .inr ?_
      simp only
      by_cases no : req.accept = 0
      · rw [if_pos no]
      · rw [if_neg no]
        exact if_pos ((refused inviterId invited).resolve_left no)

theorem unanswered_refused
    (unanswered : ¬ ∃ inviterId : SessionId, s.party.pendingInvites[sid]? = some inviterId ∧ req.accept ≠ 0 ∧ inviterId ∈ s.sessions)
    (inviterId : SessionId) (invited : s.party.pendingInvites[sid]? = some inviterId) : req.accept = 0 ∨ inviterId ∉ s.sessions := by
  by_contra accepted
  rw [not_or, not_not] at accepted
  exact unanswered ⟨inviterId, invited, accepted⟩

variable (indexed : s.party.Indexed) (yes : req.accept ≠ 0) (invited : s.party.pendingInvites[sid]? = some inviterId)
  (there : inviterId ∈ s.sessions)
include indexed yes invited there

theorem on_party_accept_enters :
    onPartyAccept s sid req =
      joinParty (s.setParty ((s.party.withoutInvite sid).partyOf inviterId).1) sid ((s.party.withoutInvite sid).partyOf inviterId).2 := by
  have entered := entered_present (s.party.withoutInvite sid) indexed inviterId
  have present : ¬ inviterId ∉ (s.setParty (s.party.withoutInvite sid)).sessions := not_not.mpr there
  simp only [onPartyAccept, invited, if_neg yes, if_neg present]
  rw [touch_party_present _ _ entered]
  rfl

theorem on_party_accept_full (full : ¬ s.party.roomFor inviterId) :
    onPartyAccept s sid req = s.setParty (s.party.answered sid inviterId) := by
  rw [on_party_accept_enters s sid inviterId req indexed yes invited there, PartyState.answered_full s.party sid inviterId full,
    PartyState.party_of_without_invite]
  exact if_pos (Nat.le_of_not_lt full)

theorem on_party_accept_joins (room : s.party.roomFor inviterId) :
    onPartyAccept s sid req =
      (s.setParty (s.party.answered sid inviterId)).tell ((s.party.answered sid inviterId).membersOf (s.party.partyOf inviterId).2)
        (.partyUpdate (partyUpdateOf s ((s.party.answered sid inviterId).membersOf (s.party.partyOf inviterId).2))) := by
  rw [on_party_accept_enters s sid inviterId req indexed yes invited there, PartyState.answered_joined s.party sid inviterId room,
    PartyState.party_of_without_invite]
  have joins : ¬ maxParty ≤ ((s.party.partyOf inviterId).1.membersOf (s.party.partyOf inviterId).2).length := Nat.not_le.mpr room
  exact (if_neg joins).trans (send_party_update_tells _ _)

end Accepting

section Disconnecting

variable (s : ServerState) (sid : SessionId)

theorem on_disconnect_spec : ∃ extra : List (SessionId × Message), (∀ entry ∈ extra, Elsewhere entry.2) ∧
    (onDisconnect s sid).sent = (removeFromParty s sid).sent ++ extra ∧
      (onDisconnect s sid).party = (removeFromParty s sid).party.withoutInvite sid ∧
        (onDisconnect s sid).sessions = s.sessions.erase sid := by
  have kept := remove_from_party_sessions s sid
  rw [onDisconnect, onPlayerDisconnect]
  simp only [kept]
  cases s.sessions[sid]? with
  | none => exact ⟨[], (by simp), (List.append_nil _).symm, rfl, rfl⟩
  | some session =>
      simp only
      split
      · refine ⟨_, ?_, rfl, rfl, rfl⟩
        intro entry member
        obtain ⟨receiver, _, delivered⟩ := List.mem_flatMap.mp member
        rw [mem_deliver _ _ _ _ _ delivered]
        trivial
      · exact ⟨[], (by simp), (List.append_nil _).symm, rfl, rfl⟩

theorem on_disconnect_line (other : SessionId) (apart : other ≠ sid) :
    (onDisconnect (setUnconnected s sid) sid).line other = s.line other := by
  obtain ⟨_, _, _, _, sessions⟩ := on_disconnect_spec (setUnconnected s sid) sid
  have distinct : compare sid other ≠ .eq := fun same => apart (Std.compare_eq_iff_eq.mp same).symm
  rw [ServerState.line, sessions, Std.ExtTreeMap.getElem?_erase, if_neg distinct, setUnconnected, Std.ExtTreeMap.getElem?_modify,
    if_neg distinct]
  rfl

theorem on_disconnect_gone : sid ∉ (onDisconnect (setUnconnected s sid) sid).sessions := by
  obtain ⟨_, _, _, _, sessions⟩ := on_disconnect_spec (setUnconnected s sid) sid
  rw [sessions]
  exact fun there => (Std.ExtTreeMap.mem_erase.mp there).1 Std.ReflCmp.compare_self

end Disconnecting

structure InvitesNobody (s t : ServerState) : Prop where
  pending : ∀ sid inviterId : SessionId, t.party.pendingInvites[sid]? = some inviterId → s.party.pendingInvites[sid]? = some inviterId
  silent : ∀ (sid : SessionId) (invite : ScPartyInvite), (sid, Message.partyInvite invite) ∈ t.sent →
    (sid, Message.partyInvite invite) ∈ s.sent

namespace InvitesNobody

variable {s s' : ServerState}

theorem quiet (h : Quiet s s') : InvitesNobody s s' :=
  ⟨fun _ _ known => h.party ▸ known, fun sid _ sent => (h.silent sid _ sent).resolve_left id⟩

theorem setParty (s : ServerState) (party : PartyState)
    (pending : ∀ sid inviterId : SessionId, party.pendingInvites[sid]? = some inviterId → s.party.pendingInvites[sid]? = some inviterId) :
    InvitesNobody s (s.setParty party) :=
  ⟨pending, fun _ _ => id⟩

theorem tell (h : InvitesNobody s s') (receivers : List SessionId) (message : Message) (other : ∀ invite, message ≠ .partyInvite invite) :
    InvitesNobody s (s'.tell receivers message) where
  pending := h.pending
  silent := by
    intro sid invite sent
    rcases mem_tell s' receivers message sid _ sent with fresh | old
    · exact absurd fresh.symm (other invite)
    · exact h.silent sid invite old

end InvitesNobody

section Frames

variable (data : GameData) (s : ServerState)

theorem erased_pending (party : PartyState) (sid other inviterId : SessionId)
    (known : (party.pendingInvites.erase sid)[other]? = some inviterId) : other ≠ sid ∧ party.pendingInvites[other]? = some inviterId := by
  rw [Std.ExtTreeMap.getElem?_erase] at known
  split at known
  · exact absurd known nofun
  · rename_i apart
    exact ⟨fun same => apart (Std.compare_eq_iff_eq.mpr same.symm), known⟩

theorem remove_from_party_invites (sid : SessionId) : InvitesNobody s (removeFromParty s sid) := by
  cases placed : s.party.playerParty[sid]? with
  | none =>
      rw [remove_unplaced s sid placed]
      exact .quiet (Quiet.refl s)
  | some partyId =>
      have moved : InvitesNobody s (s.setParty (s.party.without sid)) :=
        .setParty s _ (fun other inviterId known => by rwa [PartyState.without_pending] at known)
      cases present : s.party.parties[partyId]? with
      | none =>
          rw [removeFromParty, placed]
          simp only [present]
          exact moved
      | some found =>
          by_cases few : (remaining found.members sid).length ≤ 1
          · rw [remove_disbanded s sid partyId found placed present few]
            exact (moved.tell _ _ (by simp)).tell _ _ (by simp)
          · rw [remove_reduced s sid partyId found placed present (Nat.lt_of_not_le few)]
            exact (moved.tell _ _ (by simp)).tell _ _ (by simp)

theorem on_party_accept_invites (indexed : s.party.Indexed) (sid : SessionId) (req : CsPartyAccept) :
    InvitesNobody s (onPartyAccept s sid req) := by
  by_cases answers : ∃ inviterId : SessionId, s.party.pendingInvites[sid]? = some inviterId ∧ req.accept ≠ 0 ∧ inviterId ∈ s.sessions
  · obtain ⟨inviterId, invited, yes, there⟩ := answers
    have answered : InvitesNobody s (s.setParty (s.party.answered sid inviterId)) := by
      refine .setParty s _ (fun other inviterId' known => ?_)
      rw [PartyState.answered_pending] at known
      exact (erased_pending s.party sid other inviterId' known).2
    by_cases room : s.party.roomFor inviterId
    · rw [on_party_accept_joins s sid inviterId req indexed yes invited there room]
      exact answered.tell _ _ (by nofun)
    · rw [on_party_accept_full s sid inviterId req indexed yes invited there room]
      exact answered
  · rcases on_party_accept_unanswered s sid req (unanswered_refused s sid req answers) with same | declined
    · rw [same]
      exact .quiet (Quiet.refl s)
    · rw [declined]
      exact .setParty s _ (fun other inviterId known => (erased_pending s.party sid other inviterId known).2)

theorem handle_invites (indexed : s.party.Indexed) (sid : SessionId) (request : Request) :
    InvitesNobody s (handle data s sid request) ∨
      ∃ req target, request = .partyInvite req ∧ invitee s sid req = some target ∧ handle data s sid request = invite s sid target := by
  cases request with
  | partyInvite req =>
      rcases on_party_invite_spec s sid indexed req with ⟨reason, _, refused⟩ | ⟨target, invited, carried⟩
      · refine .inl (.quiet ?_)
        rw [handle, refused]
        exact (Quiet.refl s).send sid _ (by trivial)
      · exact .inr ⟨req, target, rfl, invited, carried⟩
  | partyAccept req => exact .inl (on_party_accept_invites s indexed sid req)
  | partyLeave => exact .inl (remove_from_party_invites s sid)
  | _ => exact .inl (.quiet (handle_quiet data indexed sid _ trivial))

theorem on_party_accept_sessions (sid : SessionId) (req : CsPartyAccept) :
    (onPartyAccept s sid req).sessions = s.sessions := by
  rw [onPartyAccept]
  cases s.party.pendingInvites[sid]? with
  | none => rfl
  | some inviterId =>
      simp only
      split
      · rfl
      · split
        · rfl
        · rw [joinParty]
          split
          · rfl
          · rw [send_party_update_tells]
            rfl

theorem handle_line (indexed : s.party.Indexed) (sid : SessionId) (request : Request) (other : SessionId) :
    (handle data s sid request).line other = s.line other := by
  have same (t : ServerState) (sessions : t.sessions = s.sessions) : t.line other = s.line other := by
    rw [ServerState.line, sessions]
    rfl
  cases request with
  | partyInvite req =>
      rcases on_party_invite_spec s sid indexed req with ⟨reason, _, refused⟩ | ⟨target, _, carried⟩
      · rw [handle, refused]
        rfl
      · rw [handle, carried]
        rfl
  | partyAccept req => exact same _ (on_party_accept_sessions s sid req)
  | partyLeave => exact same _ (remove_from_party_sessions s sid)
  | _ =>
      apply Quiet.lines
      exact handle_quiet data indexed sid _ trivial

end Frames

end MmorpgSimulator
