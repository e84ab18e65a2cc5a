import MmorpgSimulator.Wire

set_option autoImplicit false

namespace MmorpgSimulator

def Request.accepting : Request → Bool
  | .partyAccept req => decide (req.accept ≠ 0)
  | _ => false

def inviting (s : ServerState) (input : Input) : Option (SessionId × SessionId) :=
  match input.event with
  | .packet sid (.partyInvite req) =>
      if s.fault = none ∧ sid ∈ s.sessions then (invitee s sid req).map (fun target => (sid, target)) else none
  | _ => none

namespace Net

variable (net : Net)

-- Who is added to a party, by whose invitation, and whose invitation its client was
-- displaying when it accepted.
def adding (action : Action) : Option (SessionId × SessionId × Option SessionId) :=
  (net.served action).bind (fun served =>
    ((answering net.server served.1).filter (fun answer => decide (net.server.party.roomFor answer.2))).map
      (fun answer => (answer.1, answer.2, served.2)))

-- Whoever accepts displays the last invitation on its way.
def Unhurried : Action → Prop
  | .press sid key =>
      ((net.links sid).client.press key).2.any Request.accepting = true →
        (net.links sid).finallyDisplayed = (net.links sid).displayed
  | _ => True

-- An invitation is carried out only past acceptances of the same inviter.
def Uncrossed (action : Action) : Prop :=
  ∀ sid target, (net.served action).bind (fun served => inviting net.server served.1) = some (sid, target) →
    ∀ entry ∈ (net.links target).up, entry.1.accepting = true → entry.2 = some sid

end Net

def InTurn (net : Net) (action : Action) : Prop := net.Unhurried action ∧ net.Uncrossed action

def BindsAsSeen (net : Net) (action : Action) : Prop :=
  ∀ sid inviterId seen, net.adding action = some (sid, inviterId, seen) → seen = some inviterId

-- Whoever `adding` names is in the inviter's party after the step. Nobody else gets a
-- place, but for an inviter whose party is founded by the answer.
structure AddsAsNamed (data : GameData) (net : Net) (action : Action) : Prop where
  named : ∀ sid inviterId seen, net.adding action = some (sid, inviterId, seen) →
    (netStep data net action).server.party.Together sid inviterId
  only : ∀ (sid : SessionId) (partyId : UInt32), (netStep data net action).server.party.playerParty[sid]? = some partyId →
    net.server.party.playerParty[sid]? = some partyId ∨
      (∃ inviterId seen, net.adding action = some (sid, inviterId, seen)) ∨
      ∃ other, (net.served action).bind (fun served => answering net.server served.1) = some (other, sid)

-- The server's open invitation is the last one sent, and so is the one every
-- acceptance on its way was meant for.
structure Paired (net : Net) : Prop where
  valid : PartyInvariant net.server
  open_ : ∀ sid ∈ net.server.sessions, net.server.line sid = some true
  present : ∀ sid ∈ net.server.party.pendingInvites, sid ∈ net.server.sessions
  pending : ∀ sid inviterId : SessionId, net.server.party.pendingInvites[sid]? = some inviterId →
    (net.links sid).finallyDisplayed = some inviterId
  accepts : ∀ sid, ∀ entry ∈ (net.links sid).up, entry.1.accepting = true → entry.2 = (net.links sid).finallyDisplayed

section Invariant

variable (data : GameData) {net : Net}

theorem paired_binds (paired : Paired net) (action : Action) : BindsAsSeen net action := by
  intro sid inviterId seen adds
  obtain ⟨⟨input, shown⟩, served, answered⟩ := Option.bind_eq_some_iff.mp adds
  obtain ⟨⟨owner, inviter⟩, kept, same⟩ := Option.map_eq_some_iff.mp answered
  obtain ⟨rfl, rfl, rfl⟩ : owner = sid ∧ inviter = inviterId ∧ shown = seen := by simpa using same
  have answers := (Option.filter_eq_some_iff.mp kept).1
  obtain ⟨_, ⟨other, rolls, dbPlan, request, _, queued, rfl⟩ | ⟨other, _, _, rfl⟩⟩ := served_cases net action input shown served
  · cases request with
    | partyAccept req =>
        simp only [answering, Option.ite_none_right_eq_some, Option.map_eq_some_iff, Prod.mk.injEq] at answers
        obtain ⟨⟨_, _, yes⟩, inviterId, invited, rfl, rfl⟩ := answers
        have open_ := (Option.filter_eq_some_iff.mp invited).1
        exact (paired.accepts other _ queued (by simp [Request.accepting, yes])).trans (paired.pending other inviterId open_)
    | _ => simp [answering] at answers
  · simp [answering] at answers

theorem paired_silent (paired : Paired net) (cause : SessionId) (start next : ServerState) (party : start.party = net.server.party)
    (unsent : start.sent = []) (silent : InvitesNobody start next) (valid : PartyInvariant next)
    (open_ : ∀ sid ∈ next.sessions, next.line sid = some true)
    (present : ∀ sid ∈ next.party.pendingInvites, sid ∈ next.sessions) :
    Paired ⟨next, fun sid => (net.links sid).hear cause (inbox next.sent sid)⟩ := by
  have still (sid : SessionId) : ((net.links sid).hear cause (inbox next.sent sid)).finallyDisplayed = (net.links sid).finallyDisplayed := by
    refine Link.finally_displayed_same (net.links sid) cause _ ?_
    intro message arrived invite same
    have sent := silent.silent sid invite (same ▸ (mem_inbox next.sent sid message).mp arrived)
    rw [unsent] at sent
    exact List.not_mem_nil sent
  refine ⟨valid, open_, present, ?_, ?_⟩
  · intro sid inviterId known
    rw [still]
    exact paired.pending sid inviterId (party ▸ silent.pending sid inviterId known)
  · intro sid entry queued accepting
    rw [still]
    exact paired.accepts sid entry queued accepting

theorem paired_set_link (paired : Paired net) (sid : SessionId) (link : Link)
    (shows : link.finallyDisplayed = (net.links sid).finallyDisplayed)
    (accepts : ∀ entry ∈ link.up, entry.1.accepting = true → entry.2 = link.finallyDisplayed) : Paired (net.setLink sid link) := by
  refine ⟨paired.valid, paired.open_, paired.present, ?_, ?_⟩
  · intro other inviterId known
    by_cases same : other = sid
    · rw [same, set_link_self, shows, ← same]
      exact paired.pending other inviterId known
    · rw [set_link_other net sid other link same]
      exact paired.pending other inviterId known
  · intro other
    by_cases same : other = sid
    · rw [same, set_link_self]
      exact accepts
    · rw [set_link_other net sid other link same]
      exact paired.accepts other

theorem paired_fresh (paired : Paired net) (sid : SessionId) (unasked : sid ∉ net.server.party.pendingInvites) :
    Paired (net.setLink sid {}) := by
  refine ⟨paired.valid, paired.open_, paired.present, ?_, ?_⟩
  · intro other inviterId known
    have apart : other ≠ sid := by
      rintro rfl
      exact unasked (Std.ExtTreeMap.mem_iff_isSome_getElem?.mpr (Option.isSome_of_eq_some known))
    rw [set_link_other net sid other {} apart]
    exact paired.pending other inviterId known
  · intro other
    by_cases same : other = sid
    · rw [same, set_link_self]
      exact nofun
    · rw [set_link_other net sid other {} same]
      exact paired.accepts other

theorem invitee_present (s : ServerState) (sid : SessionId) (req : CsPartyInvite) (target : SessionId)
    (invited : invitee s sid req = some target) : target ∈ s.sessions := by
  rw [invitee] at invited
  split at invited
  · exact absurd invited (by simp)
  · obtain ⟨last, _⟩ := Option.filter_eq_some_iff.mp invited
    obtain ⟨entry, listed, rfl⟩ := List.mem_map.mp (List.mem_of_getLast? last)
    have stored := Std.ExtTreeMap.mem_toList_iff_getElem?_eq_some.mp (List.mem_filter.mp listed).1
    exact Std.ExtTreeMap.mem_iff_isSome_getElem?.mpr (Option.isSome_of_eq_some stored)

theorem paired_invite (paired : Paired net) (sid target : SessionId) (start : ServerState) (party : start.party = net.server.party)
    (sessions : start.sessions = net.server.sessions) (unsent : start.sent = []) (req : CsPartyInvite)
    (invited : invitee start sid req = some target) (valid : PartyInvariant (invite start sid target))
    (uncrossed : ∀ entry ∈ (net.links target).up, entry.1.accepting = true → entry.2 = some sid) :
    Paired ⟨invite start sid target, fun other => (net.links other).hear sid (inbox (invite start sid target).sent other)⟩ := by
  have line (other : SessionId) : start.line other = net.server.line other := congrArg (fun stored => (stored[other]?).map Session.connected) sessions
  have here : target ∈ net.server.sessions := sessions ▸ invitee_present start sid req target invited
  have told (other : SessionId) : inbox (invite start sid target).sent other =
      if other = target then [.partyInvite { inviterName := strncpyS (start.player sid).name 19 }] else [] := by
    rw [invite, ServerState.send, inbox_append]
    simp only [ServerState.setParty, unsent]
    rw [show inbox [] other = [] from rfl, List.nil_append]
    refine (inbox_deliver start target other _).trans ?_
    by_cases same : other = target
    · rw [same, if_pos rfl, if_pos ⟨rfl, (line target).trans (paired.open_ target here)⟩]
    · rw [if_neg same, if_neg (fun both => same both.1)]
  refine ⟨valid, ?_, ?_, ?_, ?_⟩
  · exact fun other there => (line other).trans (paired.open_ other (sessions ▸ there))
  · intro other asked
    change other ∈ start.sessions
    rcases Std.ExtTreeMap.mem_insert.mp asked with same | before
    · rw [← Std.compare_eq_iff_eq.mp same]
      exact invitee_present start sid req target invited
    · rw [sessions]
      exact paired.present other (party ▸ before)
  · intro other inviterId known
    change ((net.links other).hear sid (inbox (invite start sid target).sent other)).finallyDisplayed = some inviterId
    rw [told]
    by_cases same : other = target
    · subst same
      have last : some sid = some inviterId := Std.ExtTreeMap.getElem?_insert_self.symm.trans known
      rw [if_pos rfl, Link.finally_displayed_invite, last]
    · have before : start.party.pendingInvites[other]? = some inviterId := by
        rw [← known]
        exact (Std.ExtTreeMap.getElem?_insert.trans (if_neg (fun equal => same (Std.compare_eq_iff_eq.mp equal).symm))).symm
      rw [if_neg same, Link.hear_nothing]
      exact paired.pending other inviterId (party ▸ before)
  · intro other entry queued accepting
    change entry.2 = ((net.links other).hear sid (inbox (invite start sid target).sent other)).finallyDisplayed
    rw [told]
    by_cases same : other = target
    · rw [if_pos same, Link.finally_displayed_invite]
      exact uncrossed entry (same ▸ queued) accepting
    · rw [if_neg same, Link.hear_nothing]
      exact paired.accepts other entry queued accepting

theorem paired_press (paired : Paired net) (sid : SessionId) (key : Key) (unhurried : net.Unhurried (.press sid key)) :
    Paired (net.setLink sid ((net.links sid).press key)) := by
  refine paired_set_link paired sid _ rfl ?_
  intro entry queued accepting
  rcases List.mem_append.mp queued with before | asked
  · exact paired.accepts sid entry before accepting
  · obtain ⟨request, pressed, rfl⟩ := List.mem_map.mp asked
    have sends : ((net.links sid).client.press key).2.any Request.accepting = true := by
      rw [Option.mem_toList.mp pressed]
      exact accepting
    exact (unhurried sends).symm

theorem unsent_valid (paired : Paired net) : PartyInvariant net.unsent :=
  ⟨paired.valid.indexed, paired.valid.honest, paired.valid.attended⟩

theorem paired_served (paired : Paired net) (sid : SessionId) (request : Request) (input : Input)
    (packet : input.event = .packet sid request) (alive : net.server.fault = none)
    (uncrossed : ∀ target, inviting net.server input = some (sid, target) →
      ∀ entry ∈ (net.links target).up, entry.1.accepting = true → entry.2 = some sid) :
    Paired (net.handled data sid input) := by
  have start := unsent_valid paired
  have valid := step_party_invariant data net.unsent input start
  by_cases here : sid ∈ net.server.sessions
  · have stepped := step_packet data net.unsent input sid request packet alive here
    rw [stepped] at valid
    rw [Net.handled, stepped]
    rcases handle_invites data (facing net.unsent input) start.indexed sid request with silent | ⟨req, target, rfl, invited, carried⟩
    · have lines := handle_line data (facing net.unsent input) start.indexed sid request
      have stays (other : SessionId) : other ∈ (handle data (facing net.unsent input) sid request).sessions ↔
          other ∈ net.server.sessions := by
        rw [mem_line, mem_line, lines]
        rfl
      refine paired_silent paired sid (facing net.unsent input) _ rfl rfl silent valid ?_ ?_
      · exact fun other there => (lines other).trans (paired.open_ other ((stays other).mp there))
      · intro other asked
        obtain ⟨inviterId, known⟩ := Option.isSome_iff_exists.mp (Std.ExtTreeMap.mem_iff_isSome_getElem?.mp asked)
        have before := silent.pending other inviterId known
        exact (stays other).mpr (paired.present other (Std.ExtTreeMap.mem_iff_isSome_getElem?.mpr (Option.isSome_of_eq_some before)))
    · rw [carried] at valid ⊢
      have asked : inviting net.server input = some (sid, target) := by
        simp only [inviting, packet, if_pos (And.intro alive here)]
        exact congrArg (Option.map (fun target => (sid, target))) invited
      exact paired_invite paired sid target (facing net.unsent input) rfl rfl rfl req invited valid (uncrossed target asked)
  · have stepped := step_stray data net.unsent input sid request packet alive here
    rw [stepped] at valid
    rw [Net.handled, stepped]
    exact paired_silent paired sid net.unsent _ rfl rfl ⟨fun _ _ => id, fun _ _ => id⟩ valid paired.open_ paired.present

theorem paired_disconnect (paired : Paired net) (sid : SessionId) (input : Input) (leaves : input.event = .disconnect sid)
    (alive : net.server.fault = none) (here : sid ∈ net.server.sessions) :
    Paired ((net.handled data sid input).setLink sid {}) := by
  have valid := step_party_invariant data net.unsent input (unsent_valid paired)
  have stepped := step_disconnect data net.unsent input sid leaves alive here
  rw [stepped] at valid
  obtain ⟨extra, others, sent, party, sessions⟩ := on_disconnect_spec (setUnconnected (facing net.unsent input) sid) sid
  have removed := remove_from_party_invites (setUnconnected (facing net.unsent input) sid) sid
  have silent : InvitesNobody net.unsent (onDisconnect (setUnconnected (facing net.unsent input) sid) sid) := by
    constructor
    · intro other inviterId known
      rw [party] at known
      exact removed.pending other inviterId (erased_pending _ sid other inviterId known).2
    · intro other invitation told
      rw [sent] at told
      rcases List.mem_append.mp told with old | fresh
      · exact removed.silent other invitation old
      · exact (others _ fresh).elim
  have gone := on_disconnect_gone (facing net.unsent input) sid
  have apart (other : SessionId) (there : other ∈ (onDisconnect (setUnconnected (facing net.unsent input) sid) sid).sessions) :
      other ≠ sid := fun same => gone (same ▸ there)
  have asked (other : SessionId) (known : other ∈ (onDisconnect (setUnconnected (facing net.unsent input) sid) sid).party.pendingInvites) :
      other ≠ sid ∧ other ∈ net.server.party.pendingInvites := by
    obtain ⟨inviterId, open_⟩ := Option.isSome_iff_exists.mp (Std.ExtTreeMap.mem_iff_isSome_getElem?.mp known)
    rw [party] at open_
    obtain ⟨distinct, before⟩ := erased_pending _ sid other inviterId open_
    exact ⟨distinct, Std.ExtTreeMap.mem_iff_isSome_getElem?.mpr (Option.isSome_of_eq_some (removed.pending other inviterId before))⟩
  have line (other : SessionId) (distinct : other ≠ sid) := on_disconnect_line (facing net.unsent input) sid other distinct
  rw [Net.handled, stepped]
  refine paired_fresh (paired_silent paired sid net.unsent _ rfl rfl silent valid ?_ ?_) sid (fun known => (asked sid known).1 rfl)
  · intro other there
    rw [line other (apart other there)]
    refine paired.open_ other ((mem_line net.server other).mpr ?_)
    rw [← show (facing net.unsent input).line other = net.server.line other from rfl, ← line other (apart other there)]
    exact (mem_line _ other).mp there
  · intro other known
    obtain ⟨distinct, before⟩ := asked other known
    rw [mem_line, line other distinct]
    exact (mem_line net.server other).mp (paired.present other before)

theorem paired_connect (paired : Paired net) (input : Input) (accepts : input.event = .accept) (alive : net.server.fault = none)
    (fresh : net.server.nextSessionId ∉ net.server.sessions) :
    Paired ((net.handled data net.server.nextSessionId input).setLink net.server.nextSessionId {}) := by
  have valid := step_party_invariant data net.unsent input (unsent_valid paired)
  have stepped : step data net.unsent input = doAccept (facing net.unsent input) := by
    rw [step_alive data net.unsent input alive, accepts]
    rfl
  have entered : doAccept (facing net.unsent input) = { facing net.unsent input with
      sessions := net.server.sessions.insert net.server.nextSessionId {}, nextSessionId := net.server.nextSessionId + 1 } :=
    if_neg fresh
  have silent : InvitesNobody net.unsent (doAccept (facing net.unsent input)) := by
    rw [entered]
    exact ⟨fun _ _ => id, fun _ _ => id⟩
  rw [stepped] at valid
  rw [Net.handled, stepped]
  rw [entered] at silent valid ⊢
  refine paired_fresh (paired_silent paired net.server.nextSessionId net.unsent _ rfl rfl silent valid ?_ ?_) _ ?_
  · intro other there
    simp only [ServerState.line, Std.ExtTreeMap.getElem?_insert]
    split
    · rfl
    · rename_i distinct
      refine paired.open_ other ?_
      exact (Std.ExtTreeMap.mem_insert.mp there).resolve_left distinct
  · exact fun other known => Std.ExtTreeMap.mem_insert.mpr (.inr (paired.present other known))
  · exact fun known => fresh (paired.present _ known)

theorem paired_step (paired : Paired net) (action : Action) (inTurn : InTurn net action) : Paired (netStep data net action) := by
  cases action with
  | connect =>
      rw [netStep]
      split
      · exact paired
      · rename_i going
        rw [not_or, Bool.not_eq_true, Option.isSome_eq_false_iff, Option.isNone_iff_eq_none] at going
        exact paired_connect data paired _ rfl going.1 going.2
  | press sid key =>
      rw [netStep]
      split
      · exact paired_press paired sid key inTurn.1
      · exact paired
  | serve sid rolls dbPlan =>
      rw [netStep]
      cases alive : net.server.fault with
      | some fault => exact paired
      | none =>
          cases queued : (net.links sid).up with
          | nil => exact paired
          | cons entry rest =>
              have popped : Paired (net.setLink sid { net.links sid with up := rest }) :=
                paired_set_link paired sid _ rfl
                  (fun later member => paired.accepts sid later (queued ▸ List.mem_cons_of_mem entry member))
              have served := served_request net sid rolls dbPlan entry rest alive queued
              refine paired_served data popped sid entry.1 ⟨.packet sid entry.1, rolls, dbPlan⟩ rfl alive ?_
              intro target asked later member accepting
              have inviting : (net.served (.serve sid rolls dbPlan)).bind (fun served => inviting net.server served.1) = some (sid, target) := by
                rw [served]
                exact asked
              exact inTurn.2 sid target inviting later (popped_up net sid target entry rest queued later member) accepting
  | receive sid =>
      refine paired_set_link paired sid _ (Link.finally_displayed_receive (net.links sid)) ?_
      rw [Link.receive_up, Link.finally_displayed_receive]
      exact paired.accepts sid
  | disconnect sid =>
      rw [netStep]
      split
      · exact paired
      · rename_i going
        rw [not_or, Bool.not_eq_true, Option.isSome_eq_false_iff, Option.isNone_iff_eq_none, not_not] at going
        exact paired_disconnect data paired sid _ rfl going.1 going.2

end Invariant

section Additions

variable (data : GameData) (net : Net)

theorem net_step_party (indexed : net.server.party.Indexed) (action : Action) :
    ∃ online online', PartyMove net.server.party online
      ((net.served action).bind (fun served => answering net.server served.1)) (netStep data net action).server.party online' := by
  have stays (label : Option (SessionId × SessionId)) (silent : label = none) :
      ∃ online online', PartyMove net.server.party online label net.server.party online' :=
    ⟨∅, ∅, silent ▸ PartyMove.stay⟩
  cases action with
  | connect =>
      have silent : net.served .connect = none := by simp [Net.served]
      rw [silent, netStep]
      split
      · exact stays none rfl
      · exact ⟨_, _, (step_party data net.unsent indexed ⟨.accept, [], []⟩).move⟩
  | press sid key =>
      have silent : net.served (.press sid key) = none := by simp [Net.served]
      rw [silent, netStep]
      split <;> exact stays none rfl
  | serve sid rolls dbPlan =>
      rw [netStep]
      cases alive : net.server.fault with
      | some fault => exact stays _ (by simp [Net.served, alive])
      | none =>
          cases queued : (net.links sid).up with
          | nil => exact stays _ (by simp [Net.served, alive, queued])
          | cons entry rest =>
              rw [served_request net sid rolls dbPlan entry rest alive queued]
              exact ⟨_, _, (step_party data net.unsent indexed ⟨.packet sid entry.1, rolls, dbPlan⟩).move⟩
  | receive sid =>
      have silent : net.served (.receive sid) = none := by simp [Net.served]
      rw [silent]
      exact stays none rfl
  | disconnect sid =>
      have silent : (net.served (.disconnect sid)).bind (fun served => answering net.server served.1) = none := by
        simp only [Net.served]
        split
        · rfl
        · split <;> rfl
      rw [silent, netStep]
      split
      · exact stays none rfl
      · exact ⟨_, _, (step_party data net.unsent indexed ⟨.disconnect sid, [], []⟩).move⟩

theorem adding_answers (action : Action) (sid inviterId : SessionId) :
    (∃ seen, net.adding action = some (sid, inviterId, seen)) ↔
      (net.served action).bind (fun served => answering net.server served.1) = some (sid, inviterId) ∧
        net.server.party.roomFor inviterId := by
  rw [Net.adding]
  cases net.served action with
  | none => simp
  | some served => simp [Option.filter_eq_some_iff]

theorem adds_as_named (indexed : net.server.party.Indexed) (action : Action) : AddsAsNamed data net action := by
  obtain ⟨online, online', move⟩ := net_step_party data net indexed action
  constructor
  · intro sid inviterId seen adds
    obtain ⟨answers, room⟩ := (adding_answers net action sid inviterId).mp ⟨seen, adds⟩
    rw [answers] at move
    exact move_together sid inviterId move indexed room
  · intro sid partyId placed
    rcases move_places move sid partyId placed with before | ⟨owner, inviterId, answers, inviter | ⟨added, room⟩⟩
    · exact .inl before
    · exact .inr (.inr ⟨owner, inviter ▸ answers⟩)
    · subst added
      exact .inr (.inl ⟨inviterId, (adding_answers net action sid inviterId).mpr ⟨answers, room⟩⟩)

end Additions

section Runs

variable (data : GameData) (db : Database) (draw : Nat → Nat)

theorem boot_paired : Paired (Net.boot db draw) where
  valid := boot_party_invariant db draw
  open_ := fun _ there => absurd there (by simp [Net.boot, boot])
  present := fun _ asked => absurd asked (by simp [Net.boot, boot])
  pending := fun _ _ known => absurd known (by simp [Net.boot, boot])
  accepts := fun _ _ queued => absurd queued (by simp [Net.boot])

theorem acceptances_bind (actions : List Action) (inTurn : Machine.Guarded (netStep data) InTurn (Net.boot db draw) actions) :
    Machine.Guarded (netStep data) BindsAsSeen (Net.boot db draw) actions ∧
      Machine.Guarded (netStep data) (AddsAsNamed data) (Net.boot db draw) actions := by
  have kept (net : Net) (action : Action) (paired : Paired net) := paired_step data paired action
  constructor
  · apply Machine.guarded_of_invariant (netStep data) InTurn Paired BindsAsSeen _ kept (Net.boot db draw) actions (boot_paired db draw) inTurn
    exact fun net action paired _ => paired_binds paired action
  · apply Machine.guarded_of_invariant (netStep data) InTurn Paired _ _ kept (Net.boot db draw) actions (boot_paired db draw) inTurn
    exact fun net action paired _ => adds_as_named data net paired.valid.indexed action

instance Net.Unhurried.decidable (net : Net) : (action : Action) → Decidable (net.Unhurried action)
  | .press _ _ => inferInstanceAs (Decidable (_ → _ = _))
  | .connect => .isTrue trivial
  | .serve _ _ _ => .isTrue trivial
  | .receive _ => .isTrue trivial
  | .disconnect _ => .isTrue trivial

instance (net : Net) (action : Action) : Decidable (net.Uncrossed action) :=
  match asks : (net.served action).bind (fun served => inviting net.server served.1) with
  | none => .isTrue (by simp [Net.Uncrossed, asks])
  | some (sid, target) =>
      decidable_of_iff (∀ entry ∈ (net.links target).up, entry.1.accepting = true → entry.2 = some sid) (by simp [Net.Uncrossed, asks])

instance (net : Net) (action : Action) : Decidable (InTurn net action) := inferInstanceAs (Decidable (_ ∧ _))

instance (net : Net) (action : Action) : Decidable (BindsAsSeen net action) :=
  match adds : net.adding action with
  | none => .isTrue (by simp [BindsAsSeen, adds])
  | some (_, inviterId, seen) => decidable_of_iff (seen = some inviterId) (by simp [BindsAsSeen, adds])

def threeCharacters : Database := { twoCharacters with characters := twoCharacters.characters.add 3 [67] 0 1 0 }

def enters (sid : SessionId) (account : Bytes) (charUid : CharUid) : List Action :=
  [.connect, .press sid (.other (.login ⟨account⟩) trivial), .serve sid [] [],
    .press sid (.other (.charSelect ⟨charUid⟩) trivial), .serve sid [] []] ++ List.replicate 12 (.receive sid)

def threeClients : List Action := enters 1 [49] 1 ++ enters 2 [50] 2 ++ enters 3 [51] 3

-- The third client accepts the invitation of the first while that of the second is
-- under way.
def crossing : List Action :=
  threeClients ++ [.press 1 (.party [67]), .serve 1 [] []] ++ List.replicate 12 (.receive 3) ++
    [.press 3 .yes, .press 2 (.party [67]), .serve 2 [] [], .serve 3 [] []]

theorem crossing_binds_unseen :
    ¬ Machine.Guarded (netStep emptyData) BindsAsSeen (Net.boot threeCharacters (fun _ => 0)) crossing := by
  decide +kernel

def oneAfterTheOther : List Action :=
  threeClients ++ [.press 1 (.party [67]), .serve 1 [] []] ++ List.replicate 12 (.receive 3) ++
    [.press 3 .yes, .serve 3 [] [], .press 2 (.party [67]), .serve 2 [] []]

theorem one_after_the_other_binds :
    Machine.Guarded (netStep emptyData) BindsAsSeen (Net.boot threeCharacters (fun _ => 0)) oneAfterTheOther ∧
      Machine.Guarded (netStep emptyData) (AddsAsNamed emptyData) (Net.boot threeCharacters (fun _ => 0)) oneAfterTheOther :=
  acceptances_bind emptyData threeCharacters (fun _ => 0) oneAfterTheOther (by decide +kernel)

end Runs

end MmorpgSimulator
