import MmorpgSimulator.Invitations
import MmorpgSimulator.PartyViews

set_option autoImplicit false

namespace MmorpgSimulator

def Link.leaving (link : Link) : Prop := ∃ entry ∈ link.up, entry.1 = .partyLeave

def Link.unannounced (link : Link) : Prop := ∀ entry ∈ link.down, NoUpdate entry.2

def announcing (s : ServerState) (input : Input) : Option Announcement :=
  match input.event with
  | .packet sid .partyLeave => if sid ∈ s.sessions then shrinking s sid else none
  | .packet _ (.partyAccept _) => (answering s input).bind (fun answer => growing s answer.1 answer.2)
  | .disconnect sid => shrinking s sid
  | _ => none

structure InStep (net : Net) (action : Action) : Prop where
  -- Nobody leaves while a member list is on its way to it.
  calm : ∀ sid key, action = .press sid key → ((net.links sid).client.press key).2 = some .partyLeave → (net.links sid).unannounced
  heard : ∀ input seen announcement, net.served action = some (input, seen) → announcing net.server input = some announcement →
    Heard net.server (fun mid => (net.links mid).leaving) announcement
  -- A new party is not full at once.
  roomy : ∀ input seen sid inviterId, net.served action = some (input, seen) → answering net.server input = some (sid, inviterId) →
    ¬ net.server.party.roomFor inviterId → inviterId ∈ net.server.party.playerParty
  -- Who disconnects is listed nowhere but in its own party.
  listed : ∀ sid, action = .disconnect sid → ∀ entry ∈ net.server.party.parties.toList, sid ∈ entry.2.members →
    net.server.party.playerParty[sid]? = some entry.1

def Playing : Action → Prop
  | .press _ (.other (.charSelect _) _) => False
  | _ => True

def Net.Settled (net : Net) : Prop := ∀ sid ∈ net.server.sessions, (net.links sid).up = [] ∧ (net.links sid).down = []

def Net.Converged (net : Net) : Prop :=
  net.Settled → ∀ sid ∈ net.server.sessions,
    ShowsParty (net.links sid).client (net.server.roster sid) ∧
      ((net.links sid).client.partyCount = 0 ↔ sid ∉ net.server.party.playerParty)

structure Gathered (net : Net) : Prop where
  parties : net.server.party.parties = ∅
  playerParty : net.server.party.playerParty = ∅
  pendingInvites : net.server.party.pendingInvites = ∅
  open_ : ∀ sid ∈ net.server.sessions, net.server.line sid = some true
  settled : net.Settled
  alone : ∀ sid ∈ net.server.sessions, (net.links sid).client.partyCount = 0

-- Whoever is not about to leave shows, once all has arrived, the party it is in;
-- whoever is shows none, and no list is on its way to it.
structure Converging (net : Net) : Prop where
  valid : PartyInvariant net.server
  small : ∀ index, (net.server.party.membersOf index).length ≤ maxParty
  open_ : ∀ sid ∈ net.server.sessions, net.server.line sid = some true
  playing : ∀ sid ∈ net.server.sessions, ∀ entry ∈ (net.links sid).up, ∀ req, entry.1 ≠ .charSelect req
  shows : ∀ sid ∈ net.server.sessions, ¬ (net.links sid).leaving → ShowsParty (net.links sid).drained (net.server.roster sid)
  leaves : ∀ sid ∈ net.server.sessions, (net.links sid).leaving → (net.links sid).client.partyCount = 0 ∧ (net.links sid).unannounced

section Invariant

variable (data : GameData) {net : Net}

theorem gathered_converging (gathered : Gathered net) : Converging net where
  valid := by
    refine ⟨?_, ?_, ?_⟩
    · intro sid partyId known
      simp [gathered.playerParty] at known
    · intro sid inviterId known
      simp [gathered.pendingInvites] at known
    · intro sid known
      simp [gathered.playerParty] at known
  small := by simp [PartyState.membersOf, gathered.parties]
  open_ := gathered.open_
  playing := by
    intro sid here entry queued
    rw [(gathered.settled sid here).1] at queued
    exact absurd queued List.not_mem_nil
  shows := by
    intro sid here _
    rw [Link.drained, (gathered.settled sid here).2]
    exact shows_unplaced sid (by simp [gathered.playerParty]) (shows_nobody (gathered.alone sid here))
  leaves := by
    rintro sid here ⟨entry, queued, _⟩
    rw [(gathered.settled sid here).1] at queued
    exact absurd queued List.not_mem_nil

theorem converging_converged (converging : Converging net) : net.Converged := by
  intro settled sid here
  obtain ⟨up, down⟩ := settled sid here
  have stays : ¬ (net.links sid).leaving := by
    rintro ⟨entry, queued, _⟩
    rw [up] at queued
    exact absurd queued List.not_mem_nil
  have shows : ShowsParty (net.links sid).client (net.server.roster sid) := by
    have drained := converging.shows sid here stays
    rw [Link.drained, down] at drained
    exact drained
  refine ⟨shows, ?_⟩
  rw [shows.count, List.length_eq_zero_iff, Std.ExtTreeMap.mem_iff_isSome_getElem?]
  cases placed : net.server.party.playerParty[sid]? with
  | none => simp [roster_none sid placed]
  | some partyId =>
      obtain ⟨found, present, member⟩ := converging.valid.indexed sid partyId placed
      rw [roster_some sid partyId placed, PartyState.members_of_found net.server.party partyId found present]
      simp [List.ne_nil_of_mem member]

theorem converging_set_link (converging : Converging net) (sid : SessionId) (link : Link)
    (playing : sid ∈ net.server.sessions → ∀ entry ∈ link.up, ∀ req, entry.1 ≠ .charSelect req)
    (shows : sid ∈ net.server.sessions → ¬ link.leaving → ShowsParty link.drained (net.server.roster sid))
    (leaves : sid ∈ net.server.sessions → link.leaving → link.client.partyCount = 0 ∧ link.unannounced) :
    Converging (net.setLink sid link) := by
  refine ⟨converging.valid, converging.small, converging.open_, ?_, ?_, ?_⟩
  · intro other here
    by_cases same : other = sid
    · subst same
      rw [set_link_self]
      exact playing here
    · rw [set_link_other net sid other link same]
      exact converging.playing other here
  · intro other here
    by_cases same : other = sid
    · subst same
      rw [set_link_self]
      exact shows here
    · rw [set_link_other net sid other link same]
      exact converging.shows other here
  · intro other here
    by_cases same : other = sid
    · subst same
      rw [set_link_self]
      exact leaves here
    · rw [set_link_other net sid other link same]
      exact converging.leaves other here

theorem converging_receive (converging : Converging net) (sid : SessionId) : Converging (net.setLink sid (net.links sid).receive) := by
  have up := Link.receive_up (net.links sid)
  refine converging_set_link converging sid _ ?_ ?_ ?_
  · rw [up]
    exact converging.playing sid
  · intro here stays
    rw [Link.drained_receive]
    rw [Link.leaving, up] at stays
    exact converging.shows sid here stays
  · intro here leaves
    rw [Link.leaving, up] at leaves
    obtain ⟨empty, plain⟩ := converging.leaves sid here leaves
    rw [Link.receive, Link.unannounced]
    cases arriving : (net.links sid).down with
    | nil => exact ⟨empty, by rw [arriving]; simp⟩
    | cons entry rest =>
        rw [Link.unannounced, arriving] at plain
        have first : ∀ message ∈ [entry.2], NoUpdate message := by
          intro message member
          rw [List.mem_singleton.mp member]
          exact plain entry List.mem_cons_self
        exact ⟨count_stays [entry.2] first empty, fun later member => plain later (List.mem_cons_of_mem entry member)⟩

theorem press_party (client : Client) (key : Key) :
    (client.press key).2 = some .partyLeave ∧ (client.press key).1.partyCount = 0 ∨
      (client.press key).2 ≠ some .partyLeave ∧ partyView (client.press key).1 = partyView client := by
  cases key with
  | party name =>
      rw [Client.press]
      split
      · exact .inr ⟨nofun, rfl⟩
      · split
        · exact .inl ⟨rfl, rfl⟩
        · exact .inr ⟨nofun, rfl⟩
  | yes =>
      rw [Client.press, Client.answer]
      split
      · exact .inr ⟨nofun, rfl⟩
      · exact .inr ⟨nofun, rfl⟩
  | no =>
      rw [Client.press, Client.answer]
      split
      · exact .inr ⟨nofun, rfl⟩
      · exact .inr ⟨nofun, rfl⟩
  | other request elsewhere =>
      refine .inr ⟨?_, rfl⟩
      rintro ⟨rfl⟩
      exact elsewhere

theorem press_playing (client : Client) (sid : SessionId) (key : Key) (playing : Playing (.press sid key)) (request : Request)
    (pressed : (client.press key).2 = some request) (req : CsCharSelect) : request ≠ .charSelect req := by
  rintro rfl
  cases key with
  | party name =>
      rw [Client.press] at pressed
      split at pressed
      · exact absurd pressed nofun
      · split at pressed <;> exact absurd pressed nofun
  | yes =>
      rw [Client.press, Client.answer] at pressed
      split at pressed <;> exact absurd pressed nofun
  | no =>
      rw [Client.press, Client.answer] at pressed
      split at pressed <;> exact absurd pressed nofun
  | other request elsewhere =>
      obtain rfl : request = .charSelect req := Option.some.inj pressed
      exact playing

theorem converging_press (converging : Converging net) (sid : SessionId) (key : Key) (playing : Playing (.press sid key))
    (calm : ((net.links sid).client.press key).2 = some .partyLeave → (net.links sid).unannounced) :
    Converging (net.setLink sid ((net.links sid).press key)) := by
  refine converging_set_link converging sid _ ?_ ?_ ?_
  · intro here entry queued req
    rcases List.mem_append.mp queued with before | asked
    · exact converging.playing sid here entry before req
    · obtain ⟨request, pressed, rfl⟩ := List.mem_map.mp asked
      exact press_playing (net.links sid).client sid key playing request (Option.mem_toList.mp pressed) req
  · intro here stays
    have before : ¬ (net.links sid).leaving := by
      rintro ⟨entry, queued, leaves⟩
      exact stays ⟨entry, List.mem_append_left _ queued, leaves⟩
    have same : partyView ((net.links sid).client.press key).1 = partyView (net.links sid).client := by
      refine ((press_party (net.links sid).client key).resolve_left ?_).2
      rintro ⟨leaves, _⟩
      refine stays ⟨(.partyLeave, (net.links sid).displayed), List.mem_append_right _ ?_, rfl⟩
      rw [leaves]
      exact List.mem_singleton.mpr rfl
    exact (converging.shows sid here before).same _ (party_view_fold _ _ _ same)
  · intro here leaves
    rcases press_party (net.links sid).client key with ⟨sends, empty⟩ | ⟨keeps, same⟩
    · exact ⟨empty, calm sends⟩
    · have before : (net.links sid).leaving := by
        obtain ⟨entry, queued, leaving⟩ := leaves
        rcases List.mem_append.mp queued with old | asked
        · exact ⟨entry, old, leaving⟩
        · obtain ⟨request, pressed, rfl⟩ := List.mem_map.mp asked
          exact absurd ((Option.mem_toList.mp pressed).trans (congrArg some leaving)) keeps
      obtain ⟨empty, plain⟩ := converging.leaves sid here before
      exact ⟨(congrArg Prod.fst same).trans empty, plain⟩

theorem converging_heard (links : SessionId → Link) (cause : SessionId) (next : ServerState) (valid : PartyInvariant next)
    (small : ∀ index, (next.party.membersOf index).length ≤ maxParty) (open_ : ∀ sid ∈ next.sessions, next.line sid = some true)
    (playing : ∀ sid ∈ next.sessions, ∀ entry ∈ (links sid).up, ∀ req, entry.1 ≠ .charSelect req)
    (shows : ∀ sid ∈ next.sessions, ¬ (links sid).leaving →
      ShowsParty ((inbox next.sent sid).foldl Client.receive (links sid).drained) (next.roster sid))
    (leaves : ∀ sid ∈ next.sessions, (links sid).leaving →
      (links sid).client.partyCount = 0 ∧ (links sid).unannounced ∧ Spares next sid) :
    Converging ⟨next, fun sid => (links sid).hear cause (inbox next.sent sid)⟩ := by
  refine ⟨valid, small, open_, playing, ?_, ?_⟩
  · intro sid here stays
    rw [Link.drained_hear]
    exact shows sid here stays
  · intro sid here leaving
    obtain ⟨empty, plain, spared⟩ := leaves sid here leaving
    refine ⟨empty, ?_⟩
    intro entry queued
    rcases List.mem_append.mp queued with before | fresh
    · exact plain entry before
    · obtain ⟨message, arrived, rfl⟩ := List.mem_map.mp fresh
      exact spared message arrived

theorem unsent_party_invariant (valid : PartyInvariant net.server) : PartyInvariant net.unsent :=
  ⟨valid.indexed, valid.honest, valid.attended⟩

theorem converging_brought (converging : Converging net) (links : SessionId → Link) (cause : SessionId) (next : ServerState)
    (valid : PartyInvariant next) (small : ∀ index, (next.party.membersOf index).length ≤ maxParty)
    (lines : ∀ sid ∈ next.sessions, next.line sid = net.server.line sid)
    (same : ∀ sid, (links sid).client = (net.links sid).client ∧ (links sid).down = (net.links sid).down ∧
      ((links sid).leaving ↔ (net.links sid).leaving) ∧ ∀ entry ∈ (links sid).up, entry ∈ (net.links sid).up)
    (brings : ∀ sid ∈ next.sessions, net.server.line sid = some true →
      (¬ (net.links sid).leaving → Brings net.server next sid) ∧ ((net.links sid).leaving → Spares next sid)) :
    Converging ⟨next, fun sid => (links sid).hear cause (inbox next.sent sid)⟩ := by
  have here (sid : SessionId) (there : sid ∈ next.sessions) : sid ∈ net.server.sessions := by
    rw [mem_line, ← lines sid there]
    exact (mem_line next sid).mp there
  have line (sid : SessionId) (there : sid ∈ next.sessions) := converging.open_ sid (here sid there)
  refine converging_heard links cause next valid small (fun sid there => (lines sid there).trans (line sid there)) ?_ ?_ ?_
  · exact fun sid there entry queued => converging.playing sid (here sid there) entry ((same sid).2.2.2 entry queued)
  · intro sid there stays
    have before := (same sid).2.2.1.not.mp stays
    rw [Link.drained, (same sid).1, (same sid).2.1]
    exact (brings sid there (line sid there)).1 before _ (converging.shows sid (here sid there) before)
  · intro sid there leaves
    have before := (same sid).2.2.1.mp leaves
    obtain ⟨empty, plain⟩ := converging.leaves sid (here sid there) before
    rw [Link.unannounced, (same sid).1, (same sid).2.1]
    exact ⟨empty, plain, (brings sid there (line sid there)).2 before⟩

section Served

variable (sid : SessionId) (entry : Request × Option SessionId) (rest : List (Request × Option SessionId))
  (queued : (net.links sid).up = entry :: rest)
include queued

theorem popped_same (stays : entry.1 ≠ .partyLeave) (other : SessionId) :
    ((net.setLink sid { net.links sid with up := rest }).links other).client = (net.links other).client ∧
      ((net.setLink sid { net.links sid with up := rest }).links other).down = (net.links other).down ∧
        (((net.setLink sid { net.links sid with up := rest }).links other).leaving ↔ (net.links other).leaving) ∧
          ∀ later ∈ ((net.setLink sid { net.links sid with up := rest }).links other).up, later ∈ (net.links other).up := by
  have fewer := popped_up net sid other entry rest queued
  by_cases same : other = sid
  · subst same
    rw [set_link_self] at fewer ⊢
    refine ⟨rfl, rfl, ⟨fun ⟨later, member, leaves⟩ => ⟨later, fewer later member, leaves⟩, ?_⟩, fewer⟩
    rintro ⟨later, member, leaves⟩
    rw [queued] at member
    rcases List.mem_cons.mp member with rfl | after
    · exact absurd leaves stays
    · exact ⟨later, after, leaves⟩
  · rw [set_link_other net sid other _ same] at fewer ⊢
    exact ⟨rfl, rfl, Iff.rfl, fewer⟩

theorem converging_leave (converging : Converging net) (input : Input) (packet : input.event = .packet sid .partyLeave)
    (leave : entry.1 = .partyLeave) (alive : net.server.fault = none) (here : sid ∈ net.server.sessions)
    (heard : ∀ announcement, announcing net.server input = some announcement →
      Heard net.server (fun mid => (net.links mid).leaving) announcement) :
    Converging ((net.setLink sid { net.links sid with up := rest }).handled data sid input) := by
  have start := unsent_party_invariant converging.valid
  have valid := step_party_invariant data net.unsent input start
  have stepped : step data net.unsent input = removeFromParty (facing net.unsent input) sid :=
    step_packet data net.unsent input sid .partyLeave packet alive here
  have sessions := remove_from_party_sessions (facing net.unsent input) sid
  have party := (remove_from_party_settles (facing net.unsent input) sid).party
  have there (other : SessionId) (later : other ∈ (removeFromParty (facing net.unsent input) sid).sessions) : other ∈ net.server.sessions := by
    rwa [sessions] at later
  have line (other : SessionId) (later : other ∈ (removeFromParty (facing net.unsent input) sid).sessions) :
      (facing net.unsent input).line other = some true :=
    converging.open_ other (there other later)
  have shrinks (announcement : Announcement) (shrinking : shrinking (facing net.unsent input) sid = some announcement) :
      Heard (facing net.unsent input) (fun mid => (net.links mid).leaving) announcement := by
    have known := heard announcement (by simp only [announcing, packet, if_pos here]; exact shrinking)
    exact ⟨known.calm, known.placed⟩
  have apart (other : SessionId) (distinct : other ≠ sid) (later : other ∈ (removeFromParty (facing net.unsent input) sid).sessions) :=
    remove_from_party_brings (facing net.unsent input) (fun mid => (net.links mid).leaving) sid other start.indexed rfl
      (line other later) distinct converging.small shrinks
  have own : sid ∈ (removeFromParty (facing net.unsent input) sid).sessions → inbox (removeFromParty (facing net.unsent input) sid).sent sid = [] :=
    fun later => leaver_hears_nothing (facing net.unsent input) sid start.indexed rfl (line sid later)
  have left : (net.links sid).leaving := ⟨entry, by rw [queued]; exact List.mem_cons_self, leave⟩
  rw [stepped] at valid
  rw [Net.handled, show (net.setLink sid { net.links sid with up := rest }).unsent = net.unsent from rfl, stepped]
  refine converging_heard _ sid _ valid ?_ ?_ ?_ ?_ ?_
  · intro index
    rw [party]
    exact without_small net.server.party sid converging.small index
  · intro other later
    rw [ServerState.line, sessions]
    exact line other later
  · exact fun other later entry' member => converging.playing other (there other later) entry'
      (popped_up net sid other entry rest queued entry' member)
  · intro other later stays
    by_cases same : other = sid
    · subst same
      obtain ⟨empty, plain⟩ := converging.leaves other here left
      rw [own later, set_link_self]
      have drained : (Link.drained { net.links other with up := rest }).partyCount = 0 := by
        refine count_stays _ ?_ empty
        intro message member
        obtain ⟨arrival, arriving, rfl⟩ := List.mem_map.mp member
        exact plain arrival arriving
      exact shows_unplaced other (by rw [party]; exact leaver_unplaced (facing net.unsent input) other) (shows_nobody drained)
    · rw [set_link_other net sid other _ same] at stays ⊢
      exact (apart other same later).1 stays _ (converging.shows other (there other later) stays)
  · intro other later leaves
    by_cases same : other = sid
    · subst same
      obtain ⟨empty, plain⟩ := converging.leaves other here left
      rw [set_link_self]
      exact ⟨empty, plain, spares_nothing other (own later)⟩
    · rw [set_link_other net sid other _ same] at leaves ⊢
      obtain ⟨empty, plain⟩ := converging.leaves other (there other later) leaves
      exact ⟨empty, plain, (apart other same later).2 leaves⟩

theorem converging_packet (converging : Converging net) (input : Input) (request : Request) (packet : input.event = .packet sid request)
    (stays : entry.1 ≠ .partyLeave) (alive : net.server.fault = none) (here : sid ∈ net.server.sessions)
    (small : ∀ index, ((handle data (facing net.unsent input) sid request).party.membersOf index).length ≤ maxParty)
    (brings : ∀ other, net.server.line other = some true →
      (¬ (net.links other).leaving → Brings (facing net.unsent input) (handle data (facing net.unsent input) sid request) other) ∧
        ((net.links other).leaving → Spares (handle data (facing net.unsent input) sid request) other)) :
    Converging ((net.setLink sid { net.links sid with up := rest }).handled data sid input) := by
  have start := unsent_party_invariant converging.valid
  have valid := step_party_invariant data net.unsent input start
  have stepped := step_packet data net.unsent input sid request packet alive here
  rw [stepped] at valid
  rw [Net.handled, show (net.setLink sid { net.links sid with up := rest }).unsent = net.unsent from rfl, stepped]
  refine converging_brought converging _ sid _ valid small ?_ (popped_same sid entry rest queued stays) ?_
  · exact fun other _ => handle_line data (facing net.unsent input) start.indexed sid request other
  · exact fun other _ line => brings other line

theorem converging_elsewhere (converging : Converging net) (input : Input) (request : Request) (packet : input.event = .packet sid request)
    (stays : entry.1 ≠ .partyLeave) (alive : net.server.fault = none) (here : sid ∈ net.server.sessions)
    (elsewhere : request.Elsewhere) (unselected : ∀ req, request ≠ .charSelect req) :
    Converging ((net.setLink sid { net.links sid with up := rest }).handled data sid input) := by
  have indexed := (unsent_party_invariant converging.valid).indexed
  have quiet := handle_quiet data (s := facing net.unsent input) indexed sid request elsewhere
  refine converging_packet data sid entry rest queued converging input request packet stays alive here ?_ ?_
  · rw [quiet.party]
    exact converging.small
  · intro other _
    obtain ⟨brings, spares⟩ := elsewhere_brings data (facing net.unsent input) sid other indexed rfl request elsewhere unselected
    exact ⟨fun _ => brings, fun _ => spares⟩

theorem converging_invite (converging : Converging net) (input : Input) (req : CsPartyInvite)
    (packet : input.event = .packet sid (.partyInvite req)) (stays : entry.1 ≠ .partyLeave) (alive : net.server.fault = none)
    (here : sid ∈ net.server.sessions) :
    Converging ((net.setLink sid { net.links sid with up := rest }).handled data sid input) := by
  have indexed := (unsent_party_invariant converging.valid).indexed
  refine converging_packet data sid entry rest queued converging input (.partyInvite req) packet stays alive here ?_ ?_
  · intro index
    rw [handle]
    rcases on_party_invite_spec (facing net.unsent input) sid indexed req with ⟨reason, _, refused⟩ | ⟨target, _, carried⟩
    · rw [refused]
      exact converging.small index
    · rw [carried]
      exact converging.small index
  · intro other _
    obtain ⟨brings, spares⟩ := on_party_invite_brings (facing net.unsent input) sid other indexed rfl req
    exact ⟨fun _ => brings, fun _ => spares⟩

theorem converging_accept (converging : Converging net) (input : Input) (req : CsPartyAccept)
    (packet : input.event = .packet sid (.partyAccept req)) (stays : entry.1 ≠ .partyLeave) (alive : net.server.fault = none)
    (here : sid ∈ net.server.sessions)
    (heard : ∀ announcement, announcing net.server input = some announcement →
      Heard net.server (fun mid => (net.links mid).leaving) announcement)
    (roomy : ∀ inviterId, answering net.server input = some (sid, inviterId) → ¬ net.server.party.roomFor inviterId →
      inviterId ∈ net.server.party.playerParty) :
    Converging ((net.setLink sid { net.links sid with up := rest }).handled data sid input) := by
  have indexed := (unsent_party_invariant converging.valid).indexed
  have answers (inviterId : SessionId) (invited : net.server.party.pendingInvites[sid]? = some inviterId) (yes : req.accept ≠ 0)
      (there : inviterId ∈ net.server.sessions) : answering net.server input = some (sid, inviterId) := by
    rw [answering_accept net.server input sid req packet alive here yes, invited, Option.filter_some, if_pos (by simpa using there)]
    rfl
  have room := fun inviterId invited yes there => roomy inviterId (answers inviterId invited yes there)
  refine converging_packet data sid entry rest queued converging input (.partyAccept req) packet stays alive here ?_ ?_
  · exact accepted_small (facing net.unsent input) sid indexed req converging.small room
  · intro other line
    refine on_party_accept_brings (facing net.unsent input) (fun mid => (net.links mid).leaving) sid other indexed rfl line req room ?_
    intro inviterId invited yes there announcement grows
    have known := heard announcement (by
      simp only [announcing, packet, answers inviterId invited yes there, Option.bind_some]
      exact grows)
    exact ⟨known.calm, known.placed⟩

theorem converging_served (converging : Converging net) (input : Input) (packet : input.event = .packet sid entry.1)
    (alive : net.server.fault = none) (here : sid ∈ net.server.sessions)
    (heard : ∀ announcement, announcing net.server input = some announcement →
      Heard net.server (fun mid => (net.links mid).leaving) announcement)
    (roomy : ∀ inviterId, answering net.server input = some (sid, inviterId) → ¬ net.server.party.roomFor inviterId →
      inviterId ∈ net.server.party.playerParty) :
    Converging ((net.setLink sid { net.links sid with up := rest }).handled data sid input) := by
  have unselected := converging.playing sid here entry (by rw [queued]; exact List.mem_cons_self)
  obtain ⟨request, seen⟩ := entry
  have elsewhere (plain : request.Elsewhere) (stays : request ≠ .partyLeave) :=
    converging_elsewhere data sid (request, seen) rest queued converging input request packet stays alive here plain unselected
  cases request with
  | partyLeave => exact converging_leave data sid (.partyLeave, seen) rest queued converging input packet rfl alive here heard
  | partyAccept req =>
      exact converging_accept data sid (.partyAccept req, seen) rest queued converging input req packet nofun alive here heard roomy
  | partyInvite req => exact converging_invite data sid (.partyInvite req, seen) rest queued converging input req packet nofun alive here
  | _ => exact elsewhere trivial nofun

end Served

theorem converging_stray (converging : Converging net) (sid : SessionId) (link : Link) (input : Input) (request : Request)
    (packet : input.event = .packet sid request) (alive : net.server.fault = none) (gone : sid ∉ net.server.sessions) :
    Converging ((net.setLink sid link).handled data sid input) := by
  have valid := step_party_invariant data net.unsent input (unsent_party_invariant converging.valid)
  have stepped := step_stray data net.unsent input sid request packet alive gone
  have absent := converging_set_link converging sid link (fun here => absurd here gone) (fun here => absurd here gone)
    (fun here => absurd here gone)
  rw [stepped] at valid
  rw [Net.handled, show (net.setLink sid link).unsent = net.unsent from rfl, stepped]
  refine converging_brought absent _ sid (facing net.unsent input) valid converging.small (fun _ _ => rfl)
    (fun _ => ⟨rfl, rfl, Iff.rfl, fun _ => id⟩) ?_
  exact fun other _ _ => ⟨fun _ => brings_nothing other rfl rfl, fun _ => spares_nothing other rfl⟩

theorem converging_disconnect (converging : Converging net) (sid : SessionId) (input : Input) (leaves : input.event = .disconnect sid)
    (alive : net.server.fault = none) (here : sid ∈ net.server.sessions)
    (heard : ∀ announcement, announcing net.server input = some announcement →
      Heard net.server (fun mid => (net.links mid).leaving) announcement)
    (listed : ∀ index, sid ∈ net.server.party.membersOf index → net.server.party.playerParty[sid]? = some index) :
    Converging ((net.handled data sid input).setLink sid {}) := by
  have start := unsent_party_invariant converging.valid
  have valid := step_party_invariant data net.unsent input start
  have stepped := step_disconnect data net.unsent input sid leaves alive here
  have gone := on_disconnect_gone (facing net.unsent input) sid
  have apart (other : SessionId) (there : other ∈ (onDisconnect (setUnconnected (facing net.unsent input) sid) sid).sessions) :
      other ≠ sid := fun same => gone (same ▸ there)
  obtain ⟨_, _, _, party, _⟩ := on_disconnect_spec (setUnconnected (facing net.unsent input) sid) sid
  have moved := (remove_from_party_settles (setUnconnected (facing net.unsent input) sid) sid).party
  rw [stepped] at valid
  rw [Net.handled, stepped]
  refine converging_set_link (converging_brought converging net.links sid _ valid ?_ ?_ (fun _ => ⟨rfl, rfl, Iff.rfl, fun _ => id⟩) ?_)
    sid {} (fun there => absurd there gone) (fun there => absurd there gone) (fun there => absurd there gone)
  · intro index
    rw [party, moved]
    exact without_small net.server.party sid converging.small index
  · exact fun other there => on_disconnect_line (facing net.unsent input) sid other (apart other there)
  · intro other there line
    refine on_disconnect_brings (facing net.unsent input) (fun mid => (net.links mid).leaving) sid other start.indexed rfl line
      (apart other there) converging.small ?_ listed
    intro announcement shrinks
    have known := heard announcement (by simp only [announcing, leaves]; exact shrinks)
    exact ⟨known.calm, known.placed⟩

theorem converging_joined (converging : Converging net) (fresh cause : SessionId) (next : ServerState) (valid : PartyInvariant next)
    (party : next.party = net.server.party) (unsent : next.sent = []) (players : ∀ mid, next.player mid = net.server.player mid)
    (lines : ∀ sid, next.line sid = if sid = fresh then some true else net.server.line sid)
    (unplaced : net.server.party.playerParty[fresh]? = none) :
    Converging (Net.setLink ⟨next, fun sid => (net.links sid).hear cause (inbox next.sent sid)⟩ fresh {}) := by
  have roster (sid : SessionId) : next.roster sid = net.server.roster sid :=
    roster_same sid (by rw [party]) (fun _ _ => by rw [party]) (fun _ _ mid _ => by rw [players])
  have known (sid : SessionId) (apart : sid ≠ fresh) (there : sid ∈ next.sessions) : sid ∈ net.server.sessions := by
    rw [mem_line, lines, if_neg apart] at there
    exact (mem_line net.server sid).mpr there
  have still (sid : SessionId) : (net.links sid).hear cause (inbox next.sent sid) = net.links sid := by
    rw [unsent]
    exact Link.hear_nothing (net.links sid) cause
  simp only [still]
  refine ⟨valid, fun index => ?_, ?_, ?_, ?_, ?_⟩
  · change (next.party.membersOf index).length ≤ maxParty
    rw [party]
    exact converging.small index
  · intro sid there
    change next.line sid = some true
    rw [lines]
    split
    · rfl
    · rename_i apart
      exact converging.open_ sid (known sid apart there)
  · intro sid there
    by_cases same : sid = fresh
    · rw [same, set_link_self]
      exact nofun
    · rw [set_link_other _ fresh sid _ same]
      exact converging.playing sid (known sid same there)
  · intro sid there
    change ¬ _ → ShowsParty _ (next.roster sid)
    rw [roster]
    by_cases same : sid = fresh
    · subst same
      rw [set_link_self]
      exact fun _ => shows_unplaced _ unplaced (shows_nobody rfl)
    · rw [set_link_other _ fresh sid _ same]
      exact converging.shows sid (known sid same there)
  · intro sid there
    by_cases same : sid = fresh
    · rw [same, set_link_self]
      rintro ⟨entry, queued, _⟩
      exact absurd queued List.not_mem_nil
    · rw [set_link_other _ fresh sid _ same]
      exact converging.leaves sid (known sid same there)

theorem converging_connect (converging : Converging net) (input : Input) (accepts : input.event = .accept)
    (alive : net.server.fault = none) (fresh : net.server.nextSessionId ∉ net.server.sessions) :
    Converging ((net.handled data net.server.nextSessionId input).setLink net.server.nextSessionId {}) := by
  have valid := step_party_invariant data net.unsent input (unsent_party_invariant converging.valid)
  have stepped : step data net.unsent input = doAccept (facing net.unsent input) := by
    rw [step_alive data net.unsent input alive, accepts]
    rfl
  have players := (idle_do_accept (facing net.unsent input)).players
  have unplaced : net.server.party.playerParty[net.server.nextSessionId]? = none :=
    Std.ExtTreeMap.getElem?_eq_none (fun placed => fresh (converging.valid.attended _ placed))
  have entered : doAccept (facing net.unsent input) = { facing net.unsent input with
      sessions := net.server.sessions.insert net.server.nextSessionId {}, nextSessionId := net.server.nextSessionId + 1 } :=
    if_neg fresh
  have lines (sid : SessionId) : (doAccept (facing net.unsent input)).line sid =
      if sid = net.server.nextSessionId then some true else net.server.line sid := by
    rw [entered]
    by_cases same : sid = net.server.nextSessionId
    · rw [if_pos same, same]
      simp [ServerState.line]
    · have away : compare net.server.nextSessionId sid ≠ .eq := fun equal => same (Std.compare_eq_iff_eq.mp equal).symm
      simp only [ServerState.line, Std.ExtTreeMap.getElem?_insert, if_neg away, if_neg same]
  have party : (doAccept (facing net.unsent input)).party = net.server.party := by
    rw [entered]
    rfl
  have unsent : (doAccept (facing net.unsent input)).sent = [] := by
    rw [entered]
    rfl
  rw [stepped] at valid
  rw [Net.handled, stepped]
  exact converging_joined converging net.server.nextSessionId _ _ valid party unsent players lines unplaced

theorem converging_step (converging : Converging net) (action : Action) (playing : Playing action) (inStep : InStep net action) :
    Converging (netStep data net action) := by
  cases action with
  | connect =>
      rw [netStep]
      split
      · exact converging
      · rename_i going
        rw [not_or, Bool.not_eq_true, Option.isSome_eq_false_iff, Option.isNone_iff_eq_none] at going
        exact converging_connect data converging _ rfl going.1 going.2
  | press sid key =>
      rw [netStep]
      split
      · exact converging_press converging sid key playing (inStep.calm sid key rfl)
      · exact converging
  | receive sid => exact converging_receive converging sid
  | disconnect sid =>
      rw [netStep]
      split
      · exact converging
      · rename_i going
        rw [not_or, Bool.not_eq_true, Option.isSome_eq_false_iff, Option.isNone_iff_eq_none, not_not] at going
        have served : net.served (.disconnect sid) = some (⟨.disconnect sid, [], []⟩, none) := by
          simp [Net.served, going.1, going.2]
        refine converging_disconnect data converging sid _ rfl going.1 going.2 (fun announcement => inStep.heard _ _ announcement served) ?_
        intro index member
        rw [PartyState.membersOf] at member
        cases present : net.server.party.parties[index]? with
        | none => simp [present] at member
        | some found =>
            rw [present] at member
            exact inStep.listed sid rfl (index, found) (Std.ExtTreeMap.mem_toList_iff_getElem?_eq_some.mpr present) member
  | serve sid rolls dbPlan =>
      rw [netStep]
      cases alive : net.server.fault with
      | some fault => exact converging
      | none =>
          cases queued : (net.links sid).up with
          | nil => exact converging
          | cons entry rest =>
              have served := served_request net sid rolls dbPlan entry rest alive queued
              have heard := fun announcement => inStep.heard _ _ announcement served
              by_cases here : sid ∈ net.server.sessions
              · exact converging_served data sid entry rest queued converging _ rfl alive here heard
                  (fun inviterId => inStep.roomy _ _ sid inviterId served)
              · exact converging_stray data converging sid _ _ entry.1 rfl alive here

end Invariant

section Checks

def Message.isUpdate : Message → Bool
  | .partyUpdate _ => true
  | _ => false

instance NoUpdate.decidable (message : Message) : Decidable (NoUpdate message) :=
  decidable_of_iff (message.isUpdate = false) (by cases message <;> simp [Message.isUpdate, NoUpdate])

instance Link.leaving.decidable (link : Link) : Decidable link.leaving :=
  inferInstanceAs (Decidable (∃ entry ∈ link.up, entry.1 = .partyLeave))

instance Link.unannounced.decidable (link : Link) : Decidable link.unannounced :=
  inferInstanceAs (Decidable (∀ entry ∈ link.down, NoUpdate entry.2))

instance Heard.decidable (s : ServerState) (leaving : SessionId → Prop) [∀ sid, Decidable (leaving sid)] (announcement : Announcement) :
    Decidable (Heard s leaving announcement) :=
  have : Decidable (∀ mid ∈ announcement.listeners, ¬ leaving mid) := List.decidableBAll _ _
  have : Decidable (∀ mid ∈ s.party.membersOf announcement.partyId, mid ≠ announcement.mover →
      s.party.playerParty[mid]? = some announcement.partyId) := List.decidableBAll _ _
  decidable_of_iff ((∀ mid ∈ announcement.listeners, ¬ leaving mid) ∧ _) ⟨fun both => ⟨both.1, both.2⟩, fun heard => ⟨heard.calm, heard.placed⟩⟩

def Net.calmly (net : Net) : Action → Bool
  | .press sid key => decide (((net.links sid).client.press key).2 = some .partyLeave → (net.links sid).unannounced)
  | _ => true

def Net.loosely (net : Net) : Action → Bool
  | .disconnect sid =>
      decide (∀ entry ∈ net.server.party.parties.toList, sid ∈ entry.2.members → net.server.party.playerParty[sid]? = some entry.1)
  | _ => true

def Net.orderly (net : Net) (action : Action) : Bool :=
  (net.served action).all (fun served =>
    (announcing net.server served.1).all (fun announcement => decide (Heard net.server (fun mid => (net.links mid).leaving) announcement)) &&
      (answering net.server served.1).all (fun answer =>
        decide (¬ net.server.party.roomFor answer.2 → answer.2 ∈ net.server.party.playerParty)))

theorem in_step_iff (net : Net) (action : Action) :
    InStep net action ↔ net.calmly action = true ∧ net.loosely action = true ∧ net.orderly action = true := by
  constructor
  · intro inStep
    refine ⟨?_, ?_, ?_⟩
    · cases action with
      | press sid key => exact decide_eq_true (inStep.calm sid key rfl)
      | _ => rfl
    · cases action with
      | disconnect sid => exact decide_eq_true (inStep.listed sid rfl)
      | _ => rfl
    · rw [Net.orderly, Option.all_eq_true]
      rintro ⟨input, seen⟩ served
      rw [Bool.and_eq_true, Option.all_eq_true, Option.all_eq_true]
      exact ⟨fun announcement announces => decide_eq_true (inStep.heard input seen announcement served announces),
        fun answer answers => decide_eq_true (inStep.roomy input seen answer.1 answer.2 served answers)⟩
  · rintro ⟨calm, loose, orderly⟩
    rw [Net.orderly, Option.all_eq_true] at orderly
    refine ⟨?_, ?_, ?_, ?_⟩
    · rintro sid key rfl
      exact of_decide_eq_true calm
    · intro input seen announcement served announces
      have both := orderly (input, seen) served
      rw [Bool.and_eq_true, Option.all_eq_true] at both
      exact of_decide_eq_true (both.1 announcement announces)
    · intro input seen sid inviterId served answers
      have both := orderly (input, seen) served
      rw [Bool.and_eq_true, Option.all_eq_true, Option.all_eq_true] at both
      exact of_decide_eq_true (both.2 (sid, inviterId) answers)
    · rintro sid rfl
      exact of_decide_eq_true loose

instance (net : Net) (action : Action) : Decidable (InStep net action) := decidable_of_iff' _ (in_step_iff net action)

theorem every_session (s : ServerState) (property : SessionId → Prop) :
    (∀ sid ∈ s.sessions, property sid) ↔ ∀ sid ∈ s.sessions.toList.map Prod.fst, property sid := by
  constructor
  · intro holds sid listed
    obtain ⟨entry, stored, rfl⟩ := List.mem_map.mp listed
    have there := Std.ExtTreeMap.mem_toList_iff_getElem?_eq_some.mp stored
    exact holds entry.1 (Std.ExtTreeMap.mem_iff_isSome_getElem?.mpr (Option.isSome_of_eq_some there))
  · intro holds sid there
    obtain ⟨session, stored⟩ := Option.isSome_iff_exists.mp (Std.ExtTreeMap.mem_iff_isSome_getElem?.mp there)
    exact holds sid (List.mem_map.mpr ⟨(sid, session), Std.ExtTreeMap.mem_toList_iff_getElem?_eq_some.mpr stored, rfl⟩)

instance EverySession.decidable (s : ServerState) (property : SessionId → Prop) [∀ sid, Decidable (property sid)] :
    Decidable (∀ sid ∈ s.sessions, property sid) :=
  @decidable_of_iff' _ _ (every_session s property) (List.decidableBAll _ _)

instance ShowsParty.decidable (client : Client) (roster : List CharUid) : Decidable (ShowsParty client roster) :=
  decidable_of_iff (client.partyCount = roster.length ∧ client.shownParty = roster)
    ⟨fun both => ⟨both.1, both.2⟩, fun shows => ⟨shows.count, shows.members⟩⟩

instance (net : Net) : Decidable net.Settled := EverySession.decidable net.server _

instance (net : Net) : Decidable net.Converged :=
  have : Decidable (∀ sid ∈ net.server.sessions, ShowsParty (net.links sid).client (net.server.roster sid) ∧
      ((net.links sid).client.partyCount = 0 ↔ sid ∉ net.server.party.playerParty)) := EverySession.decidable net.server _
  inferInstanceAs (Decidable (net.Settled → _))

end Checks

section Runs

variable (data : GameData)

theorem views_converge (net : Net) (gathered : Gathered net) (actions : List Action) (playing : ∀ action ∈ actions, Playing action)
    (inStep : Machine.Guarded (netStep data) InStep net actions) :
    Machine.Throughout (netStep data) Net.Converged net actions := by
  refine Machine.throughout_of_guarded (netStep data) (fun net action => Playing action ∧ InStep net action) Converging Net.Converged
    (fun net => converging_converged) ?_ net actions (gathered_converging gathered) (Machine.guarded_among _ _ _ _ _ playing inStep)
  exact fun net action converging step => converging_step data converging action step.1 step.2

def gathering : Net :=
  Machine.run (netStep emptyData) (Net.boot threeCharacters (fun _ => 0))
    (threeClients ++ List.replicate 12 (.receive 1) ++ List.replicate 12 (.receive 2))

def thirdJoins : List Action :=
  [.press 1 (.party [66]), .serve 1 [] [], .press 1 (.party [67]), .serve 1 [] [], .receive 2, .press 2 .yes, .serve 2 [] [],
    .receive 1, .receive 2, .receive 3, .press 3 .yes, .serve 3 [] []]

def takenIn : List Action := List.replicate 3 (.receive 1) ++ List.replicate 3 (.receive 2) ++ List.replicate 3 (.receive 3)

-- The second member leaves before the list with the third has reached it.
def hastyLeave : List Action := thirdJoins ++ [.press 2 (.party []), .serve 2 [] []] ++ takenIn

theorem gathering_gathered : Gathered gathering where
  parties := Std.ExtTreeMap.isEmpty_iff.mp (by decide +kernel)
  playerParty := Std.ExtTreeMap.isEmpty_iff.mp (by decide +kernel)
  pendingInvites := Std.ExtTreeMap.isEmpty_iff.mp (by decide +kernel)
  open_ := by decide +kernel
  settled := by decide +kernel
  alone := by decide +kernel

theorem hasty_leave_diverges :
    Gathered gathering ∧ (∀ action ∈ hastyLeave, Playing action) ∧
      ¬ Machine.Throughout (netStep emptyData) Net.Converged gathering hastyLeave := by
  refine ⟨gathering_gathered, by simp [hastyLeave, thirdJoins, takenIn, Playing], ?_⟩
  intro holds
  have last := Machine.throughout_run (netStep emptyData) Net.Converged gathering hastyLeave [] (by rwa [List.append_nil])
  exact absurd last (by decide +kernel)

def patientLeave : List Action := thirdJoins ++ [.receive 2, .press 2 (.party []), .serve 2 [] []] ++ takenIn

theorem patient_leave_converges : Machine.Throughout (netStep emptyData) Net.Converged gathering patientLeave :=
  views_converge emptyData gathering gathering_gathered patientLeave (by simp [patientLeave, thirdJoins, takenIn, Playing])
    (by decide +kernel)

end Runs

end MmorpgSimulator
