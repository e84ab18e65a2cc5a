import MmorpgSimulator.Wire

set_option autoImplicit false

namespace MmorpgSimulator

def Client.shownParty (client : Client) : List CharUid :=
  (client.partyMembers.toList.take client.partyCount).map ScPartyMember.charUid

def ServerState.roster (s : ServerState) (sid : SessionId) : List CharUid :=
  match s.party.playerParty[sid]? with
  | none => []
  | some partyId => (s.party.membersOf partyId).map (fun mid => (s.player mid).charUid)

structure ShowsParty (client : Client) (roster : List CharUid) : Prop where
  count : client.partyCount = roster.length
  members : client.shownParty = roster

section Clients

def partyView (client : Client) : Nat × Vector ScPartyMember maxParty := (client.partyCount, client.partyMembers)

def Announces : Message → Prop
  | .partyUpdate _ => True
  | .partyLeave _ => True
  | _ => False

variable {client : Client}

theorem party_hushed (message : Message) (other : ¬ Announces message) : Hushed partyView message := by
  intro client
  cases message with
  | partyUpdate upd => exact absurd trivial other
  | partyLeave leave => exact absurd trivial other
  | inventoryList list => exact Machine.foldl_frame Client.onInventoryUpdate partyView (fun _ _ => rfl) _ client
  | charInfo info =>
      rw [Client.receive, Client.onCharInfo]
      split
      · rfl
      · split <;> rfl
  | moveResult result =>
      rw [Client.receive, Client.onMoveResult]
      split <;> rfl
  | attackResult result =>
      rw [Client.receive, Client.onAttackResult]
      split <;> rfl
  | attendanceResult result =>
      rw [Client.receive, Client.onAttendanceResult]
      split <;> rfl
  | equipResult result =>
      rw [Client.receive, Client.onEquipResult]
      split <;> rfl
  | questAcceptResult result =>
      rw [Client.receive, Client.onQuestAcceptResult]
      split <;> rfl
  | questReward reward =>
      rw [Client.receive, Client.onQuestRewardResult]
      split <;> rfl
  | _ => rfl

theorem party_view_receive (message : Message) (first second : Client) (same : partyView first = partyView second) :
    partyView (first.receive message) = partyView (second.receive message) := by
  by_cases announces : Announces message
  · obtain ⟨count, members⟩ := Prod.mk.inj same
    cases message with
    | partyUpdate upd =>
        refine Prod.ext rfl (Vector.ext ?_)
        intro index inside
        simp only [partyView, Client.receive, Client.onPartyUpdateRecv, Vector.getElem_ofFn, members]
    | partyLeave leave =>
        simp only [Client.receive, Client.onPartyLeaveRecv]
        split
        · exact Prod.ext rfl members
        · exact same
    | _ => exact announces.elim
  · rw [party_hushed message announces first, party_hushed message announces second, same]

theorem party_view_fold (messages : List Message) (first second : Client) (same : partyView first = partyView second) :
    partyView (messages.foldl Client.receive first) = partyView (messages.foldl Client.receive second) := by
  induction messages generalizing first second with
  | nil => exact same
  | cons message rest ih => exact ih _ _ (party_view_receive message first second same)

theorem ShowsParty.same {roster : List CharUid} (shows : ShowsParty client roster) (other : Client)
    (same : partyView other = partyView client) : ShowsParty other roster := by
  obtain ⟨count, members⟩ := Prod.mk.inj same
  exact ⟨count.trans shows.count, by rw [← shows.members, Client.shownParty, Client.shownParty, count, members]⟩

theorem ShowsParty.hushed {roster : List CharUid} (shows : ShowsParty client roster) (messages : List Message)
    (others : ∀ message ∈ messages, ¬ Announces message) : ShowsParty (messages.foldl Client.receive client) roster :=
  shows.same _ (hushed_fold partyView messages (fun message member => party_hushed message (others message member)) client)

theorem shows_nobody (empty : client.partyCount = 0) : ShowsParty client [] := by
  refine ⟨empty, ?_⟩
  rw [Client.shownParty, empty]
  rfl

theorem count_stays (messages : List Message) (plain : ∀ message ∈ messages, NoUpdate message)
    (empty : client.partyCount = 0) : (messages.foldl Client.receive client).partyCount = 0 := by
  induction messages generalizing client with
  | nil => exact empty
  | cons message rest ih =>
      refine ih (fun later member => plain later (List.mem_cons_of_mem message member)) ?_
      by_cases announces : Announces message
      · cases message with
        | partyUpdate upd => exact (plain _ List.mem_cons_self).elim
        | partyLeave leave =>
            rw [Client.receive, Client.onPartyLeaveRecv]
            split
            · rfl
            · exact empty
        | _ => exact announces.elim
      · exact (congrArg Prod.fst (party_hushed message announces client)).trans empty

theorem shows_disbanded (leave : ScPartyLeave) (disbands : leave.charUid = 0) : ShowsParty (client.receive (.partyLeave leave)) [] := by
  refine shows_nobody ?_
  rw [Client.receive, Client.onPartyLeaveRecv, if_pos disbands]

theorem party_member_uid (s : ServerState) (mid : SessionId) : (partyMemberOf s mid).charUid = (s.player mid).charUid := by
  rw [partyMemberOf, ServerState.player]
  cases s.sessions[mid]? <;> rfl

theorem shows_update (s : ServerState) (members : List SessionId) (small : members.length ≤ maxParty) :
    ShowsParty (client.receive (.partyUpdate (partyUpdateOf s members))) (members.map (fun mid => (s.player mid).charUid)) := by
  have count : (UInt8.ofNat members.length).toNat = members.length := by
    rw [UInt8.toNat_ofNat']
    rw [maxParty] at small
    omega
  have shown : (client.receive (.partyUpdate (partyUpdateOf s members))).partyCount = members.length := count
  refine ⟨by rw [shown, List.length_map], ?_⟩
  rw [Client.shownParty, shown]
  apply List.ext_getElem
  · simp [small]
  · intro index inside bound
    have listed : index < members.length := by simpa using bound
    simp [Client.receive, Client.onPartyUpdateRecv, partyUpdateOf, count, listed, party_member_uid]

end Clients

-- The new list of a party goes out: who moves in or out of it, and who is told.
structure Announcement where
  partyId : UInt32
  mover : SessionId
  listeners : List SessionId

def shrinking (s : ServerState) (sid : SessionId) : Option Announcement :=
  (s.party.playerParty[sid]?).bind (fun partyId =>
    if 1 < (remaining (s.party.membersOf partyId) sid).length then some ⟨partyId, sid, remaining (s.party.membersOf partyId) sid⟩
    else none)

def growing (s : ServerState) (sid inviterId : SessionId) : Option Announcement :=
  if s.party.roomFor inviterId then
    some ⟨(s.party.partyOf inviterId).2, sid, s.party.membersOf (s.party.partyOf inviterId).2 ++ [inviterId, sid]⟩
  else none

structure Heard (s : ServerState) (leaving : SessionId → Prop) (announcement : Announcement) : Prop where
  calm : ∀ mid ∈ announcement.listeners, ¬ leaving mid
  placed : ∀ mid ∈ s.party.membersOf announcement.partyId, mid ≠ announcement.mover →
    s.party.playerParty[mid]? = some announcement.partyId

def Brings (s t : ServerState) (sid : SessionId) : Prop :=
  ∀ client, ShowsParty client (s.roster sid) → ShowsParty ((inbox t.sent sid).foldl Client.receive client) (t.roster sid)

def Spares (t : ServerState) (sid : SessionId) : Prop := ∀ message ∈ inbox t.sent sid, NoUpdate message

section News

variable {s t : ServerState} (sid other : SessionId)

theorem roster_none (unplaced : s.party.playerParty[sid]? = none) : s.roster sid = [] := by
  rw [ServerState.roster, unplaced]

theorem roster_some (partyId : UInt32) (placed : s.party.playerParty[sid]? = some partyId) :
    s.roster sid = (s.party.membersOf partyId).map (fun mid => (s.player mid).charUid) := by
  rw [ServerState.roster, placed]

theorem shows_placed (s : ServerState) (partyId : UInt32) (members : List SessionId) {client : Client}
    (placed : t.party.playerParty[sid]? = some partyId) (listed : t.party.membersOf partyId = members)
    (players : ∀ mid, t.player mid = s.player mid) (shows : ShowsParty client (members.map (fun mid => (s.player mid).charUid))) :
    ShowsParty client (t.roster sid) := by
  rw [roster_some sid partyId placed, listed]
  simpa only [players] using shows

theorem shows_unplaced {client : Client} (unplaced : t.party.playerParty[sid]? = none) (shows : ShowsParty client []) :
    ShowsParty client (t.roster sid) := by
  rwa [roster_none sid unplaced]

theorem roster_same (placed : t.party.playerParty[sid]? = s.party.playerParty[sid]?)
    (members : ∀ partyId, s.party.playerParty[sid]? = some partyId → t.party.membersOf partyId = s.party.membersOf partyId)
    (players : ∀ partyId, s.party.playerParty[sid]? = some partyId → ∀ mid ∈ s.party.membersOf partyId,
      (t.player mid).charUid = (s.player mid).charUid) : t.roster sid = s.roster sid := by
  cases known : s.party.playerParty[sid]? with
  | none => rw [roster_none sid known, roster_none sid (placed.trans known)]
  | some partyId =>
      rw [roster_some sid partyId known, roster_some sid partyId (placed.trans known), members partyId known]
      exact List.map_congr_left (players partyId known)

theorem plain_no_update (message : Message) (plain : ¬ Announces message) : NoUpdate message := by
  cases message with
  | partyUpdate upd => exact absurd trivial plain
  | _ => exact trivial

theorem spares_plain (others : ∀ message ∈ inbox t.sent sid, ¬ Announces message) : Spares t sid :=
  fun message member => plain_no_update message (others message member)

theorem brings_plain (same : t.roster sid = s.roster sid) (others : ∀ message ∈ inbox t.sent sid, ¬ Announces message) : Brings s t sid := by
  intro client shows
  rw [same]
  exact shows.hushed _ others

theorem brings_nothing (same : t.roster sid = s.roster sid) (silent : inbox t.sent sid = []) : Brings s t sid := by
  refine brings_plain sid same ?_
  rw [silent]
  exact nofun

theorem spares_nothing (silent : inbox t.sent sid = []) : Spares t sid := by
  rw [Spares, silent]
  exact nofun

theorem copies_last (message : Message) (receivers : List SessionId) (listed : sid ∈ receivers) (before : List Message) (client : Client) :
    ∃ earlier : List Message, (before ++ List.replicate (receivers.count sid) message).foldl Client.receive client =
      (earlier.foldl Client.receive client).receive message := by
  obtain ⟨count, positive⟩ := Nat.exists_eq_succ_of_ne_zero (Nat.ne_of_gt (List.count_pos_iff.mpr listed))
  refine ⟨before ++ List.replicate count message, ?_⟩
  rw [positive, List.replicate_succ', ← List.append_assoc, List.foldl_append]
  rfl

end News

section Removal

variable (s : ServerState) (leaving : SessionId → Prop) (sid other : SessionId) (indexed : s.party.Indexed) (unsent : s.sent = [])
  (open_ : s.line other = some true) (apart : other ≠ sid)

include unsent open_ in
theorem inbox_tells (party : PartyState) (receivers : List SessionId) (first second : Message) :
    inbox (((s.setParty party).tell receivers first).tell receivers second).sent other =
      List.replicate (receivers.count other) first ++ List.replicate (receivers.count other) second := by
  rw [inbox_tell ((s.setParty party).tell receivers first) receivers second other open_, inbox_tell (s.setParty party) receivers first other open_]
  rw [show (s.setParty party).sent = [] from unsent]
  rfl

variable (partyId : UInt32) (found : Party) (placed : s.party.playerParty[sid]? = some partyId)
  (present : s.party.parties[partyId]? = some found)
include indexed apart present

-- Who is not left in the party is in another one or in none.
theorem unlisted_elsewhere (unlisted : other ∉ remaining found.members sid) (known : s.party.playerParty[other]? = some partyId) : False := by
  obtain ⟨listing, there, member⟩ := indexed other partyId known
  obtain rfl := Option.some.inj (there.symm.trans present)
  exact unlisted ((mem_remaining sid listing.members other).mpr ⟨member, apart⟩)

include placed

theorem unlisted_roster (unlisted : other ∉ remaining found.members sid) (t : ServerState) (party : t.party = s.party.without sid)
    (players : ∀ mid, t.player mid = s.player mid) : t.roster other = s.roster other := by
  have distinct : compare sid other ≠ .eq := fun same => apart (Std.compare_eq_iff_eq.mp same).symm
  have moved (index : UInt32) (known : s.party.playerParty[other]? = some index) : index ≠ partyId := by
    rintro rfl
    exact unlisted_elsewhere s sid other indexed apart index found present unlisted known
  refine roster_same other ?_ ?_ (fun _ _ mid _ => by rw [players])
  · rw [party]
    by_cases few : (remaining found.members sid).length ≤ 1
    · rw [PartyState.without_disbanded s.party sid partyId found placed present few]
      simp only [PartyState.erase_all]
      refine (if_neg unlisted).trans ?_
      rw [Std.ExtTreeMap.getElem?_erase, if_neg distinct]
    · rw [PartyState.without_reduced s.party sid partyId found placed present few]
      simp only [Std.ExtTreeMap.getElem?_erase, if_neg distinct]
  · intro index known
    rw [party, without_members, if_neg]
    rw [placed]
    exact fun same => moved index known (Option.some.inj same).symm

include unsent open_

theorem remove_reduced_brings (enough : 1 < (remaining found.members sid).length) (small : found.members.length ≤ maxParty)
    (heard : Heard s leaving ⟨partyId, sid, remaining found.members sid⟩) :
    (¬ leaving other → Brings s (removeFromParty s sid) other) ∧ (leaving other → Spares (removeFromParty s sid) other) := by
  have told := inbox_tells s other unsent open_ (s.party.without sid) (remaining found.members sid) (.partyLeave ⟨leaverUid s sid⟩)
    (.partyUpdate (partyUpdateOf s (remaining found.members sid)))
  rw [remove_reduced s sid partyId found placed present enough]
  by_cases listed : other ∈ remaining found.members sid
  · refine ⟨fun _ client _ => ?_, fun leaves => absurd leaves (heard.calm other listed)⟩
    have member := ((mem_remaining sid found.members other).mp listed).1
    have here := heard.placed other (by rwa [PartyState.members_of_found s.party partyId found present]) apart
    obtain ⟨earlier, last⟩ := copies_last other (.partyUpdate (partyUpdateOf s (remaining found.members sid)))
      (remaining found.members sid) listed
      (List.replicate ((remaining found.members sid).count other) (.partyLeave ⟨leaverUid s sid⟩)) client
    rw [told, last]
    have many : ¬ (remaining found.members sid).length ≤ 1 := Nat.not_le.mpr enough
    have distinct : compare sid other ≠ .eq := fun same => apart (Std.compare_eq_iff_eq.mp same).symm
    have still : (s.party.without sid).playerParty[other]? = some partyId := by
      rw [PartyState.without_reduced s.party sid partyId found placed present many]
      simpa only [Std.ExtTreeMap.getElem?_erase, if_neg distinct] using here
    have members : (s.party.without sid).membersOf partyId = remaining found.members sid := by
      rw [without_members, if_pos placed, PartyState.members_of_found s.party partyId found present, if_neg many]
    refine shows_placed other s partyId _ still members (fun _ => rfl) ?_
    exact shows_update s (remaining found.members sid) ((List.length_filter_le _ _).trans small)
  · have silent : (remaining found.members sid).count other = 0 := List.count_eq_zero.mpr listed
    rw [silent] at told
    have same := unlisted_roster s sid other indexed apart partyId found placed present listed
    exact ⟨fun _ => brings_nothing other (same _ rfl (fun _ => rfl)) told, fun _ => spares_nothing other told⟩

theorem remove_disbanded_brings (few : (remaining found.members sid).length ≤ 1) :
    Spares (removeFromParty s sid) other ∧ Brings s (removeFromParty s sid) other := by
  have told := inbox_tells s other unsent open_ (s.party.without sid) (remaining found.members sid) (.partyLeave ⟨leaverUid s sid⟩)
    (.partyLeave ⟨0⟩)
  rw [remove_disbanded s sid partyId found placed present few]
  by_cases listed : other ∈ remaining found.members sid
  · constructor
    · intro message member
      rw [told] at member
      rcases List.mem_append.mp member with leave | leave
      · rw [(List.mem_replicate.mp leave).2]
        exact trivial
      · rw [(List.mem_replicate.mp leave).2]
        exact trivial
    · intro client _
      have gone : (s.party.without sid).playerParty[other]? = none := by
        rw [PartyState.without_disbanded s.party sid partyId found placed present few]
        simp only [PartyState.erase_all]
        exact if_pos listed
      obtain ⟨earlier, last⟩ := copies_last other (.partyLeave ⟨0⟩) (remaining found.members sid) listed
        (List.replicate ((remaining found.members sid).count other) (.partyLeave ⟨leaverUid s sid⟩)) client
      rw [told, last]
      exact shows_unplaced other gone (shows_disbanded ⟨0⟩ rfl)
  · have silent : (remaining found.members sid).count other = 0 := List.count_eq_zero.mpr listed
    rw [silent] at told
    have same := unlisted_roster s sid other indexed apart partyId found placed present listed
    exact ⟨spares_nothing other told, brings_nothing other (same _ rfl (fun _ => rfl)) told⟩

omit placed present in
theorem remove_from_party_brings (small : ∀ index, (s.party.membersOf index).length ≤ maxParty)
    (heard : ∀ announcement, shrinking s sid = some announcement → Heard s leaving announcement) :
    (¬ leaving other → Brings s (removeFromParty s sid) other) ∧ (leaving other → Spares (removeFromParty s sid) other) := by
  cases placed : s.party.playerParty[sid]? with
  | none =>
      rw [remove_unplaced s sid placed]
      have silent : inbox s.sent other = [] := by
        rw [unsent]
        rfl
      exact ⟨fun _ => brings_nothing other rfl silent, fun _ => spares_nothing other silent⟩
  | some partyId =>
      obtain ⟨found, present, _⟩ := indexed sid partyId placed
      have members := PartyState.members_of_found s.party partyId found present
      by_cases few : (remaining found.members sid).length ≤ 1
      · have disbanded := remove_disbanded_brings s sid other indexed unsent open_ apart partyId found placed present few
        exact ⟨fun _ => disbanded.2, fun _ => disbanded.1⟩
      · have enough := Nat.lt_of_not_le few
        have announced : shrinking s sid = some ⟨partyId, sid, remaining found.members sid⟩ := by
          rw [shrinking, placed, Option.bind_some, members, if_pos enough]
        exact remove_reduced_brings s leaving sid other indexed unsent open_ apart partyId found placed present enough
          (members ▸ small partyId) (heard _ announced)

end Removal

section Leaver

variable (s : ServerState) (sid : SessionId) (indexed : s.party.Indexed) (unsent : s.sent = []) (open_ : s.line sid = some true)

theorem leaver_unplaced : (s.party.without sid).playerParty[sid]? = none := by
  cases known : (s.party.without sid).playerParty[sid]? with
  | none => rfl
  | some partyId => exact absurd rfl (PartyState.without_shrinks s.party sid sid partyId known).1

include indexed unsent open_

theorem leaver_hears_nothing : inbox (removeFromParty s sid).sent sid = [] := by
  cases placed : s.party.playerParty[sid]? with
  | none =>
      rw [remove_unplaced s sid placed, unsent]
      rfl
  | some partyId =>
      obtain ⟨found, present, _⟩ := indexed sid partyId placed
      have unlisted : (remaining found.members sid).count sid = 0 :=
        List.count_eq_zero.mpr (fun listed => ((mem_remaining sid found.members sid).mp listed).2 rfl)
      by_cases few : (remaining found.members sid).length ≤ 1
      · rw [remove_disbanded s sid partyId found placed present few, inbox_tells s sid unsent open_, unlisted]
        rfl
      · rw [remove_reduced s sid partyId found placed present (Nat.lt_of_not_le few), inbox_tells s sid unsent open_, unlisted]
        rfl

end Leaver

section Acceptance

variable (party : PartyState) (sid inviterId : SessionId)

theorem answered_members (room : party.roomFor inviterId) (index : UInt32) :
    (party.answered sid inviterId).membersOf index =
      if index = (party.partyOf inviterId).2 then (party.partyOf inviterId).1.membersOf (party.partyOf inviterId).2 ++ [sid]
      else party.membersOf index := by
  rw [PartyState.answered_joined party sid inviterId room]
  by_cases same : index = (party.partyOf inviterId).2
  · rw [if_pos same, same]
    exact PartyState.join_members _ _ sid
  · rw [if_neg same]
    have others := PartyState.join_others (party.partyOf inviterId).1 (party.partyOf inviterId).2 sid index same
    refine (congrArg (fun found => (found.map Party.members).getD []) others).trans ?_
    cases known : party.playerParty[inviterId]? with
    | some partyId =>
        rw [PartyState.party_of_member party inviterId partyId known]
        rfl
    | none =>
        rw [PartyState.party_of_new party inviterId known] at same ⊢
        have away : compare party.nextPartyId index ≠ .eq := fun equal => same (Std.compare_eq_iff_eq.mp equal).symm
        simp only [Std.ExtTreeMap.getElem?_insert, if_neg away]
        rfl

theorem entered_members (indexed : party.Indexed) (mid : SessionId) :
    mid ∈ (party.partyOf inviterId).1.membersOf (party.partyOf inviterId).2 ↔
      mid ∈ party.membersOf (party.partyOf inviterId).2 ∨ mid = inviterId := by
  cases known : party.playerParty[inviterId]? with
  | some partyId =>
      rw [PartyState.party_of_member party inviterId partyId known]
      refine ⟨.inl, ?_⟩
      rintro (member | rfl)
      · exact member
      · obtain ⟨found, present, listed⟩ := indexed mid partyId known
        rwa [PartyState.members_of_found party partyId found present]
  | none =>
      rw [PartyState.party_of_new party inviterId known]
      simp [PartyState.membersOf]

theorem answered_placed (room : party.roomFor inviterId) (mid : SessionId) :
    (party.answered sid inviterId).playerParty[mid]? =
      if mid = sid ∨ mid = inviterId then some (party.partyOf inviterId).2 else party.playerParty[mid]? := by
  rw [PartyState.answered_joined party sid inviterId room]
  change ((party.partyOf inviterId).1.playerParty.insert sid (party.partyOf inviterId).2)[mid]? = _
  rw [Std.ExtTreeMap.getElem?_insert]
  by_cases own : mid = sid
  · rw [if_pos (Std.compare_eq_iff_eq.mpr own.symm), if_pos (.inl own)]
  · rw [if_neg (fun same => own (Std.compare_eq_iff_eq.mp same).symm)]
    by_cases theirs : mid = inviterId
    · rw [if_pos (.inr theirs), theirs]
      cases known : party.playerParty[inviterId]? with
      | some partyId => rw [PartyState.party_of_member party inviterId partyId known, known]
      | none =>
          rw [PartyState.party_of_new party inviterId known]
          exact Std.ExtTreeMap.getElem?_insert_self
    · rw [if_neg (not_or.mpr ⟨own, theirs⟩), PartyState.party_of_others party inviterId mid (Ne.symm theirs)]

theorem answered_small (small : ∀ index, (party.membersOf index).length ≤ maxParty)
    (roomy : ¬ party.roomFor inviterId → inviterId ∈ party.playerParty) (index : UInt32) :
    ((party.answered sid inviterId).membersOf index).length ≤ maxParty := by
  by_cases room : party.roomFor inviterId
  · rw [answered_members party sid inviterId room]
    split
    · rw [List.length_append]
      exact room
    · exact small index
  · obtain ⟨partyId, known⟩ := Option.isSome_iff_exists.mp (Std.ExtTreeMap.mem_iff_isSome_getElem?.mp (roomy room))
    rw [PartyState.answered_full party sid inviterId room, PartyState.party_of_member party inviterId partyId known]
    exact small index

theorem without_small (small : ∀ index, (party.membersOf index).length ≤ maxParty) (index : UInt32) :
    ((party.without sid).membersOf index).length ≤ maxParty := by
  rw [without_members]
  split
  · split
    · exact Nat.zero_le _
    · exact (List.length_filter_le _ _).trans (small index)
  · exact small index

theorem gone_unlisted (listed : ∀ index, sid ∈ party.membersOf index → party.playerParty[sid]? = some index) (index : UInt32) :
    sid ∉ (party.without sid).membersOf index := by
  rw [without_members]
  split
  · split
    · exact List.not_mem_nil
    · exact fun member => ((mem_remaining sid (party.membersOf index) sid).mp member).2 rfl
  · rename_i away
    exact fun member => away (listed index member)

end Acceptance

section Accepted

variable (s : ServerState) (leaving : SessionId → Prop) (sid other inviterId : SessionId) (indexed : s.party.Indexed)
  (unsent : s.sent = []) (open_ : s.line other = some true) (req : CsPartyAccept)
include indexed unsent open_

theorem accept_joins_brings (yes : req.accept ≠ 0) (invited : s.party.pendingInvites[sid]? = some inviterId)
    (there : inviterId ∈ s.sessions) (room : s.party.roomFor inviterId)
    (heard : ∀ announcement, growing s sid inviterId = some announcement → Heard s leaving announcement) :
    (¬ leaving other → Brings s (onPartyAccept s sid req) other) ∧ (leaving other → Spares (onPartyAccept s sid req) other) := by
  have announced := heard _ (if_pos room)
  have members := (answered_members s.party sid inviterId room (s.party.partyOf inviterId).2).trans (if_pos rfl)
  rw [on_party_accept_joins s sid inviterId req indexed yes invited there room]
  have told := inbox_tell (s.setParty (s.party.answered sid inviterId))
    ((s.party.answered sid inviterId).membersOf (s.party.partyOf inviterId).2)
    (.partyUpdate (partyUpdateOf s ((s.party.answered sid inviterId).membersOf (s.party.partyOf inviterId).2))) other open_
  rw [show (s.setParty (s.party.answered sid inviterId)).sent = [] from unsent, show inbox [] other = [] from rfl] at told
  by_cases listed : other ∈ (s.party.answered sid inviterId).membersOf (s.party.partyOf inviterId).2
  · have known : (other ∈ s.party.membersOf (s.party.partyOf inviterId).2 ∨ other = inviterId) ∨ other = sid := by
      rwa [members, List.mem_append, entered_members s.party inviterId indexed, List.mem_singleton] at listed
    have listens : other ∈ s.party.membersOf (s.party.partyOf inviterId).2 ++ [inviterId, sid] := by
      rw [List.mem_append, List.mem_pair]
      exact or_assoc.mp known
    refine ⟨fun _ client _ => ?_, fun leaves => absurd leaves (announced.calm other listens)⟩
    have placed : (s.party.answered sid inviterId).playerParty[other]? = some (s.party.partyOf inviterId).2 := by
      rw [answered_placed s.party sid inviterId room]
      split
      · rfl
      · rename_i apart
        rw [not_or] at apart
        rcases known with (member | theirs) | own
        · exact announced.placed other member apart.1
        · exact absurd theirs apart.2
        · exact absurd own apart.1
    have small : ((s.party.answered sid inviterId).membersOf (s.party.partyOf inviterId).2).length ≤ maxParty := by
      rw [members, List.length_append]
      exact room
    obtain ⟨earlier, last⟩ := copies_last other
      (.partyUpdate (partyUpdateOf s ((s.party.answered sid inviterId).membersOf (s.party.partyOf inviterId).2))) _ listed [] client
    rw [told, last]
    exact shows_placed other s _ _ placed rfl (fun _ => rfl) (shows_update s _ small)
  · rw [List.count_eq_zero.mpr listed] at told
    have outside : ¬ (other = sid ∨ other = inviterId) := by
      rw [members, List.mem_append, entered_members s.party inviterId indexed, List.mem_singleton] at listed
      exact fun either => listed (either.elim .inr (fun theirs => .inl (.inr theirs)))
    have same : ServerState.roster (ServerState.tell (s.setParty (s.party.answered sid inviterId))
        ((s.party.answered sid inviterId).membersOf (s.party.partyOf inviterId).2)
        (.partyUpdate (partyUpdateOf s ((s.party.answered sid inviterId).membersOf (s.party.partyOf inviterId).2)))) other =
        s.roster other := by
      refine roster_same other ((answered_placed s.party sid inviterId room other).trans (if_neg outside)) ?_ (fun _ _ _ _ => rfl)
      intro index known
      refine (answered_members s.party sid inviterId room index).trans (if_neg ?_)
      rintro rfl
      obtain ⟨found, present, member⟩ := indexed other _ known
      rw [members, List.mem_append, entered_members s.party inviterId indexed] at listed
      exact listed (.inl (.inl (by rwa [PartyState.members_of_found s.party _ found present])))
    exact ⟨fun _ => brings_nothing other same told, fun _ => spares_nothing other told⟩

omit unsent open_ in
theorem accepted_small (small : ∀ index, (s.party.membersOf index).length ≤ maxParty)
    (roomy : ∀ inviterId : SessionId, s.party.pendingInvites[sid]? = some inviterId → req.accept ≠ 0 → inviterId ∈ s.sessions →
      ¬ s.party.roomFor inviterId → inviterId ∈ s.party.playerParty) (index : UInt32) :
    ((onPartyAccept s sid req).party.membersOf index).length ≤ maxParty := by
  by_cases answers : ∃ inviterId : SessionId, s.party.pendingInvites[sid]? = some inviterId ∧ req.accept ≠ 0 ∧ inviterId ∈ s.sessions
  · obtain ⟨inviterId, invited, yes, there⟩ := answers
    have answered := answered_small s.party sid inviterId small (roomy inviterId invited yes there) index
    by_cases room : s.party.roomFor inviterId
    · rw [on_party_accept_joins s sid inviterId req indexed yes invited there room]
      exact answered
    · rw [on_party_accept_full s sid inviterId req indexed yes invited there room]
      exact answered
  · rcases on_party_accept_unanswered s sid req (unanswered_refused s sid req answers) with same | declined
    · rw [same]
      exact small index
    · rw [declined]
      exact small index

theorem on_party_accept_brings
    (roomy : ∀ inviterId : SessionId, s.party.pendingInvites[sid]? = some inviterId → req.accept ≠ 0 → inviterId ∈ s.sessions →
      ¬ s.party.roomFor inviterId → inviterId ∈ s.party.playerParty)
    (heard : ∀ inviterId : SessionId, s.party.pendingInvites[sid]? = some inviterId → req.accept ≠ 0 → inviterId ∈ s.sessions →
      ∀ announcement, growing s sid inviterId = some announcement → Heard s leaving announcement) :
    (¬ leaving other → Brings s (onPartyAccept s sid req) other) ∧ (leaving other → Spares (onPartyAccept s sid req) other) := by
  have silent : inbox s.sent other = [] := by
    rw [unsent]
    rfl
  by_cases answers : ∃ inviterId : SessionId, s.party.pendingInvites[sid]? = some inviterId ∧ req.accept ≠ 0 ∧ inviterId ∈ s.sessions
  · obtain ⟨inviterId, invited, yes, there⟩ := answers
    by_cases room : s.party.roomFor inviterId
    · exact accept_joins_brings s leaving sid other inviterId indexed unsent open_ req yes invited there room
        (heard inviterId invited yes there)
    · obtain ⟨partyId, known⟩ := Option.isSome_iff_exists.mp
        (Std.ExtTreeMap.mem_iff_isSome_getElem?.mp (roomy inviterId invited yes there room))
      rw [on_party_accept_full s sid inviterId req indexed yes invited there room,
        PartyState.answered_full s.party sid inviterId room, PartyState.party_of_member s.party inviterId partyId known]
      exact ⟨fun _ => brings_nothing other rfl silent, fun _ => spares_nothing other silent⟩
  · rcases on_party_accept_unanswered s sid req (unanswered_refused s sid req answers) with same | declined
    · rw [same]
      exact ⟨fun _ => brings_nothing other rfl silent, fun _ => spares_nothing other silent⟩
    · rw [declined]
      exact ⟨fun _ => brings_nothing other rfl silent, fun _ => spares_nothing other silent⟩

end Accepted

section Elsewhere

variable (data : GameData) (s : ServerState) (sid other : SessionId)

theorem handle_char_uid (request : Request) (unselected : ∀ req, request ≠ .charSelect req) :
    ((handle data s sid request).player other).charUid = (s.player other).charUid := by
  have frame := view_frame PlayerData.charUid (fun _ _ same => same.view_eq PlayerData.charUid)
  exact frame.handle data (view_fills PlayerData.charUid sid)
    (view_wears PlayerData.charUid (fun _ _ same => same.view_eq PlayerData.charUid) sid) (view_logs PlayerData.charUid)
    (grows_of_progress frame (fun t owner player same => same_view_set PlayerData.charUid t owner player (same.view_eq PlayerData.charUid)))
    request unselected other

theorem elsewhere_plain (message : Message) (elsewhere : Elsewhere message) : ¬ Announces message := by
  cases message with
  | partyUpdate upd => exact elsewhere.elim
  | partyLeave leave => exact elsewhere.elim
  | _ => exact id

variable (indexed : s.party.Indexed) (unsent : s.sent = [])
include indexed unsent

theorem elsewhere_brings (request : Request) (elsewhere : request.Elsewhere) (unselected : ∀ req, request ≠ .charSelect req) :
    Brings s (handle data s sid request) other ∧ Spares (handle data s sid request) other := by
  have quiet := handle_quiet data indexed sid request elsewhere
  have plain : ∀ message ∈ inbox (handle data s sid request).sent other, ¬ Announces message := by
    intro message arrived
    rcases quiet.silent other message ((mem_inbox _ other message).mp arrived) with silent | before
    · exact elsewhere_plain message silent
    · rw [unsent] at before
      exact absurd before List.not_mem_nil
  have same : (handle data s sid request).roster other = s.roster other := by
    refine roster_same other (by rw [quiet.party]) (fun _ _ => by rw [quiet.party]) ?_
    exact fun _ _ mid _ => handle_char_uid data s sid mid request unselected
  exact ⟨brings_plain other same plain, spares_plain other plain⟩

theorem on_party_invite_brings (req : CsPartyInvite) :
    Brings s (onPartyInvite s sid req) other ∧ Spares (onPartyInvite s sid req) other := by
  have sends (t : ServerState) (receiver : SessionId) (message : Message) (silent : t.sent = []) (plain : ¬ Announces message) :
      ∀ arrived ∈ inbox (t.send receiver message).sent other, ¬ Announces arrived := by
    intro arrived member
    rcases List.mem_append.mp ((mem_inbox _ other arrived).mp member) with before | fresh
    · rw [silent] at before
      exact absurd before List.not_mem_nil
    · rwa [mem_deliver _ _ _ _ _ fresh]
  rcases on_party_invite_spec s sid indexed req with ⟨reason, _, refused⟩ | ⟨target, _, carried⟩
  · have plain := sends s sid (.error { errorCode := 4, message := text reason }) unsent id
    rw [refused]
    exact ⟨brings_plain other rfl plain, spares_plain other plain⟩
  · have plain := sends (s.setParty { s.party with pendingInvites := s.party.pendingInvites.insert target sid }) target
      (.partyInvite { inviterName := strncpyS (s.player sid).name 19 }) unsent id
    rw [carried]
    exact ⟨brings_plain other rfl plain, spares_plain other plain⟩

end Elsewhere

section Disconnection

variable (s : ServerState) (leaving : SessionId → Prop) (sid other : SessionId) (indexed : s.party.Indexed) (unsent : s.sent = [])
  (open_ : s.line other = some true) (apart : other ≠ sid)
include indexed unsent open_ apart

theorem on_disconnect_brings (small : ∀ index, (s.party.membersOf index).length ≤ maxParty)
    (heard : ∀ announcement, shrinking s sid = some announcement → Heard s leaving announcement)
    (listed : ∀ index, sid ∈ s.party.membersOf index → s.party.playerParty[sid]? = some index) :
    (¬ leaving other → Brings s (onDisconnect (setUnconnected s sid) sid) other) ∧
      (leaving other → Spares (onDisconnect (setUnconnected s sid) sid) other) := by
  have distinct : compare sid other ≠ .eq := fun same => apart (Std.compare_eq_iff_eq.mp same).symm
  have line : (setUnconnected s sid).line other = some true := by
    rw [ServerState.line, setUnconnected, Std.ExtTreeMap.getElem?_modify, if_neg distinct]
    exact open_
  have players (mid : SessionId) : (setUnconnected s sid).player mid = s.player mid := (idle_set_unconnected s sid).players mid
  have start : (setUnconnected s sid).roster other = s.roster other := roster_same other rfl (fun _ _ => rfl) (fun _ _ mid _ => by rw [players])
  have removed := remove_from_party_brings (setUnconnected s sid) leaving sid other indexed unsent line apart small
    (fun announcement shrinks => ⟨(heard announcement shrinks).calm, (heard announcement shrinks).placed⟩)
  obtain ⟨extra, others, sent, party, sessions⟩ := on_disconnect_spec (setUnconnected s sid) sid
  have kept := remove_from_party_sessions (setUnconnected s sid) sid
  have moved : (removeFromParty (setUnconnected s sid) sid).party = s.party.without sid :=
    (remove_from_party_settles (setUnconnected s sid) sid).party
  have told : inbox (onDisconnect (setUnconnected s sid) sid).sent other =
      inbox (removeFromParty (setUnconnected s sid) sid).sent other ++ inbox extra other := by
    rw [sent, inbox_append]
  have plain : ∀ message ∈ inbox extra other, ¬ Announces message :=
    fun message member => elsewhere_plain message (others _ ((mem_inbox extra other message).mp member))
  have same : (onDisconnect (setUnconnected s sid) sid).roster other = (removeFromParty (setUnconnected s sid) sid).roster other := by
    refine roster_same other (by rw [party]; rfl) (fun _ _ => by rw [party]; rfl) ?_
    intro index _ mid member
    have away : mid ≠ sid := by
      rintro rfl
      rw [moved] at member
      exact gone_unlisted s.party mid listed index member
    rw [ServerState.player, ServerState.player, sessions, kept, Std.ExtTreeMap.getElem?_erase,
      if_neg (fun equal => away (Std.compare_eq_iff_eq.mp equal).symm)]
  constructor
  · intro stays client shows
    rw [told, List.foldl_append, same]
    exact (removed.1 stays client (start ▸ shows)).hushed _ plain
  · intro leaves message member
    rw [told] at member
    rcases List.mem_append.mp member with before | after
    · exact removed.2 leaves message before
    · exact plain_no_update message (plain message after)

end Disconnection

end MmorpgSimulator
