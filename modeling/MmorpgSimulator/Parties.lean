import MmorpgSimulator.Social

set_option autoImplicit false

namespace MmorpgSimulator

namespace PartyState

def allMembers (party : PartyState) : List SessionId := party.parties.toList.flatMap (fun entry => entry.2.members)

-- The law of the party system: nobody is listed twice and the index agrees.
def Exclusive (party : PartyState) : Prop :=
  party.allMembers.Nodup ∧
    ∀ (partyId : UInt32) (found : Party), party.parties[partyId]? = some found → ∀ mid ∈ found.members, party.playerParty[mid]? = some partyId

def Indexed (party : PartyState) : Prop :=
  ∀ (sid : SessionId) (partyId : UInt32), party.playerParty[sid]? = some partyId →
    ∃ found : Party, party.parties[partyId]? = some found ∧ sid ∈ found.members

def NoSelfInvite (party : PartyState) : Prop := ∀ sid inviterId : SessionId, party.pendingInvites[sid]? = some inviterId → inviterId ≠ sid

def Attended (party : PartyState) (online : Set SessionId) : Prop := ∀ sid : SessionId, sid ∈ party.playerParty → sid ∈ online

def Sized (party : PartyState) : Prop :=
  ∀ (partyId : UInt32) (found : Party), party.parties[partyId]? = some found → 2 ≤ found.members.length ∧ found.members.length ≤ maxParty

def Divisible (party : PartyState) : Prop :=
  ∀ (sid : SessionId) (partyId : UInt32), party.playerParty[sid]? = some partyId → UInt32.ofNat (party.membersOf partyId).length ≠ 0

-- After `created` parties the counter stands above every id in use.
def Numbered (party : PartyState) (created : Nat) : Prop :=
  party.nextPartyId = UInt32.ofNat (created + 1) ∧ ∀ partyId, partyId ∈ party.parties → partyId.toNat ≤ created

def answered (party : PartyState) (sid inviterId : SessionId) : PartyState :=
  let entered := (party.withoutInvite sid).partyOf inviterId
  if maxParty ≤ (entered.1.membersOf entered.2).length then entered.1 else entered.1.join entered.2 sid

def roomFor (party : PartyState) (inviterId : SessionId) : Prop :=
  ((party.partyOf inviterId).1.membersOf (party.partyOf inviterId).2).length < maxParty

-- One party lists both sessions, and the index sends both to it.
def Together (party : PartyState) (sid inviterId : SessionId) : Prop :=
  ∃ (partyId : UInt32) (found : Party), party.parties[partyId]? = some found ∧
    ∀ mid ∈ [sid, inviterId], party.playerParty[mid]? = some partyId ∧ mid ∈ found.members

end PartyState

-- The party system on its own: who may be where, without packets, players or
-- NPCs. The label names the session whose invitation is answered, and its inviter.
inductive PartyMove (party : PartyState) (online : Set SessionId) :
    Option (SessionId × SessionId) → PartyState → Set SessionId → Prop where
  | stay : PartyMove party online none party online
  | connect (sid : SessionId) : PartyMove party online none party (insert sid online)
  | invite (sid target : SessionId) (other : target ≠ sid) (single : target ∉ party.playerParty) :
      PartyMove party online none { party with pendingInvites := party.pendingInvites.insert target sid } online
  | decline (sid : SessionId) : PartyMove party online none (party.withoutInvite sid) online
  | answer (sid inviterId : SessionId) (here : sid ∈ online) (invited : party.pendingInvites[sid]? = some inviterId)
      (there : inviterId ∈ online) : PartyMove party online (some (sid, inviterId)) (party.answered sid inviterId) online
  | leave (sid : SessionId) : PartyMove party online none (party.without sid) online
  | disconnect (sid : SessionId) : PartyMove party online none ((party.without sid).withoutInvite sid) (online \ {sid})

namespace PartyState

theorem members_of_found (party : PartyState) (partyId : UInt32) (found : Party) (present : party.parties[partyId]? = some found) :
    party.membersOf partyId = found.members := by
  simp [membersOf, present]

theorem sized_divisible (party : PartyState) (indexed : party.Indexed) (sized : party.Sized) : party.Divisible := by
  intro sid partyId placed zero
  obtain ⟨found, present, _⟩ := indexed sid partyId placed
  have bounds := sized partyId found present
  rw [members_of_found party partyId found present] at zero
  have value := congrArg UInt32.toNat zero
  simp only [UInt32.toNat_ofNat', UInt32.toNat_ofNat, maxParty] at value bounds
  omega

theorem exclusive_iff (party : PartyState) :
    party.Exclusive ↔ ∀ (partyId : UInt32) (found : Party), party.parties[partyId]? = some found →
      found.members.Nodup ∧ ∀ mid ∈ found.members, party.playerParty[mid]? = some partyId := by
  constructor
  · intro exclusive partyId found present
    have listed : (partyId, found) ∈ party.parties.toList := Std.ExtTreeMap.mem_toList_iff_getElem?_eq_some.mpr present
    exact ⟨(List.nodup_flatMap.mp exclusive.1).1 (partyId, found) listed, exclusive.2 partyId found present⟩
  · intro alone
    refine ⟨List.nodup_flatMap.mpr ⟨?_, ?_⟩, fun partyId found present => (alone partyId found present).2⟩
    · intro entry listed
      exact (alone entry.1 entry.2 (Std.ExtTreeMap.mem_toList_iff_getElem?_eq_some.mp listed)).1
    · refine (Std.ExtTreeMap.distinct_keys_toList (t := party.parties)).imp_of_mem ?_
      intro first second firstListed secondListed apart mid inFirst inSecond
      have firstIndex := (alone _ _ (Std.ExtTreeMap.mem_toList_iff_getElem?_eq_some.mp firstListed)).2 mid inFirst
      have secondIndex := (alone _ _ (Std.ExtTreeMap.mem_toList_iff_getElem?_eq_some.mp secondListed)).2 mid inSecond
      have same : first.1 = second.1 := Option.some.inj (firstIndex.symm.trans secondIndex)
      simp [same] at apart

theorem indexed_empty : Indexed {} := by simp [Indexed]

theorem exclusive_empty : Exclusive {} := by simp [exclusive_iff]

theorem no_self_invite_empty : NoSelfInvite {} := by simp [NoSelfInvite]

theorem attended_empty (online : Set SessionId) : Attended {} online := by simp [Attended]

theorem sized_empty : Sized {} := by simp [Sized]

theorem numbered_empty : Numbered {} 0 := by simp [Numbered]

section PartyOf

variable (party : PartyState) (inviterId : SessionId)

theorem party_of_member (partyId : UInt32) (known : party.playerParty[inviterId]? = some partyId) :
    party.partyOf inviterId = (party, partyId) := by
  simp [partyOf, known]

theorem party_of_new (unknown : party.playerParty[inviterId]? = none) :
    party.partyOf inviterId =
      ({ party with
          nextPartyId := party.nextPartyId + 1
          parties := party.parties.insert party.nextPartyId
            { id := party.nextPartyId, members := party.membersOf party.nextPartyId ++ [inviterId] }
          playerParty := party.playerParty.insert inviterId party.nextPartyId }, party.nextPartyId) := by
  cases created : party.parties[party.nextPartyId]? <;> simp [partyOf, unknown, membersOf, created]

theorem party_of_pending : (party.partyOf inviterId).1.pendingInvites = party.pendingInvites := by
  unfold partyOf
  split <;> rfl

theorem party_of_indexed (indexed : party.Indexed) : (party.partyOf inviterId).1.Indexed := by
  cases known : party.playerParty[inviterId]? with
  | some partyId => rwa [party_of_member party inviterId partyId known]
  | none =>
      rw [party_of_new party inviterId known]
      intro sid partyId index
      by_cases fresh : partyId = party.nextPartyId
      · refine ⟨_, by rw [fresh]; exact Std.ExtTreeMap.getElem?_insert_self, ?_⟩
        by_cases self : sid = inviterId
        · simp [self]
        · have before : party.playerParty[sid]? = some partyId := by
            simpa [Std.ExtTreeMap.getElem?_insert, Ne.symm self] using index
          obtain ⟨found, present, listed⟩ := indexed sid partyId before
          have old : party.membersOf party.nextPartyId = found.members := members_of_found party _ found (fresh ▸ present)
          simp [old, listed]
      · have before : party.playerParty[sid]? = some partyId := by
          grind
        obtain ⟨found, present, listed⟩ := indexed sid partyId before
        exact ⟨found, by simpa [Std.ExtTreeMap.getElem?_insert, Ne.symm fresh] using present, listed⟩

theorem party_of_exclusive (exclusive : party.Exclusive) : (party.partyOf inviterId).1.Exclusive := by
  cases known : party.playerParty[inviterId]? with
  | some partyId => rwa [party_of_member party inviterId partyId known]
  | none =>
      rw [party_of_new party inviterId known]
      rw [exclusive_iff] at exclusive ⊢
      have unlisted : ∀ (partyId : UInt32) (found : Party), party.parties[partyId]? = some found → inviterId ∉ found.members := by
        intro partyId found present listed
        have index := (exclusive partyId found present).2 inviterId listed
        simp [known] at index
      intro partyId found present
      by_cases fresh : partyId = party.nextPartyId
      · subst fresh
        have same : found = { id := party.nextPartyId, members := party.membersOf party.nextPartyId ++ [inviterId] } := by
          simpa using present.symm
        subst same
        cases created : party.parties[party.nextPartyId]? with
        | none => simp [membersOf, created]
        | some old =>
            have alone := exclusive party.nextPartyId old created
            rw [members_of_found party _ old created]
            refine ⟨List.nodup_append.mpr ⟨alone.1, List.nodup_singleton _, ?_⟩, ?_⟩
            · intro mid listed other single same
              rw [List.mem_singleton.mp single] at same
              exact unlisted _ old created (same ▸ listed)
            · intro mid listed
              rcases List.mem_append.mp listed with before | single
              · have apart : inviterId ≠ mid := fun same => unlisted _ old created (same ▸ before)
                simpa [Std.ExtTreeMap.getElem?_insert, apart] using alone.2 mid before
              · simp [List.mem_singleton.mp single]
      · have old : party.parties[partyId]? = some found := by
          simpa [Std.ExtTreeMap.getElem?_insert, Ne.symm fresh] using present
        refine ⟨(exclusive partyId found old).1, ?_⟩
        intro mid listed
        have apart : inviterId ≠ mid := fun same => unlisted _ found old (same ▸ listed)
        simpa [Std.ExtTreeMap.getElem?_insert, apart] using (exclusive partyId found old).2 mid listed

theorem party_of_attended (online : Set SessionId) (attended : party.Attended online) (there : inviterId ∈ online) :
    (party.partyOf inviterId).1.Attended online := by
  cases known : party.playerParty[inviterId]? with
  | some partyId => rwa [party_of_member party inviterId partyId known]
  | none =>
      rw [party_of_new party inviterId known]
      intro sid member
      by_cases self : inviterId = sid
      · exact self ▸ there
      · exact attended sid (by simpa [Std.ExtTreeMap.mem_insert, self] using member)

theorem party_of_present (indexed : party.Indexed) :
    ∃ found : Party, (party.partyOf inviterId).1.parties[(party.partyOf inviterId).2]? = some found := by
  cases known : party.playerParty[inviterId]? with
  | some partyId =>
      obtain ⟨found, present, _⟩ := indexed inviterId partyId known
      exact ⟨found, by rw [party_of_member party inviterId partyId known]; exact present⟩
  | none => exact ⟨_, by rw [party_of_new party inviterId known]; exact Std.ExtTreeMap.getElem?_insert_self⟩

theorem party_of_others (sid : SessionId) (other : inviterId ≠ sid) :
    (party.partyOf inviterId).1.playerParty[sid]? = party.playerParty[sid]? := by
  cases known : party.playerParty[inviterId]? with
  | some partyId => rw [party_of_member party inviterId partyId known]
  | none =>
      rw [party_of_new party inviterId known]
      simp [Std.ExtTreeMap.getElem?_insert, other]

theorem party_of_placed : (party.partyOf inviterId).1.playerParty[inviterId]? = some (party.partyOf inviterId).2 := by
  cases known : party.playerParty[inviterId]? with
  | some partyId =>
      rw [party_of_member party inviterId partyId known]
      exact known
  | none =>
      rw [party_of_new party inviterId known]
      exact Std.ExtTreeMap.getElem?_insert_self

end PartyOf

section Join

variable (party : PartyState) (partyId : UInt32) (sid : SessionId)

theorem join_members : (party.join partyId sid).membersOf partyId = party.membersOf partyId ++ [sid] := by
  cases found : party.parties[partyId]? <;> simp [join, membersOf, found]

theorem join_others (other : UInt32) (apart : other ≠ partyId) :
    (party.join partyId sid).parties[other]? = party.parties[other]? := by
  simp [join, Std.ExtTreeMap.getElem?_insert, Ne.symm apart]

theorem join_found (found : Party) (present : (party.join partyId sid).parties[partyId]? = some found) :
    found.members = party.membersOf partyId ++ [sid] := by
  rw [← join_members]
  exact (members_of_found _ partyId found present).symm

theorem join_indexed (indexed : party.Indexed) : (party.join partyId sid).Indexed := by
  intro member index known
  by_cases moved : index = partyId
  · subst moved
    refine ⟨_, Std.ExtTreeMap.getElem?_insert_self, ?_⟩
    by_cases self : sid = member
    · simp [self]
    · have before : party.playerParty[member]? = some index := by
        simpa [join, Std.ExtTreeMap.getElem?_insert, self] using known
      obtain ⟨found, present, listed⟩ := indexed member index before
      simp [present, listed]
  · have before : party.playerParty[member]? = some index := by
      simp only [join] at known
      grind
    obtain ⟨found, present, listed⟩ := indexed member index before
    exact ⟨found, by rw [join_others party partyId sid index moved, present], listed⟩

theorem join_exclusive (exclusive : party.Exclusive) (single : sid ∉ party.playerParty) :
    (party.join partyId sid).Exclusive := by
  rw [exclusive_iff] at exclusive ⊢
  have unlisted : ∀ (index : UInt32) (found : Party), party.parties[index]? = some found → sid ∉ found.members := by
    intro index found present listed
    have known := (exclusive index found present).2 sid listed
    exact single (Std.ExtTreeMap.mem_iff_isSome_getElem?.mpr (by simp [known]))
  have kept : ∀ mid, mid ≠ sid → (party.join partyId sid).playerParty[mid]? = party.playerParty[mid]? := by
    intro mid apart
    simp [join, Std.ExtTreeMap.getElem?_insert, Ne.symm apart]
  intro index found present
  by_cases moved : index = partyId
  · subst moved
    rw [join_found party index sid found present]
    cases before : party.parties[index]? with
    | none => simp [membersOf, before, join]
    | some old =>
        have alone := exclusive index old before
        rw [members_of_found party index old before]
        refine ⟨List.nodup_append.mpr ⟨alone.1, List.nodup_singleton _, ?_⟩, ?_⟩
        · intro mid listed other last same
          rw [List.mem_singleton.mp last] at same
          exact unlisted index old before (same ▸ listed)
        · intro mid listed
          rcases List.mem_append.mp listed with earlier | last
          · have apart : mid ≠ sid := fun same => unlisted index old before (same ▸ earlier)
            rw [kept mid apart]
            exact alone.2 mid earlier
          · simp [join, List.mem_singleton.mp last]
  · rw [join_others party partyId sid index moved] at present
    refine ⟨(exclusive index found present).1, ?_⟩
    intro mid listed
    have apart : mid ≠ sid := fun same => unlisted index found present (same ▸ listed)
    rw [kept mid apart]
    exact (exclusive index found present).2 mid listed

theorem join_not_exclusive (indexed : party.Indexed) (placed : sid ∈ party.playerParty) :
    ¬ (party.join partyId sid).Exclusive := by
  rw [exclusive_iff]
  intro alone
  obtain ⟨old, known⟩ := Option.isSome_iff_exists.mp (Std.ExtTreeMap.mem_iff_isSome_getElem?.mp placed)
  obtain ⟨found, present, listed⟩ := indexed sid old known
  by_cases same : old = partyId
  · subst same
    have twice := (alone old _ Std.ExtTreeMap.getElem?_insert_self).1
    simp only [present, Option.getD_some, List.nodup_append] at twice
    exact twice.2.2 sid listed sid (List.mem_singleton_self sid) rfl
  · have index := (alone old found (by rw [join_others party partyId sid old same, present])).2 sid listed
    simp only [join, Std.ExtTreeMap.getElem?_insert_self, Option.some.injEq] at index
    exact same index.symm

theorem join_attended (online : Set SessionId) (attended : party.Attended online) (here : sid ∈ online) :
    (party.join partyId sid).Attended online := by
  intro other member
  by_cases self : sid = other
  · exact self ▸ here
  · exact attended other (by simpa [join, Std.ExtTreeMap.mem_insert, self] using member)

end Join

section Without

variable (party : PartyState) (sid : SessionId)

theorem erase_all (map : Std.ExtTreeMap SessionId UInt32) (gone : List SessionId) (mid : SessionId) :
    (gone.foldl (fun map mid => map.erase mid) map)[mid]? = if mid ∈ gone then none else map[mid]? := by
  induction gone generalizing map with
  | nil => simp
  | cons first rest ih =>
      rw [List.foldl_cons, ih, Std.ExtTreeMap.getElem?_erase]
      by_cases same : first = mid
      · simp [same]
      · simp [same, Ne.symm same]

theorem without_unplaced (unplaced : party.playerParty[sid]? = none) : party.without sid = party := by
  simp [without, unplaced]

theorem without_disbanded (partyId : UInt32) (found : Party) (placed : party.playerParty[sid]? = some partyId)
    (present : party.parties[partyId]? = some found) (few : (found.members.filter (fun mid => mid ≠ sid)).length ≤ 1) :
    party.without sid =
      { party with
        playerParty := (found.members.filter (fun mid => mid ≠ sid)).foldl (fun map mid => map.erase mid)
          (party.playerParty.erase sid)
        parties := party.parties.erase partyId } := by
  unfold without
  rw [placed]
  simp only [present, few, if_true]

theorem without_reduced (partyId : UInt32) (found : Party) (placed : party.playerParty[sid]? = some partyId)
    (present : party.parties[partyId]? = some found) (enough : ¬ (found.members.filter (fun mid => mid ≠ sid)).length ≤ 1) :
    party.without sid =
      { party with
        playerParty := party.playerParty.erase sid
        parties := party.parties.insert partyId { found with members := found.members.filter (fun mid => mid ≠ sid) } } := by
  unfold without
  rw [placed]
  simp only [present, enough, if_false]

theorem without_pending : (party.without sid).pendingInvites = party.pendingInvites := by
  unfold without
  split
  · rfl
  · simp only
    split
    · rfl
    · split <;> rfl

theorem without_counter : (party.without sid).nextPartyId = party.nextPartyId := by
  unfold without
  split
  · rfl
  · simp only
    split
    · rfl
    · split <;> rfl

theorem without_shrinks (other : SessionId) (index : UInt32) (known : (party.without sid).playerParty[other]? = some index) :
    other ≠ sid ∧ party.playerParty[other]? = some index := by
  cases placed : party.playerParty[sid]? with
  | none =>
      rw [without_unplaced party sid placed] at known
      refine ⟨fun same => ?_, known⟩
      rw [same, placed] at known
      exact absurd known nofun
  | some partyId =>
      have erased : (party.playerParty.erase sid)[other]? = some index → other ≠ sid ∧ party.playerParty[other]? = some index := by
        intro left
        by_cases same : sid = other
        · simp [same] at left
        · exact ⟨Ne.symm same, by simpa [Std.ExtTreeMap.getElem?_erase, same] using left⟩
      cases present : party.parties[partyId]? with
      | none =>
          refine erased ?_
          simpa only [without, placed, present] using known
      | some found =>
          by_cases few : (found.members.filter (fun mid => mid ≠ sid)).length ≤ 1
          · rw [without_disbanded party sid partyId found placed present few, erase_all] at known
            split at known
            · exact absurd known nofun
            · exact erased known
          · rw [without_reduced party sid partyId found placed present few] at known
            exact erased known

theorem without_indexed (indexed : party.Indexed) : (party.without sid).Indexed := by
  cases placed : party.playerParty[sid]? with
  | none => rwa [without_unplaced party sid placed]
  | some partyId =>
      obtain ⟨found, present, _⟩ := indexed sid partyId placed
      intro other index known
      obtain ⟨apart, before⟩ := without_shrinks party sid other index known
      obtain ⟨home, homePresent, listed⟩ := indexed other index before
      by_cases same : index = partyId
      · subst same
        have sameHome : home = found := Option.some.inj (homePresent.symm.trans present)
        subst sameHome
        have stays : other ∈ home.members.filter (fun mid => mid ≠ sid) := by simp [listed, apart]
        by_cases few : (home.members.filter (fun mid => mid ≠ sid)).length ≤ 1
        · rw [without_disbanded party sid index home placed present few, erase_all, if_pos stays] at known
          exact absurd known nofun
        · rw [without_reduced party sid index home placed present few]
          exact ⟨_, Std.ExtTreeMap.getElem?_insert_self, stays⟩
      · by_cases few : (found.members.filter (fun mid => mid ≠ sid)).length ≤ 1
        · rw [without_disbanded party sid partyId found placed present few]
          exact ⟨home, by simpa [Std.ExtTreeMap.getElem?_erase, Ne.symm same] using homePresent, listed⟩
        · rw [without_reduced party sid partyId found placed present few]
          exact ⟨home, by simpa [Std.ExtTreeMap.getElem?_insert, Ne.symm same] using homePresent, listed⟩

theorem without_exclusive (indexed : party.Indexed) (exclusive : party.Exclusive) : (party.without sid).Exclusive := by
  cases placed : party.playerParty[sid]? with
  | none => rwa [without_unplaced party sid placed]
  | some partyId =>
      obtain ⟨found, present, _⟩ := indexed sid partyId placed
      rw [exclusive_iff] at exclusive ⊢
      -- sid is listed in its own party only, so the other lists keep their index entries.
      have elsewhere : ∀ (index : UInt32) (home : Party), index ≠ partyId → party.parties[index]? = some home →
          ∀ mid ∈ home.members, mid ≠ sid ∧ mid ∉ found.members := by
        intro index home apart homePresent mid listed
        have here := (exclusive index home homePresent).2 mid listed
        refine ⟨fun same => apart ?_, fun shared => apart ?_⟩
        · rw [same, placed] at here
          exact (Option.some.inj here).symm
        · have there := (exclusive partyId found present).2 mid shared
          exact Option.some.inj (here.symm.trans there)
      intro index home homePresent
      by_cases few : (found.members.filter (fun mid => mid ≠ sid)).length ≤ 1
      · rw [without_disbanded party sid partyId found placed present few] at homePresent ⊢
        by_cases same : index = partyId
        · simp [same] at homePresent
        · have before : party.parties[index]? = some home := by
            simpa [Std.ExtTreeMap.getElem?_erase, Ne.symm same] using homePresent
          refine ⟨(exclusive index home before).1, ?_⟩
          intro mid listed
          obtain ⟨apart, unshared⟩ := elsewhere index home same before mid listed
          have kept : mid ∉ found.members.filter (fun mid => mid ≠ sid) := fun member => unshared (List.mem_filter.mp member).1
          rw [erase_all, if_neg kept, Std.ExtTreeMap.getElem?_erase]
          simpa [Ne.symm apart] using (exclusive index home before).2 mid listed
      · rw [without_reduced party sid partyId found placed present few] at homePresent ⊢
        by_cases same : index = partyId
        · subst same
          have reduced : home = { found with members := found.members.filter (fun mid => mid ≠ sid) } := by
            simpa using homePresent.symm
          subst reduced
          refine ⟨(exclusive index found present).1.filter _, ?_⟩
          intro mid listed
          obtain ⟨member, apart⟩ := List.mem_filter.mp listed
          have differs : sid ≠ mid := fun equal => by simp [equal] at apart
          simpa [Std.ExtTreeMap.getElem?_erase, differs] using (exclusive index found present).2 mid member
        · have before : party.parties[index]? = some home := by
            simpa [Std.ExtTreeMap.getElem?_insert, Ne.symm same] using homePresent
          refine ⟨(exclusive index home before).1, ?_⟩
          intro mid listed
          obtain ⟨apart, _⟩ := elsewhere index home same before mid listed
          simpa [Std.ExtTreeMap.getElem?_erase, Ne.symm apart] using (exclusive index home before).2 mid listed

theorem without_attended (online : Set SessionId) (attended : party.Attended online) :
    (party.without sid).Attended (online \ {sid}) := by
  intro other member
  obtain ⟨index, known⟩ := Option.isSome_iff_exists.mp (Std.ExtTreeMap.mem_iff_isSome_getElem?.mp member)
  obtain ⟨apart, before⟩ := without_shrinks party sid other index known
  exact ⟨attended other (Std.ExtTreeMap.mem_iff_isSome_getElem?.mpr (by simp [before])), apart⟩

theorem without_sized (indexed : party.Indexed) (sized : party.Sized) : (party.without sid).Sized := by
  cases placed : party.playerParty[sid]? with
  | none => rwa [without_unplaced party sid placed]
  | some partyId =>
      obtain ⟨found, present, _⟩ := indexed sid partyId placed
      intro index home homePresent
      by_cases few : (found.members.filter (fun mid => mid ≠ sid)).length ≤ 1
      · rw [without_disbanded party sid partyId found placed present few] at homePresent
        refine sized index home ?_
        grind
      · rw [without_reduced party sid partyId found placed present few] at homePresent
        by_cases same : index = partyId
        · have reduced : home.members = found.members.filter (fun mid => mid ≠ sid) := by
            simp [same] at homePresent
            simp [← homePresent]
          have fewer := List.length_filter_le (fun mid => mid ≠ sid) found.members
          have bound := (sized partyId found present).2
          rw [reduced]
          omega
        · exact sized index home (by simpa [Std.ExtTreeMap.getElem?_insert, Ne.symm same] using homePresent)

theorem without_numbered (indexed : party.Indexed) (created : Nat) (numbered : party.Numbered created) :
    (party.without sid).Numbered created := by
  refine ⟨(without_counter party sid).trans numbered.1, ?_⟩
  cases placed : party.playerParty[sid]? with
  | none =>
      rw [without_unplaced party sid placed]
      exact numbered.2
  | some partyId =>
      obtain ⟨found, present, _⟩ := indexed sid partyId placed
      intro index member
      refine numbered.2 index ?_
      by_cases few : (found.members.filter (fun mid => mid ≠ sid)).length ≤ 1
      · rw [without_disbanded party sid partyId found placed present few] at member
        exact (Std.ExtTreeMap.mem_erase.mp member).2
      · rw [without_reduced party sid partyId found placed present few] at member
        rcases Std.ExtTreeMap.mem_insert.mp member with same | old
        · have equal : partyId = index := by simpa using same
          exact equal ▸ Std.ExtTreeMap.mem_iff_isSome_getElem?.mpr (by simp [present])
        · exact old

end Without

section Answered

variable (party : PartyState) (sid inviterId : SessionId)

theorem party_of_without_invite :
    (party.withoutInvite sid).partyOf inviterId =
      ((party.partyOf inviterId).1.withoutInvite sid, (party.partyOf inviterId).2) := by
  cases known : party.playerParty[inviterId]? with
  | some partyId =>
      rw [party_of_member party inviterId partyId known]
      exact party_of_member (party.withoutInvite sid) inviterId partyId known
  | none =>
      rw [party_of_new party inviterId known]
      exact party_of_new (party.withoutInvite sid) inviterId known

theorem answered_full (full : ¬ party.roomFor inviterId) :
    party.answered sid inviterId = (party.partyOf inviterId).1.withoutInvite sid := by
  unfold answered
  rw [party_of_without_invite]
  exact if_pos (Nat.le_of_not_lt full)

theorem answered_joined (room : party.roomFor inviterId) :
    party.answered sid inviterId =
      ((party.partyOf inviterId).1.join (party.partyOf inviterId).2 sid).withoutInvite sid := by
  unfold answered
  rw [party_of_without_invite]
  exact if_neg (Nat.not_le_of_lt room)

-- Every property of the three maps that ignores invitations passes through here.
theorem answered_keeps (property : PartyState → Prop)
    (ignores : ∀ before, property before → property (before.withoutInvite sid))
    (entered : property (party.partyOf inviterId).1)
    (joined : party.roomFor inviterId → property ((party.partyOf inviterId).1.join (party.partyOf inviterId).2 sid)) :
    property (party.answered sid inviterId) := by
  by_cases room : party.roomFor inviterId
  · rw [answered_joined party sid inviterId room]
    exact ignores _ (joined room)
  · rw [answered_full party sid inviterId room]
    exact ignores _ entered

theorem answered_pending : (party.answered sid inviterId).pendingInvites = party.pendingInvites.erase sid := by
  by_cases room : party.roomFor inviterId
  · rw [answered_joined party sid inviterId room]
    exact congrArg (fun pending => pending.erase sid) (party_of_pending party inviterId)
  · rw [answered_full party sid inviterId room]
    exact congrArg (fun pending => pending.erase sid) (party_of_pending party inviterId)

theorem answered_indexed (indexed : party.Indexed) : (party.answered sid inviterId).Indexed := by
  have entered := party_of_indexed party inviterId indexed
  exact answered_keeps party sid inviterId Indexed (fun _ before => before) entered
    (fun _ => join_indexed _ _ sid entered)

theorem answered_attended (online : Set SessionId) (attended : party.Attended online) (here : sid ∈ online)
    (there : inviterId ∈ online) : (party.answered sid inviterId).Attended online := by
  have entered := party_of_attended party inviterId online attended there
  exact answered_keeps party sid inviterId (Attended · online) (fun _ before => before) entered
    (fun _ => join_attended _ _ sid online entered here)

theorem answered_exclusive (exclusive : party.Exclusive) (other : inviterId ≠ sid)
    (single : party.roomFor inviterId → sid ∉ party.playerParty) : (party.answered sid inviterId).Exclusive := by
  have entered := party_of_exclusive party inviterId exclusive
  refine answered_keeps party sid inviterId Exclusive (fun _ before => before) entered (fun room => ?_)
  refine join_exclusive _ _ sid entered ?_
  have same := party_of_others party inviterId sid other
  rw [Std.ExtTreeMap.mem_iff_isSome_getElem?, same, ← Std.ExtTreeMap.mem_iff_isSome_getElem?]
  exact single room

theorem answered_not_exclusive (indexed : party.Indexed) (other : inviterId ≠ sid) (room : party.roomFor inviterId)
    (placed : sid ∈ party.playerParty) : ¬ (party.answered sid inviterId).Exclusive := by
  rw [answered_joined party sid inviterId room]
  refine join_not_exclusive _ _ sid (party_of_indexed party inviterId indexed) ?_
  have same := party_of_others party inviterId sid other
  rw [Std.ExtTreeMap.mem_iff_isSome_getElem?, same, ← Std.ExtTreeMap.mem_iff_isSome_getElem?]
  exact placed

theorem answered_together (indexed : party.Indexed) (room : party.roomFor inviterId) :
    (party.answered sid inviterId).Together sid inviterId := by
  have index (mid : SessionId) (one : mid ∈ [sid, inviterId]) :
      (party.answered sid inviterId).playerParty[mid]? = some (party.partyOf inviterId).2 := by
    rw [answered_joined party sid inviterId room]
    refine Std.ExtTreeMap.getElem?_insert.trans ?_
    split
    · rfl
    · rename_i apart
      have either : mid = sid ∨ mid = inviterId := by simpa using one
      have inviter := either.resolve_left (fun same => apart (Std.compare_eq_iff_eq.mpr same.symm))
      exact inviter ▸ party_of_placed party inviterId
  have after := answered_indexed party sid inviterId indexed
  obtain ⟨found, present, _⟩ := after sid _ (index sid (by simp))
  refine ⟨_, found, present, fun mid one => ⟨index mid one, ?_⟩⟩
  obtain ⟨same, again, listed⟩ := after mid _ (index mid one)
  exact Option.some.inj (again.symm.trans present) ▸ listed

theorem answered_places (mid : SessionId) (partyId : UInt32)
    (placed : (party.answered sid inviterId).playerParty[mid]? = some partyId) :
    party.playerParty[mid]? = some partyId ∨ mid = inviterId ∨ mid = sid ∧ party.roomFor inviterId := by
  by_cases inviter : mid = inviterId
  · exact .inr (.inl inviter)
  · have others := party_of_others party inviterId mid (Ne.symm inviter)
    by_cases room : party.roomFor inviterId
    · by_cases same : mid = sid
      · exact .inr (.inr ⟨same, room⟩)
      · rw [answered_joined party sid inviterId room] at placed
        have before : (party.partyOf inviterId).1.playerParty[mid]? = some partyId := by
          simpa [join, withoutInvite, Std.ExtTreeMap.getElem?_insert, Ne.symm same] using placed
        exact .inl (others ▸ before)
    · rw [answered_full party sid inviterId room] at placed
      exact .inl (others ▸ placed)

theorem answered_counter :
    (party.answered sid inviterId).nextPartyId = (party.partyOf inviterId).1.nextPartyId := by
  by_cases room : party.roomFor inviterId
  · rw [answered_joined party sid inviterId room]
    rfl
  · rw [answered_full party sid inviterId room]
    rfl

theorem join_sized (sized : party.Sized) (partyId : UInt32)
    (room : 1 ≤ (party.membersOf partyId).length ∧ (party.membersOf partyId).length < maxParty) :
    (party.join partyId sid).Sized := by
  intro index found present
  by_cases same : index = partyId
  · subst same
    rw [join_found party index sid found present, List.length_append, List.length_singleton]
    omega
  · exact sized index found (by rwa [join_others party partyId sid index same] at present)

-- A new party starts with its inviter and gets its second member at once.
theorem answered_new (created : Nat) (sized : party.Sized) (numbered : party.Numbered created)
    (unplaced : party.playerParty[inviterId]? = none) (bound : created + 1 < 2 ^ 32) :
    (party.answered sid inviterId).Sized ∧ (party.answered sid inviterId).Numbered (created + 1) := by
  have value : party.nextPartyId.toNat = created + 1 := by
    rw [numbered.1, UInt32.toNat_ofNat']
    omega
  have unused : party.parties[party.nextPartyId]? = none := by
    refine Std.ExtTreeMap.getElem?_eq_none (fun used => ?_)
    have below := numbered.2 party.nextPartyId used
    omega
  have alone : party.membersOf party.nextPartyId = [] := by simp [membersOf, unused]
  have entered := party_of_new party inviterId unplaced
  have room : party.roomFor inviterId := by
    rw [roomFor, entered]
    simp [membersOf, unused, maxParty]
  rw [answered_joined party sid inviterId room, entered]
  constructor
  · intro index found present
    by_cases same : index = party.nextPartyId
    · subst same
      have members := join_found _ party.nextPartyId sid found present
      simp [membersOf, unused] at members
      simp [members, maxParty]
    · refine sized index found ?_
      simp only [withoutInvite, join] at present
      grind
  · refine ⟨?_, ?_⟩
    · show party.nextPartyId + 1 = UInt32.ofNat (created + 1 + 1)
      rw [numbered.1]
      simp [UInt32.ofNat_add]
    · intro index member
      have known : index = party.nextPartyId ∨ index ∈ party.parties := by
        simp only [withoutInvite, join] at member
        grind
      rcases known with same | old
      · rw [same, value]
      · exact Nat.le_succ_of_le (numbered.2 index old)

theorem answered_old (created : Nat) (partyId : UInt32) (indexed : party.Indexed) (sized : party.Sized)
    (numbered : party.Numbered created) (placed : party.playerParty[inviterId]? = some partyId) :
    (party.answered sid inviterId).Sized ∧ (party.answered sid inviterId).Numbered created := by
  obtain ⟨found, present, _⟩ := indexed inviterId partyId placed
  have entered := party_of_member party inviterId partyId placed
  refine answered_keeps party sid inviterId (fun after => after.Sized ∧ after.Numbered created) (fun _ before => before)
    (by rw [entered]; exact ⟨sized, numbered⟩) (fun room => ?_)
  rw [roomFor, entered, members_of_found party partyId found present] at room
  rw [entered]
  constructor
  · refine join_sized party sid sized partyId ?_
    rw [members_of_found party partyId found present]
    exact ⟨Nat.le_of_succ_le (sized partyId found present).1, room⟩
  · refine ⟨numbered.1, ?_⟩
    intro index member
    rcases Std.ExtTreeMap.mem_insert.mp member with same | old
    · have equal : partyId = index := by simpa using same
      exact numbered.2 index (equal ▸ Std.ExtTreeMap.mem_iff_isSome_getElem?.mpr (by simp [present]))
    · exact numbered.2 index old

end Answered

end PartyState

section Moves

variable {party party' : PartyState} {online online' : Set SessionId} {label : Option (SessionId × SessionId)}

theorem move_indexed (move : PartyMove party online label party' online') (indexed : party.Indexed) : party'.Indexed := by
  cases move with
  | stay => exact indexed
  | connect sid => exact indexed
  | invite sid target other single => exact indexed
  | decline sid => exact indexed
  | answer sid inviterId here invited there => exact PartyState.answered_indexed party sid inviterId indexed
  | leave sid => exact PartyState.without_indexed party sid indexed
  | disconnect sid => exact PartyState.without_indexed party sid indexed

theorem move_no_self_invite (move : PartyMove party online label party' online') (honest : party.NoSelfInvite) :
    party'.NoSelfInvite := by
  have erased : ∀ (sid other inviterId : SessionId), (party.pendingInvites.erase sid)[other]? = some inviterId → inviterId ≠ other := by
    intro sid other inviterId pending
    rw [Std.ExtTreeMap.getElem?_erase] at pending
    split at pending
    · exact absurd pending nofun
    · exact honest other inviterId pending
  cases move with
  | stay => exact honest
  | connect sid => exact honest
  | invite sid target other single =>
      intro invited inviterId pending
      rw [Std.ExtTreeMap.getElem?_insert] at pending
      split at pending
      · rename_i same
        rw [← Option.some.inj pending, ← Std.LawfulEqCmp.eq_of_compare same]
        exact Ne.symm other
      · exact honest invited inviterId pending
  | decline sid => exact erased sid
  | answer sid inviterId here invited there =>
      intro other
      rw [PartyState.answered_pending]
      exact erased sid other
  | leave sid =>
      intro other
      rw [PartyState.without_pending]
      exact honest other
  | disconnect sid =>
      intro other
      rw [PartyState.withoutInvite, PartyState.without_pending]
      exact erased sid other

theorem move_attended (move : PartyMove party online label party' online') (attended : party.Attended online) :
    party'.Attended online' := by
  cases move with
  | stay => exact attended
  | connect sid => exact fun other placed => Set.mem_insert_of_mem sid (attended other placed)
  | invite sid target other single => exact attended
  | decline sid => exact attended
  | answer sid inviterId here invited there =>
      exact PartyState.answered_attended party sid inviterId online attended here there
  | leave sid => exact fun other placed => (PartyState.without_attended party sid online attended other placed).1
  | disconnect sid => exact PartyState.without_attended party sid online attended

theorem move_exclusive (move : PartyMove party online label party' online') (indexed : party.Indexed)
    (honest : party.NoSelfInvite) (exclusive : party.Exclusive)
    (single : ∀ sid inviterId, label = some (sid, inviterId) → party.roomFor inviterId → sid ∉ party.playerParty) :
    party'.Exclusive := by
  cases move with
  | stay => exact exclusive
  | connect sid => exact exclusive
  | invite sid target other apart => exact exclusive
  | decline sid => exact exclusive
  | answer sid inviterId here invited there =>
      exact PartyState.answered_exclusive party sid inviterId exclusive (honest sid inviterId invited) (single sid inviterId rfl)
  | leave sid => exact PartyState.without_exclusive party sid indexed exclusive
  | disconnect sid => exact PartyState.without_exclusive party sid indexed exclusive

theorem move_not_exclusive (sid inviterId : SessionId) (move : PartyMove party online (some (sid, inviterId)) party' online')
    (indexed : party.Indexed) (honest : party.NoSelfInvite) (room : party.roomFor inviterId)
    (placed : sid ∈ party.playerParty) : ¬ party'.Exclusive := by
  cases move with
  | answer _ _ here invited there =>
      exact PartyState.answered_not_exclusive party sid inviterId indexed (honest sid inviterId invited) room placed

theorem move_together (sid inviterId : SessionId) (move : PartyMove party online (some (sid, inviterId)) party' online')
    (indexed : party.Indexed) (room : party.roomFor inviterId) : party'.Together sid inviterId := by
  cases move with
  | answer _ _ here invited there => exact PartyState.answered_together party sid inviterId indexed room

theorem move_places (move : PartyMove party online label party' online') (mid : SessionId) (partyId : UInt32)
    (placed : party'.playerParty[mid]? = some partyId) :
    party.playerParty[mid]? = some partyId ∨
      ∃ sid inviterId, label = some (sid, inviterId) ∧ (mid = inviterId ∨ mid = sid ∧ party.roomFor inviterId) := by
  cases move with
  | stay => exact .inl placed
  | connect sid => exact .inl placed
  | invite sid target other single => exact .inl placed
  | decline sid => exact .inl placed
  | answer sid inviterId here invited there =>
      rcases PartyState.answered_places party sid inviterId mid partyId placed with before | taken
      · exact .inl before
      · exact .inr ⟨sid, inviterId, rfl, taken⟩
  | leave sid => exact .inl (PartyState.without_shrinks party sid mid partyId placed).2
  | disconnect sid => exact .inl (PartyState.without_shrinks party sid mid partyId placed).2

theorem numbered_same (created : Nat) (same : party'.nextPartyId = party.nextPartyId)
    (kept : party'.Sized ∧ party'.Numbered created) :
    party'.Sized ∧ party'.Numbered (created + if party'.nextPartyId = party.nextPartyId then 0 else 1) := by
  rw [if_pos same]
  exact kept

theorem move_sized (move : PartyMove party online label party' online') (created : Nat) (indexed : party.Indexed)
    (sized : party.Sized) (numbered : party.Numbered created)
    (bound : party'.nextPartyId ≠ party.nextPartyId → created + 1 < 2 ^ 32) :
    party'.Sized ∧ party'.Numbered (created + if party'.nextPartyId = party.nextPartyId then 0 else 1) := by
  have without (sid : SessionId) := And.intro (PartyState.without_sized party sid indexed sized)
    (PartyState.without_numbered party sid indexed created numbered)
  cases move with
  | stay => exact numbered_same created rfl ⟨sized, numbered⟩
  | connect sid => exact numbered_same created rfl ⟨sized, numbered⟩
  | invite sid target other apart => exact numbered_same created rfl ⟨sized, numbered⟩
  | decline sid => exact numbered_same created rfl ⟨sized, numbered⟩
  | answer sid inviterId here invited there =>
      rw [PartyState.answered_counter] at bound ⊢
      cases placed : party.playerParty[inviterId]? with
      | some partyId =>
          rw [PartyState.party_of_member party inviterId partyId placed, if_pos rfl]
          exact PartyState.answered_old party sid inviterId created partyId indexed sized numbered placed
      | none =>
          have changed : party.nextPartyId + 1 ≠ party.nextPartyId := by simp
          rw [PartyState.party_of_new party inviterId placed] at bound ⊢
          rw [if_neg changed]
          exact PartyState.answered_new party sid inviterId created sized numbered placed (bound changed)
  | leave sid => exact numbered_same created (PartyState.without_counter party sid) (without sid)
  | disconnect sid => exact numbered_same created (PartyState.without_counter party sid) (without sid)

end Moves

end MmorpgSimulator
