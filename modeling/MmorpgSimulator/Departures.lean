import MmorpgSimulator.SessionEntries
import MmorpgSimulator.Invitations

set_option autoImplicit false

namespace MmorpgSimulator

namespace PartyState

-- No party of one; that there are never more than four does not matter here.
def Sociable (party : PartyState) : Prop :=
  ∀ (partyId : UInt32) (found : Party), party.parties[partyId]? = some found → 2 ≤ found.members.length

variable (party : PartyState) (sid inviterId : SessionId)

theorem without_sociable (indexed : party.Indexed) (sociable : party.Sociable) : (party.without sid).Sociable := by
  cases placed : party.playerParty[sid]? with
  | none => rwa [without_unplaced party sid placed]
  | some partyId =>
      obtain ⟨found, present, _⟩ := indexed sid partyId placed
      intro index home homePresent
      by_cases few : (found.members.filter (fun mid => mid ≠ sid)).length ≤ 1
      · rw [without_disbanded party sid partyId found placed present few] at homePresent
        refine sociable index home ?_
        grind
      · rw [without_reduced party sid partyId found placed present few] at homePresent
        by_cases same : index = partyId
        · have reduced : home.members = found.members.filter (fun mid => mid ≠ sid) := by
            simp [same] at homePresent
            simp [← homePresent]
          rw [reduced]
          omega
        · exact sociable index home (by simpa [Std.ExtTreeMap.getElem?_insert, Ne.symm same] using homePresent)

def SociableBut (home : UInt32) : Prop :=
  ∀ (partyId : UInt32) (found : Party), partyId ≠ home → party.parties[partyId]? = some found → 2 ≤ found.members.length

theorem join_sociable (home : UInt32) (others : party.SociableBut home) (occupied : 1 ≤ (party.membersOf home).length) :
    (party.join home sid).Sociable := by
  intro index found present
  by_cases same : index = home
  · subst same
    rw [join_found party index sid found present, List.length_append, List.length_singleton]
    omega
  · rw [join_others party home sid index same] at present
    exact others index found same present

theorem entered_sociable (indexed : party.Indexed) (sociable : party.Sociable) :
    (party.partyOf inviterId).1.SociableBut (party.partyOf inviterId).2 ∧
      1 ≤ ((party.partyOf inviterId).1.membersOf (party.partyOf inviterId).2).length := by
  cases known : party.playerParty[inviterId]? with
  | some partyId =>
      obtain ⟨found, present, _⟩ := indexed inviterId partyId known
      rw [party_of_member party inviterId partyId known]
      refine ⟨fun index home _ => sociable index home, ?_⟩
      rw [members_of_found party partyId found present]
      exact Nat.le_of_succ_le (sociable partyId found present)
  | none =>
      rw [party_of_new party inviterId known]
      constructor
      · intro index home apart present
        refine sociable index home ?_
        simpa [Std.ExtTreeMap.getElem?_insert, Ne.symm apart] using present
      · simp [membersOf]

-- A new party starts with its inviter alone. It is joined at once, unless its id was
-- in use and the party is full already.
theorem answered_sociable (indexed : party.Indexed) (sociable : party.Sociable) : (party.answered sid inviterId).Sociable := by
  obtain ⟨others, occupied⟩ := entered_sociable party inviterId indexed sociable
  by_cases room : party.roomFor inviterId
  · rw [answered_joined party sid inviterId room]
    exact join_sociable _ sid _ others occupied
  · rw [answered_full party sid inviterId room]
    intro index found present
    by_cases same : index = (party.partyOf inviterId).2
    · have many : maxParty ≤ found.members.length := by
        rw [← members_of_found _ index found present, same]
        exact Nat.le_of_not_lt room
      exact Nat.le_trans (by decide) many
    · exact others index found same present

theorem sociable_empty : Sociable {} := by simp [Sociable]

end PartyState

theorem move_sociable {party party' : PartyState} {online online' : Set SessionId} {label : Option (SessionId × SessionId)}
    (move : PartyMove party online label party' online') (indexed : party.Indexed) (sociable : party.Sociable) : party'.Sociable := by
  cases move with
  | stay => exact sociable
  | connect sid => exact sociable
  | invite sid target other single => exact sociable
  | decline sid => exact sociable
  | answer sid inviterId here invited there => exact PartyState.answered_sociable party sid inviterId indexed sociable
  | leave sid => exact PartyState.without_sociable party sid indexed sociable
  | disconnect sid => exact PartyState.without_sociable party sid indexed sociable

def Expected (s : ServerState) : Prop := ∀ sid : SessionId, sid ∈ s.party.pendingInvites → sid ∈ s.sessions

structure Tidy (s : ServerState) : Prop where
  valid : PartyInvariant s
  exclusive : s.party.Exclusive
  sociable : s.party.Sociable
  connected : EntriesConnected s
  expected : Expected s

structure Forgotten (sid : SessionId) (s : ServerState) : Prop where
  listed : ∀ (partyId : UInt32) (found : Party), s.party.parties[partyId]? = some found → sid ∉ found.members
  placed : sid ∉ s.party.playerParty
  invited : sid ∉ s.party.pendingInvites
  inventory : sid ∉ s.inventories
  log : sid ∉ s.questProgress
  session : sid ∉ s.sessions

def PartiesOfTwo (s : ServerState) : Prop :=
  ∀ (partyId : UInt32) (found : Party), s.party.parties[partyId]? = some found →
    ∃ first second, first ≠ second ∧ (first ∈ found.members ∧ first ∈ s.sessions) ∧ second ∈ found.members ∧ second ∈ s.sessions

section Tidiness

variable (data : GameData) (s : ServerState) (sid : SessionId)

theorem member_here (tidy : Tidy s) (partyId : UInt32) (found : Party) (present : s.party.parties[partyId]? = some found)
    (mid : SessionId) (listed : mid ∈ found.members) : mid ∈ s.party.playerParty ∧ mid ∈ s.sessions := by
  have index := tidy.exclusive.2 partyId found present mid listed
  have placed : mid ∈ s.party.playerParty := Std.ExtTreeMap.mem_iff_isSome_getElem?.mpr (by simp [index])
  exact ⟨placed, tidy.valid.attended mid placed⟩

theorem tidy_forgotten (tidy : Tidy s) (gone : sid ∉ s.sessions) : Forgotten sid s where
  listed := fun partyId found present listed => gone (member_here s tidy partyId found present sid listed).2
  placed := fun placed => gone (tidy.valid.attended sid placed)
  invited := fun invited => gone (tidy.expected sid invited)
  inventory := fun inventory => gone (tidy.connected sid (.inl inventory))
  log := fun log => gone (tidy.connected sid (.inr log))
  session := gone

theorem tidy_parties (tidy : Tidy s) : PartiesOfTwo s := by
  intro partyId found present
  have many := tidy.sociable partyId found present
  have once := ((PartyState.exclusive_iff s.party).mp tidy.exclusive partyId found present).1
  have there := member_here s tidy partyId found present
  cases members : found.members with
  | nil => simp [members] at many
  | cons first rest =>
      cases others : rest with
      | nil => simp [members, others] at many
      | cons second later =>
          rw [members, others] at once there
          have apart : first ≠ second := by
            have fresh := (List.nodup_cons.mp once).1
            exact fun same => fresh (same ▸ List.mem_cons_self)
          exact ⟨first, second, apart, ⟨List.mem_cons_self, (there first List.mem_cons_self).2⟩,
            List.mem_cons_of_mem first List.mem_cons_self, (there second (List.mem_cons_of_mem first List.mem_cons_self)).2⟩

theorem expected_nobody {t : ServerState} (invites : InvitesNobody s t) (stays : Stays s t) (expected : Expected s) : Expected t := by
  intro other invited
  obtain ⟨inviterId, pending⟩ := Option.isSome_iff_exists.mp (Std.ExtTreeMap.mem_iff_isSome_getElem?.mp invited)
  have before := invites.pending other inviterId pending
  exact stays other (expected other (Std.ExtTreeMap.mem_iff_isSome_getElem?.mpr (by simp [before])))

theorem handle_expected (indexed : s.party.Indexed) (request : Request) (stays : Stays s (handle data s sid request)) (expected : Expected s) :
    Expected (handle data s sid request) := by
  rcases handle_invites data s indexed sid request with nobody | ⟨req, target, _, invites, carried⟩
  · exact expected_nobody s nobody stays expected
  · rw [carried]
    intro other invited
    rcases Std.ExtTreeMap.mem_insert.mp invited with same | old
    · rw [← Std.compare_eq_iff_eq.mp same]
      exact invitee_present s sid req target invites
    · exact expected other old

theorem disconnect_expected (expected : Expected s) : Expected (onDisconnect s sid) := by
  obtain ⟨_, _, _, party, sessions⟩ := on_disconnect_spec s sid
  intro other
  rw [party, sessions, PartyState.withoutInvite, (remove_from_party_settles s sid).party, PartyState.without_pending,
    Std.ExtTreeMap.mem_erase, Std.ExtTreeMap.mem_erase]
  exact fun kept => ⟨kept.1, expected other kept.2⟩

def Settled (s : ServerState) : Prop := EntriesConnected s ∧ Expected s

theorem settled_same (t : ServerState) (stays : Stays s t) (kept : sessionMaps t = sessionMaps s) (party : t.party = s.party)
    (settled : Settled s) : Settled t := by
  refine ⟨entries_connected_same kept stays settled.1, ?_⟩
  intro other
  rw [party]
  exact fun invited => stays other (settled.2 other invited)

theorem step_settled (input : Input) (indexed : s.party.Indexed) (settled : Settled s) : Settled (step data s input) := by
  have start : Settled (facing s input) := settled
  cases dead : s.fault with
  | some fault => rwa [step_dead data s input fault dead]
  | none =>
      cases happens : input.event with
      | accept =>
          rw [step_alive data s input dead, happens]
          refine settled_same (facing s input) _ (idle_do_accept (facing s input)).here ?_ ?_ start
          · change sessionMaps (doAccept (facing s input)) = sessionMaps (facing s input)
            rw [doAccept]
            split <;> rfl
          · change (doAccept (facing s input)).party = (facing s input).party
            rw [doAccept]
            split <;> rfl
      | writeError sid =>
          rw [step_alive data s input dead, happens]
          exact settled_same (facing s input) _ (idle_set_unconnected (facing s input) sid).here rfl rfl start
      | disconnect sid =>
          rw [step_alive data s input dead, happens]
          by_cases here : sid ∈ s.sessions
          · rw [disconnect_here data (facing s input) sid here]
            have marked := settled_same (facing s input) _ (idle_set_unconnected (facing s input) sid).here rfl rfl start
            exact ⟨on_disconnect_entries _ sid marked.1, disconnect_expected _ sid marked.2⟩
          · rwa [disconnect_absent data (facing s input) sid here]
      | packet sid request =>
          have stays := packet_stays data s input sid request happens
          rw [step_alive data s input dead, happens] at stays ⊢
          by_cases here : sid ∈ s.sessions
          · rw [handle_event_here data (facing s input) sid request here] at stays ⊢
            exact ⟨handle_entries data (facing s input) sid request here stays start.1,
              handle_expected data (facing s input) sid indexed request stays start.2⟩
          · rwa [handle_event_absent data (facing s input) sid request here]

theorem step_tidy (input : Input) (unplaced : acceptsUnplaced s input) (tidy : Tidy s) : Tidy (step data s input) := by
  have move := (step_party data s tidy.valid.indexed input).move
  have settled := step_settled data s input tidy.valid.indexed ⟨tidy.connected, tidy.expected⟩
  exact ⟨step_party_invariant data s input tidy.valid, move_exclusive move tidy.valid.indexed tidy.valid.honest tidy.exclusive unplaced,
    move_sociable move tidy.valid.indexed tidy.sociable, settled.1, settled.2⟩

def idUnused (sid : SessionId) (s : ServerState) (input : Input) : Prop := input.event = .accept → s.nextSessionId ≠ sid

instance (sid : SessionId) (s : ServerState) (input : Input) : Decidable (idUnused sid s input) :=
  inferInstanceAs (Decidable (_ → _))

theorem step_absent (input : Input) (unused : idUnused sid s input) (indexed : s.party.Indexed) (gone : sid ∉ s.sessions) :
    sid ∉ (step data s input).sessions := by
  cases dead : s.fault with
  | some fault => rwa [step_dead data s input fault dead]
  | none =>
      rw [step_alive data s input dead]
      cases happens : input.event with
      | accept =>
          change sid ∉ (doAccept (facing s input)).sessions
          rw [doAccept]
          by_cases taken : (facing s input).nextSessionId ∈ (facing s input).sessions
          · rwa [if_pos taken]
          · rw [if_neg taken, Std.ExtTreeMap.mem_insert]
            rintro (same | there)
            · exact unused happens (Std.compare_eq_iff_eq.mp same)
            · exact gone there
      | writeError other =>
          have marked := (set_unconnected_settles (facing s input) other).online sid
          exact fun there => gone (marked.mp there)
      | disconnect other =>
          by_cases here : other ∈ s.sessions
          · rw [disconnect_here data (facing s input) other here]
            obtain ⟨_, _, _, _, sessions⟩ := on_disconnect_spec (setUnconnected (facing s input) other) other
            have marked := (set_unconnected_settles (facing s input) other).online sid
            rw [sessions, Std.ExtTreeMap.mem_erase]
            exact fun there => gone (marked.mp there.2)
          · rwa [disconnect_absent data (facing s input) other here]
      | packet other request =>
          by_cases here : other ∈ s.sessions
          · rw [handle_event_here data (facing s input) other request here, mem_line,
              handle_line data (facing s input) indexed other request sid, ← mem_line]
            exact gone
          · rwa [handle_event_absent data (facing s input) other request here]

theorem step_departed (rolls : List Nat) (plan : List DbOutcome) (alive : s.fault = none) :
    sid ∉ (step data s ⟨.disconnect sid, rolls, plan⟩).sessions := by
  rw [step_alive data s _ alive]
  by_cases here : sid ∈ s.sessions
  · rw [disconnect_here data (facing s ⟨.disconnect sid, rolls, plan⟩) sid here]
    obtain ⟨_, _, _, _, sessions⟩ := on_disconnect_spec (setUnconnected (facing s ⟨.disconnect sid, rolls, plan⟩) sid) sid
    rw [sessions, Std.ExtTreeMap.mem_erase]
    exact fun there => there.1 Std.ReflCmp.compare_self
  · rwa [disconnect_absent data (facing s ⟨.disconnect sid, rolls, plan⟩) sid here]

theorem boot_tidy (db : Database) (draw : Nat → Nat) : Tidy (boot db draw) where
  valid := boot_party_invariant db draw
  exclusive := PartyState.exclusive_empty
  sociable := PartyState.sociable_empty
  connected := by simp [EntriesConnected, ServerState.HasEntry, boot]
  expected := by simp [Expected, boot]

end Tidiness

section Leaving

variable (data : GameData) (db : Database) (draw : Nat → Nat)

theorem departure_leaves_nothing (before after : List Input) (sid : SessionId)
    (rolls : List Nat) (plan : List DbOutcome) (alive : (Machine.run (step data) (boot db draw) before).fault = none)
    (unplaced : Machine.Guarded (step data) acceptsUnplaced (boot db draw) (before ++ ⟨.disconnect sid, rolls, plan⟩ :: after))
    (unused : Machine.Guarded (step data) (idUnused sid)
      (step data (Machine.run (step data) (boot db draw) before) ⟨.disconnect sid, rolls, plan⟩) after) :
    Machine.Throughout (step data) (fun s => Forgotten sid s ∧ PartiesOfTwo s)
      (step data (Machine.run (step data) (boot db draw) before) ⟨.disconnect sid, rolls, plan⟩) after := by
  obtain ⟨earlier, answered, later⟩ := (Machine.guarded_append (step data) acceptsUnplaced _ before _).mp unplaced
  have tidy : Tidy (Machine.run (step data) (boot db draw) before) :=
    Machine.run_invariant (step data) acceptsUnplaced Tidy (fun s input held met => step_tidy data s input met held) _ before
      (boot_tidy db draw) earlier
  have left := step_tidy data _ _ answered tidy
  have gone := step_departed data _ sid rolls plan alive
  apply Machine.throughout_of_guarded (step data) (fun s input => acceptsUnplaced s input ∧ idUnused sid s input)
    (fun s => Tidy s ∧ sid ∉ s.sessions)
  · exact fun s held => ⟨tidy_forgotten s sid held.1 held.2, tidy_parties s held.1⟩
  · intro s input held met
    exact ⟨step_tidy data s input met.1 held.1, step_absent data s sid input met.2 held.1.valid.indexed held.2⟩
  · exact ⟨left, gone⟩
  · exact Machine.guarded_and (step data) acceptsUnplaced (idUnused sid) _ after later unused

def packets (sid : SessionId) (requests : List Request) : List Input := requests.map (fun request => ⟨.packet sid request, [], []⟩)

def twoInvitations : List Input :=
  List.replicate 3 ⟨.accept, [], []⟩ ++ packets 1 [.login ⟨[49]⟩, .charSelect ⟨1⟩] ++ packets 2 [.login ⟨[50]⟩, .charSelect ⟨2⟩] ++
    packets 3 [.login ⟨[51]⟩, .charSelect ⟨3⟩] ++ packets 1 [.partyInvite ⟨[66]⟩] ++ packets 3 [.partyInvite ⟨[65]⟩]

-- Session 1 becomes the leader of one party and then joins another.
def bothAccepted : List Input := twoInvitations ++ packets 2 [.partyAccept ⟨1⟩] ++ packets 1 [.partyAccept ⟨1⟩]

theorem second_party_remembers :
    (Machine.run (step emptyData) (boot threeCharacters (fun _ => 0)) bothAccepted).fault = none ∧
      ¬ Machine.Throughout (step emptyData) (fun s => Forgotten 1 s ∧ PartiesOfTwo s)
        (Machine.run (step emptyData) (boot threeCharacters (fun _ => 0)) (bothAccepted ++ [⟨.disconnect 1, [], []⟩])) [] := by
  constructor
  · decide +kernel
  · rintro ⟨forgotten, _⟩
    have listed : ((Machine.run (step emptyData) (boot threeCharacters (fun _ => 0))
        (bothAccepted ++ [⟨.disconnect 1, [], []⟩])).party.parties[(1 : UInt32)]?).map Party.members = some [1, 2] := by
      decide +kernel
    obtain ⟨found, present, members⟩ := Option.map_eq_some_iff.mp listed
    exact forgotten.listed 1 found present (by simp [members])

def oneAccepted : List Input := twoInvitations ++ packets 2 [.partyAccept ⟨1⟩]

theorem departed_leader_forgotten :
    Machine.Throughout (step emptyData) (fun s => Forgotten 1 s ∧ PartiesOfTwo s)
      (step emptyData (Machine.run (step emptyData) (boot threeCharacters (fun _ => 0)) oneAccepted) ⟨.disconnect 1, [], []⟩)
      (packets 2 [.partyLeave] ++ [⟨.accept, [], []⟩]) :=
  departure_leaves_nothing emptyData threeCharacters (fun _ => 0) oneAccepted _ 1 [] [] (by decide +kernel) (by decide +kernel)
    (by decide +kernel)

end Leaving

end MmorpgSimulator
