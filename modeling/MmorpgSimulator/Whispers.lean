import MmorpgSimulator.Bystanders

set_option autoImplicit false

namespace MmorpgSimulator

section Inboxes

variable (s : ServerState)

theorem inbox_deliver_count (receivers : List SessionId) (message : Message) (other : SessionId) :
    inbox (receivers.flatMap (fun receiver => s.deliver receiver message)) other =
      List.replicate (if s.line other = some true then receivers.count other else 0) message := by
  induction receivers with
  | nil => simp [inbox]
  | cons first rest ih =>
      rw [List.flatMap_cons, inbox_append, inbox_deliver, ih]
      by_cases open_ : s.line other = some true
      · by_cases same : other = first
        · subst same
          simp [open_, List.replicate_succ]
        · simp [open_, same, Ne.symm same]
      · have silent : ¬ (other = first ∧ s.line first = some true) := by
          rintro ⟨rfl, connected⟩
          exact open_ connected
        simp [open_, silent]

theorem inbox_replies (receivers : List SessionId) (sid : SessionId) (reply : Message) (other : SessionId) :
    inbox (receivers.flatMap (fun receiver => s.deliver receiver reply ++ s.deliver sid reply)) other =
      List.replicate ((if s.line other = some true then receivers.count other else 0) +
        if other = sid ∧ s.line sid = some true then receivers.length else 0) reply := by
  induction receivers with
  | nil => simp [inbox]
  | cons first rest ih =>
      have one := inbox_deliver_count s [first] reply other
      rw [List.flatMap_singleton] at one
      rw [List.flatMap_cons, inbox_append, inbox_append, one, inbox_deliver, ih]
      by_cases open_ : s.line other = some true
      · by_cases own : other = sid ∧ s.line sid = some true
        · simp only [if_pos open_, if_pos own, List.count_cons, List.count_nil, List.length_cons]
          rw [← List.replicate_one, List.replicate_append_replicate, List.replicate_append_replicate]
          congr 1
          omega
        · simp only [if_pos open_, if_neg own, List.count_cons, List.count_nil]
          rw [List.append_nil, List.replicate_append_replicate]
          congr 1
          omega
      · have apart : ¬ (other = sid ∧ s.line sid = some true) := by
          rintro ⟨rfl, connected⟩
          exact open_ connected
        simp only [if_neg open_, if_neg apart]
        rfl

theorem count_connected (receivers : List SessionId) (other : SessionId) :
    (receivers.filter (fun mid => s.line mid = some true)).count other =
      if s.line other = some true then receivers.count other else 0 := by
  by_cases open_ : s.line other = some true
  · rw [if_pos open_, @List.count_filter _ _ _ (fun mid => decide (s.line mid = some true)) other _ (decide_eq_true open_)]
  · rw [if_neg open_]
    exact List.count_eq_zero.mpr (fun listed => open_ (of_decide_eq_true (List.mem_filter.mp listed).2))

theorem mem_sessions_named (name : Bytes) (sid : SessionId) :
    sid ∈ sessionsNamed s name ↔ sid ∈ s.sessions ∧ (s.player sid).name = name := by
  rw [sessionsNamed, List.mem_map]
  constructor
  · rintro ⟨entry, listed, rfl⟩
    obtain ⟨stored, named⟩ := List.mem_filter.mp listed
    have present := Std.ExtTreeMap.mem_toList_iff_getElem?_eq_some.mp stored
    refine ⟨Std.ExtTreeMap.mem_iff_isSome_getElem?.mpr (by rw [present]; rfl), ?_⟩
    rw [ServerState.player, present]
    exact of_decide_eq_true named
  · rintro ⟨here, named⟩
    obtain ⟨session, present⟩ := Option.isSome_iff_exists.mp (Std.ExtTreeMap.mem_iff_isSome_getElem?.mp here)
    rw [ServerState.player, present] at named
    have stored := Std.ExtTreeMap.mem_toList_iff_getElem?_eq_some.mpr present
    exact ⟨(sid, session), List.mem_filter.mpr ⟨stored, decide_eq_true named⟩, rfl⟩

theorem sessions_named_once (name : Bytes) : (sessionsNamed s name).Nodup := by
  have distinct : (s.sessions.toList.map Prod.fst).Nodup := by
    rw [Std.ExtTreeMap.map_fst_toList_eq_keys]
    exact Std.ExtTreeMap.nodup_keys
  exact distinct.sublist (List.filter_sublist.map Prod.fst)

end Inboxes

section Audience

variable (s : ServerState) (sid : SessionId) (chat : CsChat)

structure Online : Prop where
  inGame : (s.player sid).loggedIn = true
  connected : s.line sid = some true

instance : Decidable (Online s sid) :=
  decidable_of_iff ((s.player sid).loggedIn = true ∧ s.line sid = some true)
    ⟨fun both => ⟨both.1, both.2⟩, fun online => ⟨online.inGame, online.connected⟩⟩

theorem Online.here {s : ServerState} {sid : SessionId} (online : Online s sid) : sid ∈ s.sessions := by
  by_contra absent
  have nobody := online.inGame
  rw [player_absent s sid absent] at nobody
  exact absurd nobody nofun

def chatReply : Message :=
  .chat { channel := chat.channel, senderName := strncpyS (s.player sid).name 19, message := strncpyS chat.message 127 }

def heard (other : SessionId) : List Message := inbox (onChat { s with sent := [] } sid chat).sent other

-- Once to whom it is meant for and once back, or word to the sender that there is nobody.
structure Whispered : Prop where
  told : ∀ target, Online s target → (s.player target).name = chat.targetName → ∀ other, heard s sid chat other =
    List.replicate ((if other = target then 1 else 0) + if other = sid then 1 else 0) (chatReply s sid chat)
  refused : (∀ target, Online s target → (s.player target).name ≠ chat.targetName) → ∀ other, heard s sid chat other =
    if other = sid then [.error { errorCode := 2, message := text "Player not found" }] else []

-- Once to each connected member; outside a party nobody but the sender hears anything.
structure PartyTold : Prop where
  told : ∀ partyId, s.party.playerParty[sid]? = some partyId → ∀ other, heard s sid chat other =
    if other ∈ s.party.membersOf partyId ∧ s.line other = some true then [chatReply s sid chat] else []
  alone : s.party.playerParty[sid]? = none → ∀ other, other ≠ sid → heard s sid chat other = []

variable {s sid chat}

theorem heard_whisper (channel : chat.channel = 1) (other : SessionId) : heard s sid chat other =
    if sessionsNamed s chat.targetName = [] then
      if other = sid ∧ s.line sid = some true then [.error { errorCode := 2, message := text "Player not found" }] else []
    else List.replicate ((if s.line other = some true then (sessionsNamed s chat.targetName).count other else 0) +
      if other = sid ∧ s.line sid = some true then (sessionsNamed s chat.targetName).length else 0) (chatReply s sid chat) := by
  have quiet : chat.channel ≠ 0 := by
    rw [channel]
    decide
  rw [heard, onChat]
  simp only [if_neg quiet, if_pos channel, fold_replies]
  by_cases nobody : sessionsNamed s chat.targetName = []
  · have empty : sessionsNamed { s with sent := [] } chat.targetName = [] := nobody
    simp only [empty, List.isEmpty_nil, if_true, if_pos nobody]
    exact inbox_deliver s sid other _
  · have found : (sessionsNamed { s with sent := [] } chat.targetName).isEmpty = false :=
      Bool.eq_false_iff.mpr (fun empty => nobody (List.isEmpty_iff.mp empty))
    simp only [found, if_neg nobody, Bool.false_eq_true, if_false]
    exact inbox_replies s (sessionsNamed s chat.targetName) sid (chatReply s sid chat) other

theorem heard_party (channel : chat.channel = 2) (partyId : UInt32) (placed : s.party.playerParty[sid]? = some partyId)
    (other : SessionId) : heard s sid chat other =
      List.replicate (if s.line other = some true then (s.party.membersOf partyId).count other else 0) (chatReply s sid chat) := by
  have members := members_touch { s with sent := [] } partyId partyId
  have quiet : chat.channel ≠ 0 ∧ chat.channel ≠ 1 := by
    rw [channel]
    decide
  rw [heard, onChat]
  simp only [if_neg quiet.1, if_neg quiet.2, if_pos channel, placed, fold_send, members]
  exact inbox_deliver_count s (s.party.membersOf partyId) (chatReply s sid chat) other

theorem sole_bearer (target : SessionId) (online : Online s target) (named : (s.player target).name = chat.targetName)
    (alone : ∀ bearer ∈ sessionsNamed s chat.targetName, bearer = target) : sessionsNamed s chat.targetName = [target] := by
  have listed := (mem_sessions_named s chat.targetName target).mpr ⟨online.here, named⟩
  have copies := List.eq_replicate_of_mem alone
  have once := sessions_named_once s chat.targetName
  rw [copies, List.nodup_replicate] at once
  have some := List.length_pos_of_mem listed
  rw [copies, Nat.le_antisymm once some]
  rfl

theorem whispered_of_online (sender : Online s sid) (channel : chat.channel = 1)
    (apart : ∀ one other, Online s one → Online s other → (s.player one).name = (s.player other).name → one = other)
    (audience : ∀ bearer ∈ s.sessions, (s.player bearer).name = chat.targetName → Online s bearer) : Whispered s sid chat := by
  constructor
  · intro target online named other
    have sole : sessionsNamed s chat.targetName = [target] := by
      refine sole_bearer target online named (fun bearer listed => ?_)
      obtain ⟨here, called⟩ := (mem_sessions_named s chat.targetName bearer).mp listed
      exact apart bearer target (audience bearer here called) online (called.trans named.symm)
    rw [heard_whisper channel, sole, if_neg (List.cons_ne_nil target [])]
    congr 1
    by_cases own : other = sid
    · by_cases self : other = target
      · subst own
        simp [self, online.connected]
      · subst own
        simp [sender.connected, self, Ne.symm self]
    · by_cases self : other = target
      · subst self
        simp [own, online.connected]
      · simp [own, self, Ne.symm self]
  · intro nobody other
    have none : sessionsNamed s chat.targetName = [] := by
      refine List.eq_nil_iff_forall_not_mem.mpr (fun bearer listed => ?_)
      obtain ⟨here, called⟩ := (mem_sessions_named s chat.targetName bearer).mp listed
      exact nobody bearer (audience bearer here called) called
    rw [heard_whisper channel, if_pos none]
    simp [sender.connected]

theorem online_of_whispered (sender : Online s sid) (channel : chat.channel = 1) (whispered : Whispered s sid chat)
    (bearer : SessionId) (here : bearer ∈ s.sessions) (called : (s.player bearer).name = chat.targetName) : Online s bearer := by
  by_contra offline
  have listed := (mem_sessions_named s chat.targetName bearer).mpr ⟨here, called⟩
  have echoed := @heard_whisper s sid chat channel sid
  rw [if_neg (List.ne_nil_of_mem listed), if_pos sender.connected, if_pos ⟨rfl, sender.connected⟩] at echoed
  by_cases meant : ∃ target, Online s target ∧ (s.player target).name = chat.targetName
  · obtain ⟨target, online, named⟩ := meant
    have also := (mem_sessions_named s chat.targetName target).mpr ⟨online.here, named⟩
    have different : bearer ≠ target := by
      rintro rfl
      exact offline online
    have both : 2 ≤ (sessionsNamed s chat.targetName).length := by
      have inside : [bearer, target] ⊆ sessionsNamed s chat.targetName := by
        intro one member
        rcases List.mem_pair.mp member with rfl | rfl
        · exact listed
        · exact also
      exact (List.subperm_of_subset (by simpa using different) inside).length_le
    have copies := congrArg List.length (echoed.symm.trans (whispered.told target online named sid))
    simp only [List.length_replicate, if_true] at copies
    by_cases self : sid = target
    · have counted := List.count_eq_one_of_mem (sessions_named_once s chat.targetName) also
      rw [if_pos self, self, counted] at copies
      omega
    · rw [if_neg self] at copies
      omega
  · have reply := whispered.refused (fun target online named => meant ⟨target, online, named⟩) sid
    rw [echoed, if_pos rfl] at reply
    have told : Message.error { errorCode := 2, message := text "Player not found" } ∈
        List.replicate ((sessionsNamed s chat.targetName).count sid + (sessionsNamed s chat.targetName).length) (chatReply s sid chat) := by
      rw [reply]
      exact List.mem_singleton_self _
    exact absurd (List.eq_of_mem_replicate told) nofun

theorem party_told_iff (channel : chat.channel = 2) :
    PartyTold s sid chat ↔ ∀ partyId, s.party.playerParty[sid]? = some partyId →
      ((s.party.membersOf partyId).filter (fun mid => s.line mid = some true)).Nodup := by
  constructor
  · intro told partyId placed
    refine List.nodup_iff_count_le_one.mpr (fun mid => ?_)
    have copies := congrArg List.length ((heard_party channel partyId placed mid).symm.trans (told.told partyId placed mid))
    rw [List.length_replicate] at copies
    rw [count_connected, copies]
    split <;> simp
  · intro once
    constructor
    · intro partyId placed other
      have counted := List.nodup_iff_count_le_one.mp (once partyId placed) other
      rw [count_connected] at counted
      rw [heard_party channel partyId placed]
      by_cases meant : other ∈ s.party.membersOf partyId ∧ s.line other = some true
      · rw [if_pos meant.2] at counted ⊢
        rw [if_pos meant, Nat.le_antisymm counted (List.count_pos_iff.mpr meant.1)]
        rfl
      · rw [if_neg meant]
        by_cases open_ : s.line other = some true
        · rw [if_pos open_, List.count_eq_zero.mpr (fun member => meant ⟨member, open_⟩)]
          rfl
        · rw [if_neg open_]
          rfl
    · intro alone other apart
      have quiet : chat.channel ≠ 0 ∧ chat.channel ≠ 1 := by
        rw [channel]
        decide
      rw [heard, onChat]
      simp only [if_neg quiet.1, if_neg quiet.2, if_pos channel, alone]
      exact (inbox_deliver s sid other _).trans (if_neg (fun both => apart both.1))

theorem private_chat_iff (sender : Online s sid)
    (apart : ∀ one other, Online s one → Online s other → (s.player one).name = (s.player other).name → one = other) :
    (chat.channel = 1 → (Whispered s sid chat ↔
        ∀ bearer ∈ s.sessions, (s.player bearer).name = chat.targetName → Online s bearer)) ∧
      (chat.channel = 2 → (PartyTold s sid chat ↔ ∀ partyId, s.party.playerParty[sid]? = some partyId →
        ((s.party.membersOf partyId).filter (fun mid => s.line mid = some true)).Nodup)) := by
  constructor
  · intro channel
    constructor
    · exact fun whispered bearer here called => online_of_whispered sender channel whispered bearer here called
    · exact whispered_of_online sender channel apart
  · exact party_told_iff

def couple : ServerState := Machine.run (step emptyData) (boot twoCharacters (fun _ => 0)) (crossedInvites.take 6)

def coupleWhisper : CsChat := { channel := 1, targetName := [66], message := [104, 105] }

theorem couple_whispers : Whispered couple 1 coupleWhisper := by
  have first : Online couple 1 := by decide +kernel
  have second : Online couple 2 := by decide +kernel
  have listed : couple.sessions.keys = [1, 2] := by decide +kernel
  have present (mid : SessionId) (here : mid ∈ couple.sessions) : mid = 1 ∨ mid = 2 := by
    have member := Std.ExtTreeMap.mem_keys.mpr here
    rw [listed] at member
    exact List.mem_pair.mp member
  have names : (couple.player 1).name ≠ (couple.player 2).name := by decide +kernel
  have apart (one other : SessionId) (online : Online couple one) (also : Online couple other)
      (same : (couple.player one).name = (couple.player other).name) : one = other := by
    rcases present one online.here with rfl | rfl
    · rcases present other also.here with rfl | rfl
      · rfl
      · exact absurd same names
    · rcases present other also.here with rfl | rfl
      · exact absurd same.symm names
      · rfl
  refine ((private_chat_iff first apart).1 (by rfl)).mpr (fun bearer here _ => ?_)
  rcases present bearer here with rfl | rfl
  · exact first
  · exact second

-- Session 3 has only connected, and session 1 whispers to nobody; with their invites
-- crossed, session 1 talks to its party.
def callsNobody : CsChat := { channel := 1, targetName := [], message := [104, 105] }

def partyCall : CsChat := { channel := 2, targetName := [], message := [104, 105] }

theorem strangers_overhear :
    let stranger := step emptyData couple ⟨.accept, [], []⟩
    let party := Machine.run (step emptyData) (boot twoCharacters (fun _ => 0)) crossedInvites
    Online stranger 1 ∧ ¬ Online stranger 3 ∧ heard stranger 1 callsNobody 3 = [chatReply stranger 1 callsNobody] ∧
      ¬ Whispered stranger 1 callsNobody ∧
        Online party 1 ∧ heard party 1 partyCall 1 = [chatReply party 1 partyCall, chatReply party 1 partyCall] ∧
          ¬ PartyTold party 1 partyCall := by
  intro stranger party
  have sender : Online stranger 1 := by decide +kernel
  have outside : ¬ Online stranger 3 := by decide +kernel
  have heardThere : heard stranger 1 callsNobody 3 = [chatReply stranger 1 callsNobody] := by decide +kernel
  have twice : heard party 1 partyCall 1 = [chatReply party 1 partyCall, chatReply party 1 partyCall] := by decide +kernel
  refine ⟨sender, outside, heardThere, fun whispered => ?_, by decide +kernel, twice, fun told => ?_⟩
  · have called : (stranger.player 3).name = callsNobody.targetName := by decide +kernel
    exact outside (online_of_whispered sender (by rfl) whispered 3 (by decide +kernel) called)
  · have placed : ∃ partyId, party.party.playerParty[(1 : SessionId)]? = some partyId :=
      Option.isSome_iff_exists.mp (by decide +kernel)
    obtain ⟨partyId, placed⟩ := placed
    have once := told.told partyId placed 1
    rw [twice] at once
    split at once <;> simp at once

end Audience

end MmorpgSimulator
