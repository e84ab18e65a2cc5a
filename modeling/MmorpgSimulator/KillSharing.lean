import MmorpgSimulator.PartyRuns

set_option autoImplicit false

namespace MmorpgSimulator

section Views

variable (s s' : ServerState)

theorem player_same (same : s'.sessions = s.sessions) (sid : SessionId) : s'.player sid = s.player sid := by
  simp only [ServerState.player, same]

theorem quest_log_same (same : s'.questProgress = s.questProgress) (sid : SessionId) : s'.questLog sid = s.questLog sid := by
  simp only [ServerState.questLog, same]

theorem player_set_self (sid : SessionId) (player : PlayerData) (here : sid ∈ s.sessions) :
    (s.setPlayer sid player).player sid = player := by
  obtain ⟨session, found⟩ := Option.isSome_iff_exists.mp (Std.ExtTreeMap.mem_iff_isSome_getElem?.mp here)
  simp [ServerState.player, ServerState.setPlayer, found]

theorem player_set_other (sid other : SessionId) (player : PlayerData) (apart : other ≠ sid) :
    (s.setPlayer sid player).player other = s.player other := by
  have differs : compare sid other ≠ .eq := fun same => apart (Std.compare_eq_iff_eq.mp same).symm
  simp only [ServerState.player, ServerState.setPlayer, Std.ExtTreeMap.getElem?_modify, if_neg differs]

theorem quest_log_set_self (sid : SessionId) (qp : QuestLog) : (s.setQuestLog sid qp).questLog sid = qp := by
  simp [ServerState.questLog, ServerState.setQuestLog]

theorem quest_log_set_other (sid other : SessionId) (qp : QuestLog) (apart : other ≠ sid) :
    (s.setQuestLog sid qp).questLog other = s.questLog other := by
  simp [ServerState.questLog, ServerState.setQuestLog, Std.ExtTreeMap.getElem?_insert, Ne.symm apart]

theorem quest_log_touch (sid other : SessionId) : (s.touchQuestLog sid).questLog other = s.questLog other := by
  simp only [ServerState.questLog, ServerState.touchQuestLog, Std.ExtTreeMap.getElem?_insertIfNew]
  split
  · rename_i new
    have absent : s.questProgress[other]? = none := by
      rw [← Std.compare_eq_iff_eq.mp new.1]
      exact Std.ExtTreeMap.getElem?_eq_none new.2
    simp [absent]
  · rfl

theorem mem_set_player (sid other : SessionId) (player : PlayerData) :
    other ∈ (s.setPlayer sid player).sessions ↔ other ∈ s.sessions :=
  Std.ExtTreeMap.mem_modify

theorem mem_in_game (sid : SessionId) : sid ∈ s.inGame ↔ (s.player sid).loggedIn = true := by
  rw [ServerState.inGame, List.mem_map, ServerState.player]
  cases found : s.sessions[sid]? with
  | none =>
      refine iff_of_false ?_ (by simp)
      rintro ⟨entry, listed, rfl⟩
      have present := Std.ExtTreeMap.mem_toList_iff_getElem?_eq_some.mp (List.mem_filter.mp listed).1
      exact absurd (found.symm.trans present) nofun
  | some session =>
      constructor
      · rintro ⟨entry, listed, rfl⟩
        obtain ⟨stored, playing⟩ := List.mem_filter.mp listed
        have present := Std.ExtTreeMap.mem_toList_iff_getElem?_eq_some.mp stored
        rw [Option.some.inj (found.symm.trans present)]
        simpa using playing
      · intro playing
        exact ⟨(sid, session), List.mem_filter.mpr ⟨Std.ExtTreeMap.mem_toList_iff_getElem?_eq_some.mpr found, by simpa using playing⟩, rfl⟩

theorem in_game_once : s.inGame.Nodup := by
  have distinct : (s.sessions.toList.map Prod.fst).Nodup := by
    rw [Std.ExtTreeMap.map_fst_toList_eq_keys]
    exact Std.ExtTreeMap.nodup_keys
  exact distinct.sublist (List.filter_sublist.map Prod.fst)

end Views

section Progression

variable (data : GameData) (sid : SessionId)

def progressedLog (qp : QuestLog) : QuestLog := qp.map (progressed data)

theorem progressed_idle (questId : UInt16) (state : QuestProgress) (idle : advances data (questId, state) = false) :
    progressed data questId state = state := by
  unfold progressed
  cases known : data.findQuest questId with
  | none => rfl
  | some quest =>
      have settled : state.status ≠ 1 := by simpa [advances, known] using idle
      exact if_pos settled

theorem update_quest_sessions (s : ServerState) (entry : UInt16 × QuestProgress) :
    (updateQuest data sid s entry).sessions = s.sessions := by
  unfold updateQuest
  split <;> rfl

theorem update_quest_other (s : ServerState) (entry : UInt16 × QuestProgress) (other : SessionId) (apart : other ≠ sid) :
    (updateQuest data sid s entry).questLog other = s.questLog other := by
  unfold updateQuest
  split
  · exact quest_log_set_other s sid other _ apart
  · rfl

theorem update_quest_self (s : ServerState) (entry : UInt16 × QuestProgress)
    (stored : (s.questLog sid)[entry.1]? = some entry.2) (questId : UInt16) :
    ((updateQuest data sid s entry).questLog sid)[questId]? =
      if entry.1 = questId then some (progressed data entry.1 entry.2) else (s.questLog sid)[questId]? := by
  unfold updateQuest
  by_cases moves : advances data entry
  · rw [if_pos moves]
    have written := quest_log_set_self s sid ((s.questLog sid).insert entry.1 (progressed data entry.1 entry.2))
    refine (congrArg (fun qp : QuestLog => qp[questId]?) written).trans ?_
    simp [Std.ExtTreeMap.getElem?_insert]
  · rw [if_neg moves]
    by_cases same : entry.1 = questId
    · rw [if_pos same, ← same, stored, progressed_idle data entry.1 entry.2 (Bool.eq_false_iff.mpr moves)]
    · rw [if_neg same]

-- Entries still to come are as they were when the loop started, their keys being distinct.
theorem update_quests_self (entries : List (UInt16 × QuestProgress)) (s : ServerState)
    (distinct : (entries.map Prod.fst).Nodup) (stored : ∀ entry ∈ entries, (s.questLog sid)[entry.1]? = some entry.2)
    (questId : UInt16) :
    ((entries.foldl (updateQuest data sid) s).questLog sid)[questId]? =
      if questId ∈ entries.map Prod.fst then ((s.questLog sid)[questId]?).map (progressed data questId)
      else (s.questLog sid)[questId]? := by
  induction entries generalizing s with
  | nil => simp
  | cons entry rest ih =>
      obtain ⟨fresh, restDistinct⟩ := List.nodup_cons.mp distinct
      have here := stored entry List.mem_cons_self
      have step := update_quest_self data sid s entry here
      have restStored : ∀ later ∈ rest, ((updateQuest data sid s entry).questLog sid)[later.1]? = some later.2 := by
        intro later member
        have apart : entry.1 ≠ later.1 := fun same => fresh (same ▸ List.mem_map_of_mem member)
        rw [step later.1, if_neg apart]
        exact stored later (List.mem_cons_of_mem entry member)
      rw [List.foldl_cons, ih (updateQuest data sid s entry) restDistinct restStored, step questId]
      by_cases same : entry.1 = questId
      · subst same
        simp [fresh, here]
      · have still : questId ∈ (entry :: rest).map Prod.fst ↔ questId ∈ rest.map Prod.fst := by
          rw [List.map_cons, List.mem_cons, or_iff_right (Ne.symm same)]
        rw [if_neg same]
        simp only [still]

theorem update_quest_progress_sessions (s : ServerState) : (updateQuestProgress data s sid).sessions = s.sessions :=
  Machine.foldl_frame (updateQuest data sid) ServerState.sessions (update_quest_sessions data sid) _ _

theorem update_quest_progress_other (s : ServerState) (other : SessionId) (apart : other ≠ sid) :
    (updateQuestProgress data s sid).questLog other = s.questLog other :=
  (Machine.foldl_frame (updateQuest data sid) (fun t => t.questLog other)
    (fun t entry => update_quest_other data sid t entry other apart) _ _).trans (quest_log_touch s sid other)

theorem update_quest_progress_self (s : ServerState) :
    (updateQuestProgress data s sid).questLog sid = progressedLog data (s.questLog sid) := by
  apply Std.ExtTreeMap.ext_getElem?
  intro questId
  have distinct : (((s.touchQuestLog sid).questLog sid).toList.map Prod.fst).Nodup := by
    rw [Std.ExtTreeMap.map_fst_toList_eq_keys]
    exact Std.ExtTreeMap.nodup_keys
  have stored : ∀ entry ∈ ((s.touchQuestLog sid).questLog sid).toList, ((s.touchQuestLog sid).questLog sid)[entry.1]? = some entry.2 :=
    fun entry member => Std.ExtTreeMap.mem_toList_iff_getElem?_eq_some.mp member
  have looped := update_quests_self data sid _ (s.touchQuestLog sid) distinct stored questId
  refine looped.trans ?_
  rw [quest_log_touch, progressedLog, Std.ExtTreeMap.getElem?_map]
  by_cases known : questId ∈ s.questLog sid
  · have listed : questId ∈ (s.questLog sid).toList.map Prod.fst := by
      rw [Std.ExtTreeMap.map_fst_toList_eq_keys]
      exact Std.ExtTreeMap.mem_keys.mpr known
    rw [if_pos listed]
  · simp [Std.ExtTreeMap.getElem?_eq_none known]

end Progression

section Credit

variable (data : GameData) (s : ServerState)

theorem check_level_up_player (sid : SessionId) (here : sid ∈ s.sessions) :
    (checkLevelUp s sid).player sid = levelled (s.player sid) :=
  player_set_self s sid _ here

theorem check_level_up_other (sid other : SessionId) (apart : other ≠ sid) :
    (checkLevelUp s sid).player other = s.player other :=
  player_set_other s sid other _ apart

theorem credit_kill_player (sid : SessionId) (exp gold : UInt32) (here : sid ∈ s.sessions) :
    (creditKill s sid exp gold).player sid = levelled (rewarded (s.player sid) exp gold) := by
  have paid := player_set_self s sid (rewarded (s.player sid) exp gold) here
  have level := check_level_up_player ((s.setPlayer sid (rewarded (s.player sid) exp gold)).send sid
    (.expUpdate { exp := (rewarded (s.player sid) exp gold).exp.toUInt32, maxExp := (rewarded (s.player sid) exp gold).maxExp }))
    sid ((mem_set_player s sid sid _).mpr here)
  exact level.trans (congrArg levelled paid)

theorem credit_kill_other (sid other : SessionId) (exp gold : UInt32) (apart : other ≠ sid) :
    (creditKill s sid exp gold).player other = s.player other := by
  have paid := player_set_other s sid other (rewarded (s.player sid) exp gold) apart
  have level := check_level_up_other ((s.setPlayer sid (rewarded (s.player sid) exp gold)).send sid
    (.expUpdate { exp := (rewarded (s.player sid) exp gold).exp.toUInt32, maxExp := (rewarded (s.player sid) exp gold).maxExp }))
    sid other apart
  exact level.trans paid

theorem credit_kill_quests (sid : SessionId) (exp gold : UInt32) :
    (creditKill s sid exp gold).questProgress = s.questProgress := rfl

theorem mem_credit_kill (sid other : SessionId) (exp gold : UInt32) :
    other ∈ (creditKill s sid exp gold).sessions ↔ other ∈ s.sessions :=
  (mem_set_player _ _ _ _).trans (mem_set_player _ _ _ _)

-- One turn of the loop over the members; the attacker's quests are left to the call after it.
structure Credited (exp gold : UInt32) (sid : SessionId) (mid : SessionId) (s s' : ServerState) : Prop where
  online : ∀ other, other ∈ s'.sessions ↔ other ∈ s.sessions
  paid : s'.player mid = levelled (rewarded (s.player mid) exp gold)
  others : ∀ other, other ≠ mid → s'.player other = s.player other
  quests : s'.questLog mid = if mid = sid then s.questLog mid else progressedLog data (s.questLog mid)
  otherQuests : ∀ other, other ≠ mid → s'.questLog other = s.questLog other

theorem credit_member_credited (sid mid : SessionId) (exp gold : UInt32) (here : mid ∈ s.sessions) :
    Credited data exp gold sid mid s (creditMember data sid exp gold s mid) := by
  have present : ¬ mid ∉ s.sessions := not_not.mpr here
  have log (other : SessionId) := quest_log_same s _ (credit_kill_quests s mid exp gold) other
  unfold creditMember
  rw [if_neg present]
  simp only
  by_cases attacker : mid = sid
  · have alone : ¬ mid ≠ sid := not_not.mpr attacker
    rw [if_neg alone]
    refine ⟨fun other => mem_credit_kill s mid other exp gold, credit_kill_player s mid exp gold here,
      fun other apart => credit_kill_other s mid other exp gold apart, ?_, fun other _ => log other⟩
    rw [if_pos attacker]
    exact log mid
  · rw [if_pos attacker]
    have same := update_quest_progress_sessions data mid (creditKill s mid exp gold)
    refine ⟨fun other => ?_, ?_, fun other apart => ?_, ?_, fun other apart => ?_⟩
    · rw [same]
      exact mem_credit_kill s mid other exp gold
    · exact (player_same _ _ same mid).trans (credit_kill_player s mid exp gold here)
    · exact (player_same _ _ same other).trans (credit_kill_other s mid other exp gold apart)
    · rw [if_neg attacker, update_quest_progress_self, log mid]
    · exact (update_quest_progress_other data mid _ other apart).trans (log other)

structure Shared (exp gold : UInt32) (sid : SessionId) (members : List SessionId) (s s' : ServerState) : Prop where
  online : ∀ other, other ∈ s'.sessions ↔ other ∈ s.sessions
  paid : ∀ mid ∈ members, s'.player mid = levelled (rewarded (s.player mid) exp gold)
  others : ∀ other, other ∉ members → s'.player other = s.player other
  quests : ∀ mid ∈ members, mid ≠ sid → s'.questLog mid = progressedLog data (s.questLog mid)
  otherQuests : ∀ other, (other ∈ members → other = sid) → s'.questLog other = s.questLog other

theorem credit_members_shared (sid : SessionId) (exp gold : UInt32) (members : List SessionId) (s : ServerState)
    (once : members.Nodup) (here : ∀ mid ∈ members, mid ∈ s.sessions) :
    Shared data exp gold sid members s (members.foldl (creditMember data sid exp gold) s) := by
  induction members generalizing s with
  | nil => exact ⟨fun _ => Iff.rfl, nofun, fun _ _ => rfl, nofun, fun _ _ => rfl⟩
  | cons first rest ih =>
      obtain ⟨fresh, restOnce⟩ := List.nodup_cons.mp once
      have turn := credit_member_credited data s sid first exp gold (here first List.mem_cons_self)
      have later := ih (creditMember data sid exp gold s first) restOnce
        (fun mid member => (turn.online mid).mpr (here mid (List.mem_cons_of_mem first member)))
      rw [List.foldl_cons]
      refine ⟨fun other => (later.online other).trans (turn.online other), ?_, ?_, ?_, ?_⟩
      · intro mid member
        rcases List.mem_cons.mp member with same | tail
        · rw [same, later.others first fresh]
          exact turn.paid
        · have apart : mid ≠ first := fun same => fresh (same ▸ tail)
          rw [later.paid mid tail, turn.others mid apart]
      · intro other absent
        obtain ⟨apart, missing⟩ := not_or.mp (fun listed => absent (List.mem_cons.mpr listed))
        rw [later.others other missing, turn.others other apart]
      · intro mid member away
        rcases List.mem_cons.mp member with same | tail
        · rw [later.otherQuests mid (fun listed => absurd (same ▸ listed) fresh), same, turn.quests, if_neg (same ▸ away)]
        · have apart : mid ≠ first := fun same => fresh (same ▸ tail)
          rw [later.quests mid tail away, turn.otherQuests mid apart]
      · intro other only
        rw [later.otherQuests other (fun listed => only (List.mem_cons_of_mem first listed))]
        by_cases same : other = first
        · rw [same, turn.quests, if_pos (same ▸ only (same ▸ List.mem_cons_self))]
        · exact turn.otherQuests other same

end Credit

section Loot

variable (data : GameData) (s : ServerState)

theorem give_item_sessions (sid : SessionId) (itemId : UInt16) : (giveItem data s sid itemId).sessions = s.sessions := by
  unfold giveItem
  simp only
  split
  · rfl
  · split <;> rfl

theorem give_item_quests (sid : SessionId) (itemId : UInt16) : (giveItem data s sid itemId).questProgress = s.questProgress := by
  unfold giveItem
  simp only
  split
  · rfl
  · split <;> rfl

theorem drop_item_sessions (sid : SessionId) : (dropItem data s sid).sessions = s.sessions := by
  have drawn : (rollDrop data s).1.sessions = s.sessions := by
    unfold rollDrop
    split <;> rfl
  unfold dropItem
  simp only
  split
  · rw [give_item_sessions, drawn]
  · exact drawn

theorem drop_item_quests (sid : SessionId) : (dropItem data s sid).questProgress = s.questProgress := by
  have drawn : (rollDrop data s).1.questProgress = s.questProgress := by
    unfold rollDrop
    split <;> rfl
  unfold dropItem
  simp only
  split
  · rw [give_item_quests, drawn]
  · exact drawn

theorem respawn_sessions : (respawn s).sessions = s.sessions := by
  unfold respawn
  split <;> rfl

theorem respawn_quests : (respawn s).questProgress = s.questProgress := by
  unfold respawn
  split <;> rfl

end Loot

section Kills

variable (data : GameData)

def shareOf (reward : UInt32) (count : Nat) : UInt32 := UInt32.ofNat (reward.toNat / count)

-- The cast to uint32_t and the division agree with the floor for any list of distinct ids.
theorem share_of_divides (reward : UInt32) (members : List SessionId) (once : members.Nodup) (occupied : members ≠ []) :
    reward / UInt32.ofNat members.length = shareOf reward members.toFinset.card := by
  have count : members.toFinset.card = members.length := List.toFinset_card_of_nodup once
  have positive : 0 < members.length := List.length_pos_iff.mpr occupied
  have bound : members.length ≤ 2 ^ 32 := by
    have most := Finset.card_le_card_of_injOn UInt32.toNat (s := members.toFinset) (t := Finset.range (2 ^ 32))
      (fun mid _ => Finset.mem_coe.mpr (Finset.mem_range.mpr mid.toNat_lt)) (fun _ _ _ _ same => UInt32.toNat_inj.mp same)
    rwa [count, Finset.card_range] at most
  have small := reward.toNat_lt
  rw [shareOf, count, ← UInt32.toNat_inj, UInt32.toNat_div, UInt32.toNat_ofNat', UInt32.toNat_ofNat']
  have quotient : reward.toNat / members.length < 2 ^ 32 := lt_of_le_of_lt (Nat.div_le_self _ _) small
  rw [Nat.mod_eq_of_lt quotient]
  rcases Nat.lt_or_eq_of_le bound with fits | wraps
  · rw [Nat.mod_eq_of_lt fits]
  · rw [wraps, Nat.mod_self, Nat.div_zero, Nat.div_eq_of_lt small]

theorem share_of_total (reward : UInt32) (count : Nat) : count * (shareOf reward count).toNat ≤ reward.toNat := by
  have quotient : reward.toNat / count < 2 ^ 32 := lt_of_le_of_lt (Nat.div_le_self _ _) reward.toNat_lt
  rw [shareOf, UInt32.toNat_ofNat', Nat.mod_eq_of_lt quotient]
  exact Nat.mul_div_le _ _

-- What one kill by a party owes to whom, the members counted once each.
structure FairKill (npc : Npc) (members : List SessionId) (s s' : ServerState) : Prop where
  paid : ∀ mid ∈ members, s'.player mid = levelled (rewarded (s.player mid)
    (shareOf npc.expReward members.toFinset.card) (shareOf npc.goldReward members.toFinset.card))
  quests : ∀ mid ∈ members, s'.questLog mid = progressedLog data (s.questLog mid)
  outsiders : ∀ other, other ∉ members → s'.player other = s.player other ∧ s'.questLog other = s.questLog other
  expTotal : members.toFinset.card * (shareOf npc.expReward members.toFinset.card).toNat ≤ npc.expReward.toNat
  goldTotal : members.toFinset.card * (shareOf npc.goldReward members.toFinset.card).toNat ≤ npc.goldReward.toNat

theorem share_kill_shared (s : ServerState) (sid : SessionId) (npc : Npc) (partyId : UInt32)
    (placed : s.party.playerParty[sid]? = some partyId) (present : partyId ∈ s.party.parties)
    (once : (s.party.membersOf partyId).Nodup) (occupied : s.party.membersOf partyId ≠ [])
    (here : ∀ mid ∈ s.party.membersOf partyId, mid ∈ s.sessions) :
    Shared data (shareOf npc.expReward (s.party.membersOf partyId).toFinset.card)
      (shareOf npc.goldReward (s.party.membersOf partyId).toFinset.card) sid (s.party.membersOf partyId) s
      (shareKill data s sid npc) := by
  unfold shareKill
  rw [placed]
  simp only
  rw [touch_party_present s partyId present, share_of_divides _ _ once occupied, share_of_divides _ _ once occupied]
  -- A raised fault is no part of what is shared.
  have shared (divided : Bool) (exp gold : UInt32) :=
    credit_members_shared data sid exp gold (s.party.membersOf partyId) (s.fail divided .divideByZero) once here
  exact ⟨(shared _ _ _).online, (shared _ _ _).paid, (shared _ _ _).others, (shared _ _ _).quests, (shared _ _ _).otherQuests⟩

theorem kill_npc_fair (s : ServerState) (sid : SessionId) (index : Fin maxNpc) (partyId : UInt32)
    (placed : s.party.playerParty[sid]? = some partyId) (present : partyId ∈ s.party.parties)
    (once : (s.party.membersOf partyId).Nodup) (member : sid ∈ s.party.membersOf partyId)
    (here : ∀ mid ∈ s.party.membersOf partyId, mid ∈ s.sessions) :
    FairKill data (getElem s.npcs index index.isLt) (s.party.membersOf partyId) s (killNpc data s sid index) := by
  have shared := share_kill_shared data (announceDeath s index) sid s.npcs[index] partyId placed present once
    (List.ne_nil_of_mem member) here
  unfold killNpc
  simp only
  generalize shareKill data (announceDeath s index) sid s.npcs[index] = after at shared ⊢
  -- The drop and the respawn touch neither players nor quest logs.
  have players (other : SessionId) : (respawn (dropItem data (updateQuestProgress data after sid) sid)).player other =
      after.player other := by
    apply player_same
    rw [respawn_sessions, drop_item_sessions, update_quest_progress_sessions]
  have logs (other : SessionId) : (respawn (dropItem data (updateQuestProgress data after sid) sid)).questLog other =
      (updateQuestProgress data after sid).questLog other := by
    apply quest_log_same
    rw [respawn_quests, drop_item_quests]
  refine ⟨?_, ?_, ?_, share_of_total _ _, share_of_total _ _⟩
  · intro mid listed
    rw [players mid]
    exact shared.paid mid listed
  · intro mid listed
    rw [logs mid]
    by_cases attacker : mid = sid
    · rw [attacker, update_quest_progress_self, shared.otherQuests sid (fun _ => rfl)]
      rfl
    · rw [update_quest_progress_other data sid after mid attacker]
      exact shared.quests mid listed attacker
  · intro other outside
    have apart : other ≠ sid := fun same => outside (same ▸ member)
    rw [players other, logs other, update_quest_progress_other data sid after other apart]
    exact ⟨shared.others other outside, shared.otherQuests other (fun listed => absurd listed outside)⟩

theorem on_attack_kills (s : ServerState) (sid : SessionId) (atk : CsAttack) (index : Fin maxNpc)
    (target : findTarget s (s.player sid) atk.targetUid = some index) (dies : (struck (s.player sid) (getElem s.npcs index index.isLt)).hp = 0) :
    onAttack data s sid atk = killNpc data (strike s sid index) sid index := by
  unfold onAttack
  simp only [target]
  exact if_pos dies

theorem strike_npc (s : ServerState) (sid : SessionId) (index : Fin maxNpc) :
    getElem (strike s sid index).npcs index index.isLt = struck (s.player sid) (getElem s.npcs index index.isLt) := by
  show (s.npcs.set index (struck (s.player sid) s.npcs[index]))[index] = struck (s.player sid) s.npcs[index]
  simp

def SharesKills (s : ServerState) : Prop :=
  ∀ (sid : SessionId) (atk : CsAttack) (index : Fin maxNpc) (partyId : UInt32) (rolls : List Nat) (dbPlan : List DbOutcome),
    s.fault = none → sid ∈ s.sessions → s.party.playerParty[sid]? = some partyId →
      findTarget s (s.player sid) atk.targetUid = some index → (struck (s.player sid) (getElem s.npcs index index.isLt)).hp = 0 →
        FairKill data (getElem s.npcs index index.isLt) (s.party.membersOf partyId) s (step data s ⟨.packet sid (.attack atk), rolls, dbPlan⟩)

theorem exclusive_shares_kills (s : ServerState) (valid : PartyInvariant s) (exclusive : s.party.Exclusive) :
    SharesKills data s := by
  intro sid atk index partyId rolls dbPlan alive here placed target dies
  obtain ⟨found, present, member⟩ := valid.indexed sid partyId placed
  have members := PartyState.members_of_found s.party partyId found present
  have alone := (PartyState.exclusive_iff s.party).mp exclusive partyId found present
  have online : ∀ mid ∈ s.party.membersOf partyId, mid ∈ s.sessions := by
    intro mid listed
    rw [members] at listed
    exact valid.attended mid (Std.ExtTreeMap.mem_iff_isSome_getElem?.mpr (by simp [alone.2 mid listed]))
  rw [step_alive data s _ alive]
  simp only
  rw [handle_event_here data (facing s _) sid _ here]
  have killed := on_attack_kills data (facing s ⟨.packet sid (.attack atk), rolls, dbPlan⟩) sid atk index target dies
  have fair := kill_npc_fair data (strike (facing s ⟨.packet sid (.attack atk), rolls, dbPlan⟩) sid index) sid index partyId
    placed (indexed_present s.party valid.indexed sid partyId placed) (members ▸ alone.1) (members ▸ member) online
  -- The blow changes the NPC's health, not its rewards.
  rw [strike_npc, ← killed] at fair
  exact ⟨fair.paid, fair.quests, fair.outsiders, fair.expTotal, fair.goldTotal⟩

theorem kills_shared_fairly (db : Database) (draw : Nat → Nat) (inputs : List Input)
    (unplaced : Machine.Guarded (step data) acceptsUnplaced (boot db draw) inputs) :
    SharesKills data (Machine.run (step data) (boot db draw) inputs) := by
  have unique := (membership_unique_iff data db draw inputs).mpr unplaced
  rw [← List.append_nil inputs] at unique
  exact exclusive_shares_kills data _ (run_party_invariant data db draw inputs)
    (Machine.throughout_run (step data) _ (boot db draw) inputs [] unique)

def pairedHunt : List Input :=
  crossedInvites.take 7 ++ [⟨.packet 2 (.partyAccept ⟨1⟩), [], []⟩, ⟨.packet 1 (.attack ⟨1⟩), [], []⟩, ⟨.packet 2 (.attack ⟨1⟩), [], []⟩]

theorem paired_hunt_shares_kills :
    SharesKills emptyData (Machine.run (step emptyData) (boot twoCharacters (fun _ => 5)) pairedHunt) :=
  kills_shared_fairly emptyData twoCharacters (fun _ => 5) pairedHunt (by decide +kernel)

def crossedHunt : List Input := crossedInvites ++ [⟨.packet 2 (.attack ⟨1⟩), [], []⟩, ⟨.packet 2 (.attack ⟨1⟩), [], []⟩]

theorem crossed_hunt_unfair :
    ¬ SharesKills emptyData (Machine.run (step emptyData) (boot twoCharacters (fun _ => 5)) crossedHunt) := by
  intro shares
  have fair := shares 2 ⟨1⟩ ⟨0, by decide⟩ 1 [] [] (by decide +kernel) (by decide +kernel) (by decide +kernel) (by decide +kernel) (by decide +kernel)
  have paid := congrArg PlayerData.gold (fair.paid 2 (by decide +kernel))
  revert paid
  decide +kernel

end Kills

end MmorpgSimulator
