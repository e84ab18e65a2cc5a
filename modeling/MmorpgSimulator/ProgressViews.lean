import MmorpgSimulator.KillViews
import MmorpgSimulator.Progression

set_option autoImplicit false

namespace MmorpgSimulator

abbrev Standing := UInt16 × UInt64 × UInt32 × UInt16 × UInt16

def shownStanding (client : Client) : Standing :=
  (client.myPlayer.level, client.myPlayer.exp.toUInt64, client.myPlayer.maxExp, client.myPlayer.hp, client.myPlayer.maxHp)

def standingOf (player : PlayerData) : Standing := (player.level, player.exp, player.maxExp, player.hp, player.maxHp)

section Messages

theorem standing_aloof : Aloof shownStanding where
  blow := by
    intro result client
    by_cases hit : result.success ≠ 0
    · simp [Client.receive, Client.onAttackResult, hit, shownStanding]
    · simp [Client.receive, Client.onAttackResult, hit]
  spawn := fun _ _ => rfl
  drop := fun _ _ => rfl
  progress := fun _ _ => rfl

theorem reward_hushed (reward : ScQuestReward) : Hushed shownStanding (.questReward reward) := by
  intro client
  by_cases paid : reward.success ≠ 0
  · simp [Client.receive, Client.onQuestRewardResult, paid, shownStanding]
  · simp [Client.receive, Client.onQuestRewardResult, paid]

theorem exp_fits (exp : UInt64) (maxExp : UInt32) (below : exp.toNat < maxExp.toNat) : exp.toUInt32.toUInt64 = exp := by
  have bound := maxExp.toNat_lt
  rw [← UInt64.toNat_inj, UInt32.toNat_toUInt64, UInt64.toNat_toUInt32]
  omega

theorem exp_update_shows (client : Client) (old new : PlayerData) (same : shownStanding client = standingOf old)
    (paid : new = { old with exp := new.exp, gold := new.gold }) (below : new.exp.toNat < new.maxExp.toNat) :
    shownStanding (client.receive (.expUpdate { exp := new.exp.toUInt32, maxExp := new.maxExp })) = standingOf new := by
  have fits := exp_fits new.exp new.maxExp below
  rw [paid] at fits ⊢
  simp only [shownStanding, standingOf, Prod.mk.injEq] at same ⊢
  exact ⟨same.1, fits, rfl, same.2.2.2⟩

theorem char_info_repeats (client : Client) (player : PlayerData) (same : shownStanding client = standingOf player) :
    shownStanding (client.receive (.charInfo
      { charUid := player.accountUid, level := player.level, exp := player.exp.toUInt32, posX := player.posX, posY := player.posY,
        hp := player.hp, maxHp := player.maxHp, gold := player.gold })) = standingOf player := by
  simp only [shownStanding, standingOf, Prod.mk.injEq] at same
  have exp : player.exp.toUInt32.toUInt64 = player.exp := by rw [← same.2.1, UInt32.toUInt32_toUInt64]
  simp only [Client.receive, Client.onCharInfo]
  split
  · simp only [shownStanding, Client.shownPlayer, standingOf, exp, same.2.2.1]
  · split
    · simp only [shownStanding, Client.shownPlayer, standingOf, exp, same.2.2.1]
    · simp only [shownStanding, standingOf, Prod.mk.injEq]
      exact same

end Messages

section Tracking

variable (data : GameData) (clients : SessionId → Client) (sid : SessionId)

def Tracks (s : ServerState) : Prop := shownStanding (shown clients s sid) = standingOf (s.player sid)

variable {clients sid} {s t : ServerState}

theorem Tracks.unseen (tracks : Tracks clients sid s) (quiet : Unseen shownStanding clients sid s t)
    (same : t.player sid = s.player sid) : Tracks clients sid t := by
  rw [Tracks, quiet, same]
  exact tracks

theorem elsewhere_unseen {View : Type} {view : Client → View} (extra : List (SessionId × Message))
    (elsewhere : ∀ entry ∈ extra, entry.1 ≠ sid) (sent : t.sent = s.sent ++ extra) : Unseen view clients sid s t :=
  unseen_sends extra (fun _ member => absurd rfl (elsewhere _ member)) sent

theorem deliver_to (s : ServerState) (receiver : SessionId) (message : Message) (entry : SessionId × Message)
    (member : entry ∈ s.deliver receiver message) : entry.1 = receiver := by
  rw [deliver_line] at member
  split at member
  · exact congrArg Prod.fst (List.mem_singleton.mp member)
  · exact absurd member List.not_mem_nil

theorem send_unseen {View : Type} {view : Client → View} (receiver : SessionId) (message : Message) (apart : sid ≠ receiver) :
    Unseen view clients sid s (s.send receiver message) :=
  elsewhere_unseen (s.deliver receiver message) (fun entry member => deliver_to s receiver message entry member ▸ apart.symm) rfl

theorem check_level_up_unseen {View : Type} {view : Client → View} (receiver : SessionId) (apart : sid ≠ receiver) :
    Unseen view clients sid s (checkLevelUp s receiver) := by
  refine elsewhere_unseen (((levelUps (s.player receiver)).2.map Message.levelUp).flatMap
    ((s.setPlayer receiver (levelUps (s.player receiver)).1).deliver receiver)) (fun entry member => ?_) rfl
  obtain ⟨message, _, delivered⟩ := List.mem_flatMap.mp member
  rw [deliver_to _ receiver message entry delivered]
  exact apart.symm

variable (clients) in
theorem shown_send (message : Message) (open_ : s.line sid = some true) :
    shown clients (s.send sid message) sid = (shown clients s sid).receive message := by
  rw [shown_sends clients sid s (s.send sid message) _ rfl, inbox_deliver, if_pos ⟨rfl, open_⟩]
  rfl

theorem level_ups_settled (player : PlayerData) (below : player.exp.toNat < player.maxExp.toNat) : levelUps player = (player, []) := by
  have rests : ¬ levelDue player := fun due => absurd ((level_due_iff player).mp due) (Nat.not_le.mpr below)
  rw [levelUps, dif_neg rests]

theorem check_level_up_settled (s : ServerState) (sid : SessionId) (below : (s.player sid).exp.toNat < (s.player sid).maxExp.toNat) :
    checkLevelUp s sid = s.setPlayer sid (s.player sid) := by
  rw [checkLevelUp, level_ups_settled _ below]
  simp [ServerState.sendAll, ServerState.setPlayer]

theorem rewarded_exp (player : PlayerData) (exp gold : UInt32) (below : player.exp.toNat + exp.toNat < player.maxExp.toNat) :
    (rewarded player exp gold).exp.toNat = player.exp.toNat + exp.toNat := by
  have bound := player.maxExp.toNat_lt
  rw [rewarded, UInt64.toNat_add, UInt32.toNat_toUInt64]
  omega

theorem credit_kill_tracks (tracks : Tracks clients sid s) (here : sid ∈ s.sessions) (open_ : s.line sid = some true) (exp gold : UInt32)
    (below : (s.player sid).exp.toNat + exp.toNat < (s.player sid).maxExp.toNat) :
    Tracks clients sid (creditKill s sid exp gold) ∧
      (creditKill s sid exp gold).player sid = rewarded (s.player sid) exp gold := by
  have paid : ((s.setPlayer sid (rewarded (s.player sid) exp gold))).player sid = rewarded (s.player sid) exp gold :=
    player_set_self s sid _ here
  have total := rewarded_exp (s.player sid) exp gold below
  have settled : (rewarded (s.player sid) exp gold).exp.toNat < (rewarded (s.player sid) exp gold).maxExp.toNat := by
    rw [total]
    exact below
  have after : (creditKill s sid exp gold).player sid = rewarded (s.player sid) exp gold := by
    rw [credit_kill_player s sid exp gold here, levelled, level_ups_settled _ settled]
  refine ⟨?_, after⟩
  have level : creditKill s sid exp gold = checkLevelUp ((s.setPlayer sid (rewarded (s.player sid) exp gold)).send sid
      (.expUpdate { exp := (rewarded (s.player sid) exp gold).exp.toUInt32, maxExp := (rewarded (s.player sid) exp gold).maxExp })) sid := rfl
  have told := shown_send clients (.expUpdate
    { exp := (rewarded (s.player sid) exp gold).exp.toUInt32, maxExp := (rewarded (s.player sid) exp gold).maxExp })
    ((line_set_player s sid sid (rewarded (s.player sid) exp gold)).trans open_)
  have last := check_level_up_settled ((s.setPlayer sid (rewarded (s.player sid) exp gold)).send sid
    (.expUpdate { exp := (rewarded (s.player sid) exp gold).exp.toUInt32, maxExp := (rewarded (s.player sid) exp gold).maxExp })) sid
    (by rw [show ((s.setPlayer sid (rewarded (s.player sid) exp gold)).send sid _).player sid = _ from paid]; exact settled)
  rw [Tracks, after, level, last]
  exact (congrArg shownStanding told).trans (exp_update_shows _ (s.player sid) _ tracks rfl settled)

theorem credit_kill_other_tracks (tracks : Tracks clients sid s) (mid : SessionId) (apart : sid ≠ mid) (exp gold : UInt32) :
    Tracks clients sid (creditKill s mid exp gold) := by
  have paid : Unseen shownStanding clients sid s (s.setPlayer mid (rewarded (s.player mid) exp gold)) := unseen_same rfl
  have told := paid.trans (send_unseen mid (.expUpdate
    { exp := (rewarded (s.player mid) exp gold).exp.toUInt32, maxExp := (rewarded (s.player mid) exp gold).maxExp }) apart)
  exact tracks.unseen (told.trans (check_level_up_unseen mid apart)) (credit_kill_other s mid sid exp gold apart)

theorem credit_member_tracks (killer mid : SessionId) (exp gold : UInt32) (tracks : Tracks clients sid s) (here : sid ∈ s.sessions)
    (open_ : s.line sid = some true)
    (below : mid = sid → (s.player sid).exp.toNat + exp.toNat < (s.player sid).maxExp.toNat) :
    Tracks clients sid (creditMember data killer exp gold s mid) ∧
      (creditMember data killer exp gold s mid).player sid =
        if mid = sid then rewarded (s.player sid) exp gold else s.player sid := by
  have credited : Tracks clients sid (creditKill s mid exp gold) ∧
      (creditKill s mid exp gold).player sid = if mid = sid then rewarded (s.player sid) exp gold else s.player sid := by
    by_cases own : mid = sid
    · subst own
      rw [if_pos rfl]
      exact credit_kill_tracks tracks here open_ exp gold (below rfl)
    · rw [if_neg own]
      exact ⟨credit_kill_other_tracks tracks mid (Ne.symm own) exp gold, credit_kill_other s mid sid exp gold (Ne.symm own)⟩
  rw [creditMember]
  by_cases present : mid ∈ s.sessions
  · rw [if_neg (not_not.mpr present)]
    simp only
    split
    · have same := player_same _ _ (update_quest_progress_sessions data mid (creditKill s mid exp gold)) sid
      exact ⟨credited.1.unseen (update_quest_progress_unseen data standing_aloof mid _) same, same.trans credited.2⟩
    · exact credited
  · have other : mid ≠ sid := fun same => present (same ▸ here)
    rw [if_pos present, if_neg other]
    exact ⟨tracks, rfl⟩

theorem credit_members_tracks (killer : SessionId) (exp gold : UInt32) (members : List SessionId) (s : ServerState)
    (tracks : Tracks clients sid s) (here : sid ∈ s.sessions) (open_ : s.line sid = some true)
    (below : sid ∈ members → (s.player sid).exp.toNat + members.count sid * exp.toNat < (s.player sid).maxExp.toNat) :
    Tracks clients sid (members.foldl (creditMember data killer exp gold) s) := by
  induction members generalizing s with
  | nil => exact tracks
  | cons first rest ih =>
      have lines := (credit_member_becomes data s killer exp gold first (Becomes.start s)).lines sid
      have still : (creditMember data killer exp gold s first).line sid = some true := lines.trans open_
      have present : sid ∈ (creditMember data killer exp gold s first).sessions := (mem_line _ sid).mpr (by rw [still]; rfl)
      have first_ : first = sid → (s.player sid).exp.toNat + exp.toNat < (s.player sid).maxExp.toNat := by
        rintro rfl
        have total := below List.mem_cons_self
        rw [List.count_cons_self, Nat.succ_mul] at total
        omega
      obtain ⟨told, player⟩ := credit_member_tracks data killer first exp gold tracks here open_ first_
      rw [List.foldl_cons]
      refine ih _ told present still (fun listed => ?_)
      have total := below (List.mem_cons_of_mem first listed)
      rw [player]
      by_cases own : first = sid
      · rw [if_pos own, rewarded_exp (s.player sid) exp gold (first_ own)]
        rw [own, List.count_cons_self, Nat.succ_mul] at total
        show _ < (s.player sid).maxExp.toNat
        omega
      · rw [if_neg own]
        rwa [List.count_cons_of_ne own] at total

def killExp (s : ServerState) (killer other : SessionId) (npc : Npc) : Option Nat :=
  match s.party.playerParty[killer]? with
  | some partyId =>
      if other ∈ s.party.membersOf partyId then
        some ((s.party.membersOf partyId).count other * (npc.expReward / UInt32.ofNat (s.party.membersOf partyId).length).toNat)
      else none
  | none => if other = killer then some npc.expReward.toNat else none

theorem share_kill_tracks (killer : SessionId) (npc : Npc) (tracks : Tracks clients sid s) (here : sid ∈ s.sessions)
    (open_ : s.line sid = some true)
    (below : ∀ gain ∈ killExp s killer sid npc, (s.player sid).exp.toNat + gain < (s.player sid).maxExp.toNat) :
    Tracks clients sid (shareKill data s killer npc) := by
  rw [killExp] at below
  rw [shareKill]
  cases placed : s.party.playerParty[killer]? with
  | none =>
      rw [placed] at below
      by_cases own : sid = killer
      · subst own
        exact (credit_kill_tracks tracks here open_ _ _ (below _ (by simp))).1
      · exact credit_kill_other_tracks tracks killer own _ _
  | some partyId =>
      rw [placed] at below
      simp only at below ⊢
      rw [members_touch]
      exact credit_members_tracks data killer _ _ _ _ tracks here open_ (fun listed => below _ (by simp [listed]))

theorem kill_npc_tracks (killer : SessionId) (index : Fin maxNpc) (tracks : Tracks clients sid s) (here : sid ∈ s.sessions)
    (open_ : s.line sid = some true)
    (below : ∀ gain ∈ killExp s killer sid (getElem s.npcs index index.isLt), (s.player sid).exp.toNat + gain < (s.player sid).maxExp.toNat) :
    Tracks clients sid (killNpc data s killer index) := by
  have announced : Tracks clients sid (announceDeath s index) :=
    tracks.unseen ((unseen_same (by rfl)).broadcast _ (fun _ => rfl)) rfl
  have shared := share_kill_tracks data killer s.npcs[index] announced here open_ below
  have quests := shared.unseen (update_quest_progress_unseen data standing_aloof killer _)
    (player_same _ _ (update_quest_progress_sessions data killer _) sid)
  have dropped := quests.unseen (drop_item_unseen data standing_aloof killer _) (player_same _ _ (drop_item_sessions data _ killer) sid)
  exact dropped.unseen (respawn_unseen standing_aloof _) (player_same _ _ (respawn_sessions _) sid)

theorem on_attack_tracks (killer : SessionId) (atk : CsAttack) (tracks : Tracks clients sid s) (here : sid ∈ s.sessions)
    (open_ : s.line sid = some true)
    (below : ∀ npc ∈ slain s killer atk, ∀ gain ∈ killExp s killer sid npc,
      (s.player sid).exp.toNat + gain < (s.player sid).maxExp.toNat) :
    Tracks clients sid (onAttack data s killer atk) := by
  have blow (index : Fin maxNpc) : Tracks clients sid (strike s killer index) := tracks.unseen (strike_unseen standing_aloof killer index s) rfl
  cases slew : slain s killer atk with
  | none =>
      rcases slain_none data s killer atk slew with missed | ⟨index, hit⟩
      · rw [missed]
        exact tracks.unseen ((unseen_same rfl).send killer _ (standing_aloof.blow _)) rfl
      · rw [hit]
        exact blow index
  | some npc =>
      obtain ⟨index, target, dies, rfl⟩ := slain_some s killer atk npc slew
      rw [on_attack_kills data s killer atk index target dies]
      refine kill_npc_tracks data killer index (blow index) here open_ ?_
      rw [strike_npc]
      exact fun gain listed => below s.npcs[index] slew gain listed

end Tracking

section Completion

variable (data : GameData) (s : ServerState) (sid : SessionId) (req : CsQuestComplete)

theorem on_quest_complete_refused (open_ : completed data s sid req.questId = none) :
    ∃ (t : ServerState) (reward : ScQuestReward), t.sessions = s.sessions ∧ t.sent = s.sent ∧ onQuestComplete data s sid req = t.send sid (.questReward reward) := by
  rw [onQuestComplete]
  by_cases near : isNearQuestNpc (s.player sid) = true
  · rw [if_neg (by simp [near])]
    cases known : data.findQuest req.questId with
    | none => exact ⟨s, _, rfl, rfl, rfl⟩
    | some quest =>
        simp only [quest_log_touch]
        cases accepted : (s.questLog sid)[req.questId]? with
        | none => exact ⟨s.touchQuestLog sid, _, rfl, rfl, rfl⟩
        | some state =>
            have unready : state.status ≠ 2 := by
              intro ready
              have done := (completed_iff data s sid req.questId quest).mpr ⟨near, known, state, accepted, ready⟩
              exact absurd (done.symm.trans open_) (by simp)
            simp only [if_pos unready]
            exact ⟨s.touchQuestLog sid, _, rfl, rfl, rfl⟩
  · rw [if_pos (by simpa using near)]
    exact ⟨s, _, rfl, rfl, rfl⟩

def reported (t : ServerState) (reward : ScQuestReward) : ServerState :=
  (sendCharInfo (checkLevelUp (t.send sid (.expUpdate { exp := (t.player sid).exp.toUInt32, maxExp := (t.player sid).maxExp })) sid)
    sid).send sid (.questReward reward)

def questPaid (t : ServerState) (quest : QuestData) : ServerState :=
  let t := t.setPlayer sid (payQuest (t.player sid) quest)
  if quest.rewardItemId > 0 then giveItem data t sid quest.rewardItemId else t

theorem quest_paid_sessions (t : ServerState) (quest : QuestData) (same : t.sessions = s.sessions) :
    (questPaid data sid t quest).sessions = (s.setPlayer sid (payQuest (s.player sid) quest)).sessions := by
  have paid : (t.setPlayer sid (payQuest (t.player sid) quest)).sessions = (s.setPlayer sid (payQuest (s.player sid) quest)).sessions := by
    rw [player_same s t same sid]
    simp only [ServerState.setPlayer, same]
  rw [questPaid]
  split
  · exact (give_item_sessions data _ sid _).trans paid
  · exact paid

theorem quest_paid_unseen {View : Type} {view : Client → View} (clients : SessionId → Client) (other : SessionId) (aloof : Aloof view)
    (t : ServerState) (quest : QuestData) : Unseen view clients other t (questPaid data sid t quest) := by
  have paid : Unseen view clients other t (t.setPlayer sid (payQuest (t.player sid) quest)) := unseen_same rfl
  rw [questPaid]
  split
  · exact paid.trans (give_item_unseen data aloof sid _ _)
  · exact paid

theorem on_quest_complete_done (quest : QuestData) (done : completed data s sid req.questId = some quest) :
    ∃ (t : ServerState) (reward : ScQuestReward), t.sessions = s.sessions ∧ t.sent = s.sent ∧
      onQuestComplete data s sid req = reported sid (questPaid data sid t quest) reward := by
  obtain ⟨near, known, state, accepted, ready⟩ := (completed_iff data s sid req.questId quest).mp done
  refine ⟨saveQuestProgress ((s.touchQuestLog sid).setQuestLog sid ((s.questLog sid).insert req.questId { state with status := 3 }))
    (s.player sid).charUid req.questId { state with status := 3 },
    { success := 1, questId := req.questId, rewardGold := quest.rewardGold, rewardExp := quest.rewardExp,
      rewardItemId := quest.rewardItemId, message := text "Quest completed!" }, rfl, rfl, ?_⟩
  rw [onQuestComplete, if_neg (by simp [near]), known]
  simp only [quest_log_touch, accepted, ready]
  rfl

theorem line_same (t : ServerState) (same : t.sessions = s.sessions) (other : SessionId) : t.line other = s.line other :=
  congrArg (fun stored => (stored[other]?).map Session.connected) same

theorem reported_line (t : ServerState) (reward : ScQuestReward) (other : SessionId) : (reported sid t reward).line other = t.line other :=
  line_set_player (t.send sid _) sid other _

theorem on_quest_complete_line (other : SessionId) : (onQuestComplete data s sid req).line other = s.line other := by
  cases done : completed data s sid req.questId with
  | none =>
      obtain ⟨t, reward, sessions, _, answered⟩ := on_quest_complete_refused data s sid req done
      rw [answered]
      exact line_same s t sessions other
  | some quest =>
      obtain ⟨t, reward, sessions, _, answered⟩ := on_quest_complete_done data s sid req quest done
      rw [answered, reported_line, line_same _ _ (quest_paid_sessions data s sid t quest sessions), line_set_player]

variable (clients : SessionId → Client)

theorem pay_quest_exp (player : PlayerData) (quest : QuestData)
    (below : player.exp.toNat + quest.rewardExp.toNat < player.maxExp.toNat) :
    (payQuest player quest).exp.toNat = player.exp.toNat + quest.rewardExp.toNat := by
  have bound := player.maxExp.toNat_lt
  rw [payQuest, UInt64.toNat_add, UInt32.toNat_toUInt64]
  omega

theorem reported_tracks (t : ServerState) (reward : ScQuestReward) (old : PlayerData)
    (same : shownStanding (shown clients t sid) = standingOf old)
    (paid : t.player sid = { old with exp := (t.player sid).exp, gold := (t.player sid).gold })
    (below : (t.player sid).exp.toNat < (t.player sid).maxExp.toNat) (here : sid ∈ t.sessions) (open_ : t.line sid = some true) :
    Tracks clients sid (reported sid t reward) := by
  have told : Tracks clients sid (t.send sid (.expUpdate { exp := (t.player sid).exp.toUInt32, maxExp := (t.player sid).maxExp })) := by
    rw [Tracks, shown_send clients _ open_]
    exact exp_update_shows _ old (t.player sid) same paid below
  have settled := check_level_up_settled (t.send sid (.expUpdate { exp := (t.player sid).exp.toUInt32, maxExp := (t.player sid).maxExp }))
    sid below
  have still : (t.setPlayer sid (t.player sid)).player sid = t.player sid := player_set_self t sid _ here
  have levelled : Tracks clients sid (checkLevelUp (t.send sid
      (.expUpdate { exp := (t.player sid).exp.toUInt32, maxExp := (t.player sid).maxExp })) sid) := by
    rw [settled]
    exact told.unseen (unseen_same rfl) still
  have listening : (checkLevelUp (t.send sid
      (.expUpdate { exp := (t.player sid).exp.toUInt32, maxExp := (t.player sid).maxExp })) sid).line sid = some true :=
    (line_set_player (t.send sid _) sid sid _).trans open_
  have informed : Tracks clients sid (sendCharInfo (checkLevelUp (t.send sid
      (.expUpdate { exp := (t.player sid).exp.toUInt32, maxExp := (t.player sid).maxExp })) sid) sid) := by
    rw [Tracks, sendCharInfo, shown_send clients _ listening]
    exact char_info_repeats _ _ levelled
  exact informed.unseen ((unseen_same rfl).send sid _ (reward_hushed reward)) rfl

theorem reported_unseen (t : ServerState) (reward : ScQuestReward) (other : SessionId) (apart : other ≠ sid) :
    Unseen shownStanding clients other t (reported sid t reward) := by
  have told := @send_unseen clients other t _ shownStanding sid
    (.expUpdate { exp := (t.player sid).exp.toUInt32, maxExp := (t.player sid).maxExp }) apart
  have informed (u : ServerState) : Unseen shownStanding clients other u (sendCharInfo u sid) := by
    rw [sendCharInfo]
    exact send_unseen sid _ apart
  exact ((told.trans (check_level_up_unseen sid apart)).trans (informed _)).trans (send_unseen sid _ apart)

theorem reported_other (t : ServerState) (reward : ScQuestReward) (other : SessionId) (apart : other ≠ sid) :
    (reported sid t reward).player other = t.player other :=
  check_level_up_other (t.send sid _) sid other apart

theorem on_quest_complete_tracks (other : SessionId) (tracks : Tracks clients other s) (here : other ∈ s.sessions)
    (open_ : s.line other = some true)
    (below : ∀ quest ∈ completed data s sid req.questId, other = sid →
      (s.player other).exp.toNat + quest.rewardExp.toNat < (s.player other).maxExp.toNat) :
    Tracks clients other (onQuestComplete data s sid req) := by
  cases done : completed data s sid req.questId with
  | none =>
      obtain ⟨t, reward, sessions, sent, answered⟩ := on_quest_complete_refused data s sid req done
      rw [answered]
      exact tracks.unseen ((unseen_same sent).send sid _ (reward_hushed reward)) (player_same s t sessions other)
  | some quest =>
      obtain ⟨t, reward, sessions, sent, answered⟩ := on_quest_complete_done data s sid req quest done
      have stored := quest_paid_sessions data s sid t quest sessions
      have paid : Unseen shownStanding clients other s (questPaid data sid t quest) :=
        (unseen_same sent).trans (quest_paid_unseen data sid clients other standing_aloof t quest)
      have player := player_same _ _ stored other
      rw [answered]
      by_cases own : other = sid
      · subst own
        rw [player_set_self s other _ here] at player
        have total := pay_quest_exp (s.player other) quest (below quest done rfl)
        have settled : (payQuest (s.player other) quest).exp.toNat < (payQuest (s.player other) quest).maxExp.toNat := by
          rw [total]
          exact below quest done rfl
        refine reported_tracks other clients _ reward (s.player other) (Eq.trans paid tracks) ?_ ?_ ?_ ?_
        · rw [player]
          rfl
        · rwa [player]
        · rw [stored]
          exact (mem_set_player s other other _).mpr here
        · rw [line_same _ _ stored, line_set_player]
          exact open_
      · rw [player_set_other s sid other _ own] at player
        exact tracks.unseen (paid.trans (reported_unseen sid clients _ reward other own))
          ((reported_other sid _ reward other own).trans player)

end Completion

section Agreement

variable (data : GameData)

def ShowsProgress (scene : Scene) : Prop :=
  ∀ sid, (scene.server.player sid).loggedIn = true → shownStanding (scene.clients sid) = standingOf (scene.server.player sid)

def requesting (s : ServerState) (input : Input) : Option (SessionId × Request) :=
  match input.event with
  | .packet sid request => if s.fault.isNone ∧ sid ∈ s.sessions then some (sid, request) else none
  | _ => none

def Progresses (input : Input) : Prop :=
  ∃ sid request, input.event = .packet sid request ∧ ((∃ atk, request = .attack atk) ∨ ∃ req, request = .questComplete req)

def expGain (s : ServerState) (sid other : SessionId) : Request → Option Nat
  | .attack atk => (slain s sid atk).bind (killExp s sid other)
  | .questComplete req => if other = sid then (completed data s sid req.questId).map (fun quest => quest.rewardExp.toNat) else none
  | _ => none

-- Nobody in the game who is paid in this step comes to the experience of the next level.
def levelsNobody (scene : Scene) (input : Input) : Prop :=
  ∀ asked ∈ requesting scene.server input, ∀ other, (scene.server.player other).loggedIn = true →
    ∀ gain ∈ expGain data scene.server asked.1 other asked.2,
      (scene.server.player other).exp.toNat + gain < (scene.server.player other).maxExp.toNat

instance (scene : Scene) (input : Input) : Decidable (levelsNobody data scene input) :=
  match asks : requesting scene.server input with
  | none => .isTrue (by simp [levelsNobody, asks])
  | some asked =>
      @decidable_of_iff' _ (∀ other ∈ scene.server.inGame, ∀ gain ∈ expGain data scene.server asked.1 other asked.2,
        (scene.server.player other).exp.toNat + gain < (scene.server.player other).maxExp.toNat)
        (by simp [levelsNobody, asks, mem_in_game]) (List.decidableBAll _ _)

instance (scene : Scene) : Decidable (ShowsProgress scene) :=
  @decidable_of_iff' _ (∀ sid ∈ scene.server.inGame, shownStanding (scene.clients sid) = standingOf (scene.server.player sid))
    (forall_congr' (fun sid => imp_congr_left (mem_in_game scene.server sid).symm)) (List.decidableBAll _ _)

theorem step_requesting (s : ServerState) (input : Input) (sid : SessionId) (request : Request)
    (asks : requesting s input = some (sid, request)) :
    input.event = .packet sid request ∧ sid ∈ s.sessions ∧ step data s input = handle data (facing s input) sid request := by
  cases event : input.event with
  | packet owner asked =>
      simp only [requesting, event, Option.ite_none_right_eq_some, Option.some.injEq, Prod.mk.injEq] at asks
      obtain ⟨⟨living, here⟩, rfl, rfl⟩ := asks
      refine ⟨rfl, here, ?_⟩
      rw [step_alive data s input (Option.isNone_iff_eq_none.mp living), event, handle_event_here data (facing s input) owner _ here]
  | accept => simp [requesting, event] at asks
  | writeError _ => simp [requesting, event] at asks
  | disconnect _ => simp [requesting, event] at asks

theorem step_not_requesting (s : ServerState) (input : Input) (sid : SessionId) (request : Request) (event : input.event = .packet sid request)
    (rests : requesting s input = none) : (step data s input).sessions = s.sessions ∧ (step data s input).sent = s.sent := by
  cases condition : s.fault with
  | some fault =>
      rw [step_dead data s input fault condition]
      exact ⟨rfl, rfl⟩
  | none =>
      have absent : sid ∉ s.sessions := by simpa [requesting, event, condition] using rests
      rw [step_alive data s input condition, event, handle_event_absent data (facing s input) sid _ absent]
      exact ⟨rfl, rfl⟩

theorem scene_step_progress (scene : Scene) (input : Input) (progresses : Progresses input)
    (agreed : Attentive scene.server ∧ ShowsProgress scene) (stays : levelsNobody data scene input) :
    Attentive (sceneStep data scene input).server ∧ ShowsProgress (sceneStep data scene input) := by
  cases asks : requesting scene.server input with
  | none =>
      obtain ⟨sid, request, event, _⟩ := progresses
      obtain ⟨sessions, sent⟩ := step_not_requesting data { scene.server with sent := [] } input sid request event asks
      have players (other : SessionId) : (sceneStep data scene input).server.player other = scene.server.player other :=
        player_same _ _ sessions other
      have clients (other : SessionId) : (sceneStep data scene input).clients other = scene.clients other :=
        congrArg (fun sent => (inbox sent other).foldl Client.receive (scene.clients other)) sent
      constructor
      · intro other inGame
        exact (line_same { scene.server with sent := [] } _ sessions other).trans (agreed.1 other (by rwa [players] at inGame))
      · intro other inGame
        rw [clients, players]
        exact agreed.2 other (by rwa [players] at inGame)
  | some asked =>
      obtain ⟨owner, request⟩ := asked
      obtain ⟨event, here, acts⟩ := step_requesting data { scene.server with sent := [] } input owner request asks
      have below := stays _ asks
      have server : (sceneStep data scene input).server = handle data (scene.facing input) owner request := acts
      have clients : (sceneStep data scene input).clients = shown scene.clients (handle data (scene.facing input) owner request) :=
        congrArg (shown scene.clients) acts
      have present (other : SessionId) (inGame : (scene.server.player other).loggedIn = true) : other ∈ scene.server.sessions :=
        (mem_line scene.server other).mpr (by rw [agreed.1 other inGame]; rfl)
      obtain ⟨sid, asked, same, kind⟩ := progresses
      obtain ⟨rfl, rfl⟩ : sid = owner ∧ asked = request := by simpa using same.symm.trans event
      have unselected : ∀ req, asked ≠ .charSelect req := by
        rcases kind with ⟨atk, rfl⟩ | ⟨req, rfl⟩ <;> exact nofun
      have playing (other : SessionId) : ((sceneStep data scene input).server.player other).loggedIn = (scene.server.player other).loggedIn := by
        rw [server]
        exact handle_logged_in data (scene.facing input) sid asked unselected other
      rcases kind with ⟨atk, rfl⟩ | ⟨req, rfl⟩
      · refine ⟨?_, fun other inGame => ?_⟩
        · rw [server]
          exact attack_attentive data (scene.facing input) sid atk here agreed.1
        · have before := (playing other).symm.trans inGame
          rw [clients, server]
          exact on_attack_tracks data sid atk (agreed.2 other before) (present other before) (agreed.1 other before)
            (fun npc slew gain paid => below other before gain (Option.mem_bind_iff.mpr ⟨npc, slew, paid⟩))
      · refine ⟨fun other inGame => ?_, fun other inGame => ?_⟩
        · rw [server]
          exact (on_quest_complete_line data (scene.facing input) sid req other).trans (agreed.1 other ((playing other).symm.trans inGame))
        · have before := (playing other).symm.trans inGame
          rw [clients, server]
          exact on_quest_complete_tracks data (scene.facing input) sid req scene.clients other (agreed.2 other before) (present other before)
            (agreed.1 other before) (fun quest done own => below other before _ (by
              rw [expGain, if_pos own]
              exact Option.mem_map_of_mem _ done))

theorem progress_shown_of_guarded (scene : Scene) (inputs : List Input) (progressing : ∀ input ∈ inputs, Progresses input)
    (attentive : Attentive scene.server) (shows : ShowsProgress scene)
    (stays : Machine.Guarded (sceneStep data) (levelsNobody data) scene inputs) :
    Machine.Throughout (sceneStep data) ShowsProgress scene inputs := by
  apply Machine.throughout_of_guarded (sceneStep data) (fun scene input => Progresses input ∧ levelsNobody data scene input)
    (fun scene => Attentive scene.server ∧ ShowsProgress scene)
  · exact fun _ agreed => agreed.2
  · exact fun scene input agreed met => scene_step_progress data scene input met.1 agreed met.2
  · exact ⟨attentive, shows⟩
  · exact Machine.guarded_among (sceneStep data) _ Progresses scene inputs progressing stays

theorem hermit_shows_progress : Machine.Throughout (sceneStep emptyData) ShowsProgress hermit soloKill := by
  have kills : ∀ input ∈ soloKill, Progresses input := fun input member =>
    ⟨1, .attack ⟨1⟩, congrArg Input.event (List.eq_of_mem_replicate member), .inl ⟨⟨1⟩, rfl⟩⟩
  have met : Attentive hermit.server ∧ ShowsProgress hermit ∧
      Machine.Guarded (sceneStep emptyData) (levelsNobody emptyData) hermit soloKill := by decide +kernel
  exact progress_shown_of_guarded emptyData hermit soloKill kills met.1 met.2.1 met.2.2

-- The fourth kill brings 120 of 100 experience points.
def fourKills : List Input := [1, 2, 3, 4].flatMap (fun uid => List.replicate 3 ⟨.packet 1 (.attack ⟨uid⟩), [], []⟩)

theorem level_up_leaves_stale_exp :
    Attentive hermit.server ∧ ShowsProgress hermit ∧ ¬ ShowsProgress (Machine.run (sceneStep emptyData) hermit fourKills) := by
  decide +kernel

end Agreement

end MmorpgSimulator
