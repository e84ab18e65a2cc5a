import MmorpgSimulator.ProgressViews
import MmorpgSimulator.QuestRuns

set_option autoImplicit false

namespace MmorpgSimulator

section Results

variable (data : GameData) (s : ServerState) (sid : SessionId) (req : CsQuestComplete)

def questRefusal : Bytes :=
  if isNearQuestNpc (s.player sid) then
    if (data.findQuest req.questId).isSome then text "Quest not completable" else text "Quest not found"
  else text "Not near Quest NPC"

def questReward : ScQuestReward :=
  match completed data s sid req.questId with
  | none => { questId := req.questId, message := questRefusal data s sid req }
  | some quest =>
      { success := 1, questId := req.questId, rewardGold := quest.rewardGold, rewardExp := quest.rewardExp,
        rewardItemId := quest.rewardItemId, message := text "Quest completed!" }

-- Gold and experience as announced, before the levels are counted, and the item in a slot that was free.
def PaidAsAnnounced (t : ServerState) (reply : ScQuestReward) : Prop :=
  ∃ paid : PlayerData, paid = { s.player sid with gold := paid.gold, exp := paid.exp } ∧
    paid.gold.toNat = (s.player sid).gold.toNat + reply.rewardGold.toNat ∧
      paid.exp.toNat = (s.player sid).exp.toNat + reply.rewardExp.toNat ∧ t.player sid = levelled paid ∧
        (reply.rewardItemId > 0 → ∃ slot uid, slot < maxInventory ∧ ((s.inventory sid).slot slot).itemTid = 0 ∧
          t.inventory sid = (s.inventory sid).setSlot slot ⟨uid, reply.rewardItemId⟩)

def NothingPaid (t : ServerState) : Prop :=
  t.player sid = s.player sid ∧ t.inventory sid = s.inventory sid ∧
    (t.questLog sid)[req.questId]? = (s.questLog sid)[req.questId]? ∧ t.db.questProgress = s.db.questProgress

def PaysWhole : Prop :=
  let t := onQuestComplete data s sid req
  let reply := questReward data s sid req
  (∃ news, t.sent = s.sent ++ news ++ s.deliver sid (.questReward reply)) ∧
    (reply.success = 1 → PaidAsAnnounced s sid t reply) ∧ (reply.success ≠ 1 → NothingPaid s sid req t)

theorem quest_refused (open_ : completed data s sid req.questId = none) :
    onQuestComplete data s sid req = (if isNearQuestNpc (s.player sid) ∧ (data.findQuest req.questId).isSome then s.touchQuestLog sid
      else s).send sid (.questReward (questReward data s sid req)) := by
  have reply : questReward data s sid req = { questId := req.questId, message := questRefusal data s sid req } := by
    simp [questReward, open_]
  rw [reply, questRefusal, onQuestComplete]
  by_cases near : isNearQuestNpc (s.player sid) = true
  · rw [if_neg (by simp [near])]
    cases known : data.findQuest req.questId with
    | none => simp [near]
    | some quest =>
        simp only [quest_log_touch]
        cases accepted : (s.questLog sid)[req.questId]? with
        | none => simp [near]
        | some state =>
            have unready : state.status ≠ 2 := by
              intro ready
              have done := (completed_iff data s sid req.questId quest).mpr ⟨near, known, state, accepted, ready⟩
              exact absurd (done.symm.trans open_) (by simp)
            simp [unready, near]
  · simp [near]

theorem quest_log_touch_entry (questId : UInt16) : ((s.touchQuestLog sid).questLog sid)[questId]? = (s.questLog sid)[questId]? := by
  rw [quest_log_touch]

theorem refused_pays_nothing (open_ : completed data s sid req.questId = none) : PaysWhole data s sid req := by
  have success : (questReward data s sid req).success = 0 := by simp [questReward, open_]
  have paid : NothingPaid s sid req (onQuestComplete data s sid req) := by
    rw [quest_refused data s sid req open_]
    split
    · exact ⟨rfl, rfl, quest_log_touch_entry s sid req.questId, rfl⟩
    · exact ⟨rfl, rfl, rfl, rfl⟩
  refine ⟨⟨[], ?_⟩, fun granted => absurd (success.symm.trans granted) (by decide), fun _ => paid⟩
  rw [quest_refused data s sid req open_, List.append_nil]
  split <;> rfl

def questClosed (state : QuestProgress) : ServerState :=
  saveQuestProgress ((s.touchQuestLog sid).setQuestLog sid ((s.questLog sid).insert req.questId { state with status := 3 }))
    (s.player sid).charUid req.questId { state with status := 3 }

theorem quest_granted (quest : QuestData) (done : completed data s sid req.questId = some quest) :
    ∃ state, onQuestComplete data s sid req =
      reported sid (questPaid data sid (questClosed s sid req state) quest) (questReward data s sid req) := by
  obtain ⟨near, known, state, accepted, ready⟩ := (completed_iff data s sid req.questId quest).mp done
  refine ⟨state, ?_⟩
  have reply : questReward data s sid req =
      { success := 1, questId := req.questId, rewardGold := quest.rewardGold, rewardExp := quest.rewardExp,
        rewardItemId := quest.rewardItemId, message := text "Quest completed!" } := by
    simp [questReward, done]
  rw [reply, onQuestComplete, if_neg (by simp [near]), known]
  simp only [quest_log_touch, accepted, ready]
  rfl

theorem reported_player (t : ServerState) (reply : ScQuestReward) (here : sid ∈ t.sessions) :
    (reported sid t reply).player sid = levelled (t.player sid) :=
  player_set_self (t.send sid _) sid _ here

theorem reported_sent (t : ServerState) (reply : ScQuestReward) :
    ∃ news, (reported sid t reply).sent = t.sent ++ news ++ t.deliver sid (.questReward reply) := by
  let told := t.send sid (.expUpdate { exp := (t.player sid).exp.toUInt32, maxExp := (t.player sid).maxExp })
  let informed := sendCharInfo (checkLevelUp told sid) sid
  have kept : t.sent <+: informed.sent :=
    ((List.prefix_append t.sent _).trans (List.prefix_append told.sent _)).trans (List.prefix_append (checkLevelUp told sid).sent _)
  have line : informed.line sid = t.line sid := line_set_player told sid sid _
  obtain ⟨news, same⟩ := kept
  refine ⟨news, ?_⟩
  change informed.sent ++ informed.deliver sid _ = _
  rw [same, deliver_line, deliver_line, line]

theorem give_item_keeps_sent (itemId : UInt16) : s.sent <+: (giveItem data s sid itemId).sent := by
  rw [giveItem]
  simp only
  cases findEmptySlot ((s.touchInventory sid).inventory sid) with
  | none => exact List.prefix_refl _
  | some slot =>
      cases data.findItem itemId with
      | none => exact List.prefix_refl _
      | some item => exact List.prefix_append _ _

theorem quest_paid_keeps_sent (t : ServerState) (quest : QuestData) : t.sent <+: (questPaid data sid t quest).sent := by
  rw [questPaid]
  split
  · exact give_item_keeps_sent data (t.setPlayer sid (payQuest (t.player sid) quest)) sid _
  · exact List.prefix_refl _

theorem give_item_full (itemId : UInt16) (full : ¬ roomy s sid) : (giveItem data s sid itemId).inventory sid = s.inventory sid := by
  have none_ : findEmptySlot (s.inventory sid) = none := by simpa [roomy] using full
  rw [giveItem]
  simp only [inventory_touch, none_]

theorem give_item_roomy (itemId : UInt16) (known : (data.findItem itemId).isSome) (room : roomy s sid) :
    ∃ slot uid, slot < maxInventory ∧ ((s.inventory sid).slot slot).itemTid = 0 ∧
      (giveItem data s sid itemId).inventory sid = (s.inventory sid).setSlot slot ⟨uid, itemId⟩ := by
  obtain ⟨slot, free⟩ := Option.isSome_iff_exists.mp room
  obtain ⟨item, found⟩ := Option.isSome_iff_exists.mp known
  obtain ⟨bound, empty⟩ := Inventory.find_empty_slot (s.inventory sid) slot free
  refine ⟨slot, (addItemToDb (s.touchInventory sid) (s.player sid).charUid itemId).2, bound, empty, ?_⟩
  rw [giveItem]
  simp only [inventory_touch, free, found]
  exact inventory_set_self _ sid _

theorem quest_paid_delivers_iff (t : ServerState) (quest : QuestData) (same : t.inventory sid = s.inventory sid)
    (stocked : quest.rewardItemId > 0 → (data.findItem quest.rewardItemId).isSome) :
    (quest.rewardItemId > 0 → ∃ slot uid, slot < maxInventory ∧ ((s.inventory sid).slot slot).itemTid = 0 ∧
      (questPaid data sid t quest).inventory sid = (s.inventory sid).setSlot slot ⟨uid, quest.rewardItemId⟩) ↔
      (quest.rewardItemId > 0 → roomy s sid) := by
  refine imp_congr_right (fun due => ?_)
  let paid := t.setPlayer sid (payQuest (t.player sid) quest)
  have held : paid.inventory sid = s.inventory sid := same
  have gives : questPaid data sid t quest = giveItem data paid sid quest.rewardItemId := if_pos due
  have room : roomy paid sid = roomy s sid := by rw [roomy, roomy, held]
  rw [gives]
  constructor
  · rintro ⟨slot, uid, bound, empty, placed⟩
    by_contra full
    have lost := give_item_full data paid sid quest.rewardItemId (by rwa [room])
    have found := congrArg (fun inv : Inventory => (inv.slot slot).itemTid) (placed.symm.trans (lost.trans held))
    simp only [Inventory.slot_set_slot _ slot slot _ bound, if_pos, empty] at found
    rw [found] at due
    exact absurd due (by decide)
  · intro free
    have delivered := give_item_roomy data paid sid quest.rewardItemId (stocked due) (by rwa [room])
    rwa [held] at delivered

theorem pay_quest_exact (player : PlayerData) (quest : QuestData)
    (gold : player.gold.toNat + quest.rewardGold.toNat < 2 ^ 64) (exp : player.exp.toNat + quest.rewardExp.toNat < 2 ^ 64) :
    (payQuest player quest).gold.toNat = player.gold.toNat + quest.rewardGold.toNat ∧
      (payQuest player quest).exp.toNat = player.exp.toNat + quest.rewardExp.toNat := by
  simp only [payQuest, UInt64.toNat_add, UInt32.toNat_toUInt64]
  omega

theorem quest_pays_whole_iff (here : sid ∈ s.sessions)
    (stocked : ∀ quest ∈ data.quests, quest.rewardItemId > 0 → (data.findItem quest.rewardItemId).isSome) :
    PaysWhole data s sid req ↔ ∀ quest ∈ completed data s sid req.questId, (quest.rewardItemId > 0 → roomy s sid) ∧
      (s.player sid).gold.toNat + quest.rewardGold.toNat < 2 ^ 64 ∧ (s.player sid).exp.toNat + quest.rewardExp.toNat < 2 ^ 64 := by
  cases done : completed data s sid req.questId with
  | none => exact iff_of_true (refused_pays_nothing data s sid req done) nofun
  | some quest =>
      have listed := find_quest_mem data _ quest ((completed_iff data s sid req.questId quest).mp done).2.1
      obtain ⟨state, acts⟩ := quest_granted data s sid req quest done
      have reply : questReward data s sid req =
          { success := 1, questId := req.questId, rewardGold := quest.rewardGold, rewardExp := quest.rewardExp,
            rewardItemId := quest.rewardItemId, message := text "Quest completed!" } := by
        simp [questReward, done]
      let closed := questClosed s sid req state
      let paid := questPaid data sid closed quest
      have stored : paid.sessions = (s.setPlayer sid (payQuest (s.player sid) quest)).sessions :=
        quest_paid_sessions data s sid closed quest rfl
      have player : (onQuestComplete data s sid req).player sid = levelled (payQuest (s.player sid) quest) := by
        have present : sid ∈ paid.sessions := by
          rw [stored]
          exact (mem_set_player s sid sid _).mpr here
        rw [acts, reported_player sid paid _ present, player_same _ _ stored sid, player_set_self s sid _ here]
      have inventory : (onQuestComplete data s sid req).inventory sid = paid.inventory sid := by
        rw [acts]
        rfl
      have delivers := quest_paid_delivers_iff data s sid closed quest rfl (stocked quest listed)
      have sent : ∃ news, (onQuestComplete data s sid req).sent =
          s.sent ++ news ++ s.deliver sid (.questReward (questReward data s sid req)) := by
        obtain ⟨first, kept⟩ := quest_paid_keeps_sent data sid closed quest
        obtain ⟨later, told⟩ := reported_sent sid paid (questReward data s sid req)
        have line : paid.line sid = s.line sid := by rw [line_same _ paid stored, line_set_player]
        have before : closed.sent = s.sent := rfl
        refine ⟨first ++ later, ?_⟩
        rw [acts, told, ← kept, before, deliver_line, deliver_line, line, List.append_assoc s.sent]
      have target : (∀ other ∈ some quest, (other.rewardItemId > 0 → roomy s sid) ∧
          (s.player sid).gold.toNat + other.rewardGold.toNat < 2 ^ 64 ∧ (s.player sid).exp.toNat + other.rewardExp.toNat < 2 ^ 64) ↔
          (quest.rewardItemId > 0 → roomy s sid) ∧ (s.player sid).gold.toNat + quest.rewardGold.toNat < 2 ^ 64 ∧
            (s.player sid).exp.toNat + quest.rewardExp.toNat < 2 ^ 64 := by simp
      rw [target]
      constructor
      · intro whole
        obtain ⟨_, granted, _⟩ := whole
        obtain ⟨sum, _, gold, exp, _, arrives⟩ := granted (by rw [reply])
        rw [reply] at gold exp arrives
        rw [inventory] at arrives
        exact ⟨delivers.mp arrives, gold ▸ sum.gold.toNat_lt, exp ▸ sum.exp.toNat_lt⟩
      · intro met
        obtain ⟨room, goldFits, expFits⟩ := met
        obtain ⟨gold, exp⟩ := pay_quest_exact (s.player sid) quest goldFits expFits
        refine ⟨sent, fun _ => ⟨payQuest (s.player sid) quest, rfl, ?_, ?_, player, ?_⟩, fun failed => ?_⟩
        · rw [reply]
          exact gold
        · rw [reply]
          exact exp
        · rw [reply, inventory]
          exact delivers.mpr room
        · rw [reply] at failed
          exact absurd rfl failed

end Results

def rewardData : GameData :=
  { emptyData with items := [{ id := 1, name := [83], type := weaponType, atk := 5 }], quests := [⟨1, [81], 1, 50, 20, 1⟩] }

def hunter : ServerState := Machine.run (step rewardData) (boot twoCharacters (fun _ => 3)) (questHunt.take 8)

theorem hunter_paid_whole : PaysWhole rewardData hunter 1 ⟨1⟩ := by
  have stocked : ∀ quest ∈ rewardData.quests, quest.rewardItemId > 0 → (rewardData.findItem quest.rewardItemId).isSome := by
    decide
  have ready : 1 ∈ hunter.sessions ∧ ∀ quest ∈ completed rewardData hunter 1 1, (quest.rewardItemId > 0 → roomy hunter 1) ∧
      (hunter.player 1).gold.toNat + quest.rewardGold.toNat < 2 ^ 64 ∧
      (hunter.player 1).exp.toNat + quest.rewardExp.toNat < 2 ^ 64 := by decide +kernel
  exact (quest_pays_whole_iff rewardData hunter 1 ⟨1⟩ ready.1 stocked).mpr ready.2

-- The same character after twenty purchases.
def laden : ServerState := Machine.run (step rewardData) hunter (List.replicate 20 ⟨.packet 1 (.shopBuy ⟨1⟩), [], []⟩)

theorem full_inventory_forfeits_reward :
    (∀ quest ∈ rewardData.quests, quest.rewardItemId > 0 → (rewardData.findItem quest.rewardItemId).isSome) ∧
      ¬ PaysWhole rewardData laden 1 ⟨1⟩ := by
  refine ⟨by decide, fun whole => ?_⟩
  have promised : (questReward rewardData laden 1 ⟨1⟩).success = 1 ∧ (questReward rewardData laden 1 ⟨1⟩).rewardItemId > 0 ∧
      ∀ slot < maxInventory, ((laden.inventory 1).slot slot).itemTid ≠ 0 := by decide +kernel
  obtain ⟨success, due, full⟩ := promised
  obtain ⟨_, granted, _⟩ := whole
  obtain ⟨_, _, _, _, _, arrives⟩ := granted success
  obtain ⟨slot, uid, bound, empty, _⟩ := arrives due
  exact full slot bound empty

end MmorpgSimulator
