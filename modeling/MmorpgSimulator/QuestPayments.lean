import MmorpgSimulator.QuestRewards

set_option autoImplicit false

namespace MmorpgSimulator

def QuestData.paying (rewards : QuestData → UInt32 × UInt32 × UInt16) (quest : QuestData) : QuestData :=
  { quest with rewardGold := (rewards quest).1, rewardExp := (rewards quest).2.1, rewardItemId := (rewards quest).2.2 }

def GameData.paying (data : GameData) (rewards : QuestData → UInt32 × UInt32 × UInt16) : GameData :=
  { data with quests := data.quests.map (QuestData.paying rewards) }

-- What OnQuestComplete pays out: the gold and the experience with the levels it brings,
-- and the item if the table knows it and a slot is free.
structure RewardPaid (data : GameData) (s t : ServerState) (sid : SessionId) (quest : QuestData) : Prop where
  player : t.player sid = levelled { s.player sid with
    gold := (s.player sid).gold + quest.rewardGold.toUInt64, exp := (s.player sid).exp + quest.rewardExp.toUInt64 }
  placed : quest.rewardItemId > 0 → roomy s sid → (data.findItem quest.rewardItemId).isSome →
    ∃ slot uid, slot < maxInventory ∧ ((s.inventory sid).slot slot).itemTid = 0 ∧
      t.inventory sid = (s.inventory sid).setSlot slot ⟨uid, quest.rewardItemId⟩
  unplaced : ¬ (quest.rewardItemId > 0 ∧ roomy s sid ∧ (data.findItem quest.rewardItemId).isSome) → t.inventory sid = s.inventory sid
  others : ∀ other, other ≠ sid → t.player other = s.player other ∧ t.inventory other = s.inventory other

-- A step pays the reward of each quest it has a .paid event for. One without such an event
-- pays none: it does the same whatever the rewards are, and a CS_QUEST_COMPLETE moves
-- no gold, experience or item at all.
structure PaysAsRecorded (data : GameData) (s : ServerState) (input : Input) (t : ServerState) : Prop where
  paid : ∀ charUid questId, .paid charUid questId ∈ questEvents data s input → ∃ sid quest,
    input.event = .packet sid (.questComplete ⟨questId⟩) ∧ (s.player sid).charUid = charUid ∧ data.findQuest questId = some quest ∧
      RewardPaid data s t sid quest
  unpaid : (∀ charUid questId, .paid charUid questId ∉ questEvents data s input) →
    (∀ rewards, step (data.paying rewards) s input = t) ∧
      ∀ sid req, input.event = .packet sid (.questComplete req) → ∀ other, t.player other = s.player other ∧ t.inventory other = s.inventory other

section Rewards

variable (data : GameData) (rewards : QuestData → UInt32 × UInt32 × UInt16) (s : ServerState) (sid : SessionId)

theorem find_quest_paying (questId : UInt16) :
    (data.paying rewards).findQuest questId = (data.findQuest questId).map (QuestData.paying rewards) :=
  List.find?_map

theorem update_quest_paying (entry : UInt16 × QuestProgress) :
    updateQuest (data.paying rewards) sid s entry = updateQuest data sid s entry := by
  have advance : advances (data.paying rewards) entry = advances data entry := by
    rw [advances, advances, find_quest_paying, Option.isSome_map]
  have progress : progressed (data.paying rewards) entry.1 entry.2 = progressed data entry.1 entry.2 := by
    rw [progressed, progressed, find_quest_paying]
    cases data.findQuest entry.1 <;> rfl
  have target : targetOf (data.paying rewards) entry.1 = targetOf data entry.1 := by
    rw [targetOf, targetOf, find_quest_paying, Option.map_map]
    rfl
  rw [updateQuest, updateQuest, advance, progress, target]

theorem update_quest_progress_paying : updateQuestProgress (data.paying rewards) s sid = updateQuestProgress data s sid := by
  have turn : updateQuest (data.paying rewards) sid = updateQuest data sid := funext₂ (update_quest_paying data rewards · sid ·)
  rw [updateQuestProgress, updateQuestProgress, turn]

theorem share_kill_paying (npc : Npc) : shareKill (data.paying rewards) s sid npc = shareKill data s sid npc := by
  have member (exp gold : UInt32) : creditMember (data.paying rewards) sid exp gold = creditMember data sid exp gold := by
    funext t mid
    simp only [creditMember, update_quest_progress_paying]
  rw [shareKill, shareKill]
  cases s.party.playerParty[sid]? with
  | none => rfl
  | some partyId => simp only [member]

theorem on_attack_paying (atk : CsAttack) : onAttack (data.paying rewards) s sid atk = onAttack data s sid atk := by
  have drop (t : ServerState) : dropItem (data.paying rewards) t sid = dropItem data t sid := rfl
  have kill (t : ServerState) (index : Fin maxNpc) : killNpc (data.paying rewards) t sid index = killNpc data t sid index := by
    rw [killNpc, killNpc, share_kill_paying, update_quest_progress_paying, drop]
  rw [onAttack, onAttack]
  cases findTarget s (s.player sid) atk.targetUid with
  | none => rfl
  | some index => simp only [kill]

theorem on_quest_list_paying : onQuestList (data.paying rewards) s sid = onQuestList data s sid := by
  have entries (qp : QuestLog) : ((data.paying rewards).quests.take maxQuestList).map (questEntryOf qp) =
      (data.quests.take maxQuestList).map (questEntryOf qp) := by
    rw [GameData.paying, ← List.map_take, List.map_map]
    rfl
  rw [onQuestList, onQuestList]
  simp only [entries]

theorem on_quest_accept_paying (req : CsQuestAccept) : onQuestAccept (data.paying rewards) s sid req = onQuestAccept data s sid req := by
  rw [onQuestAccept, onQuestAccept, find_quest_paying]
  cases data.findQuest req.questId <;> rfl

theorem completed_paying (questId : UInt16) (open_ : completed data s sid questId = none) :
    completed (data.paying rewards) s sid questId = none := by
  rw [completed] at open_ ⊢
  split at open_
  · rename_i ready
    rw [if_pos ready, find_quest_paying, open_]
    rfl
  · rename_i unready
    exact if_neg unready

theorem on_quest_complete_paying (req : CsQuestComplete) (open_ : completed data s sid req.questId = none) :
    onQuestComplete (data.paying rewards) s sid req = onQuestComplete data s sid req := by
  have still := completed_paying data rewards s sid req.questId open_
  have known : ((data.paying rewards).findQuest req.questId).isSome = (data.findQuest req.questId).isSome := by
    rw [find_quest_paying, Option.isSome_map]
  have reply : questReward (data.paying rewards) s sid req = questReward data s sid req := by
    simp only [questReward, open_, still, questRefusal, known]
  rw [quest_refused _ s sid req still, quest_refused data s sid req open_, reply, known]

theorem handle_paying (request : Request)
    (open_ : ∀ req, request = .questComplete req → completed data s sid req.questId = none) :
    handle (data.paying rewards) s sid request = handle data s sid request := by
  cases request with
  | attack req => exact on_attack_paying data rewards s sid req
  | questList => exact on_quest_list_paying data rewards s sid
  | questAccept req => exact on_quest_accept_paying data rewards s sid req
  | questComplete req => exact on_quest_complete_paying data rewards s sid req (open_ req rfl)
  | _ => rfl

end Rewards

section Payments

variable (data : GameData) (s : ServerState) (sid : SessionId)

theorem completes_completed (questId : UInt16) : completes data s sid questId = (completed data s sid questId).isSome := by
  cases done : completed data s sid questId with
  | some quest =>
      obtain ⟨near, known, state, accepted, ready⟩ := (completed_iff data s sid questId quest).mp done
      simp [completes, near, known, accepted, statusOf, ready]
  | none =>
      refine Bool.eq_false_iff.mpr (fun ready => ?_)
      simp only [completes, Bool.and_eq_true, decide_eq_true_eq] at ready
      obtain ⟨⟨near, known⟩, status⟩ := ready
      obtain ⟨quest, found⟩ := Option.isSome_iff_exists.mp known
      cases entry : (s.questLog sid)[questId]? with
      | none =>
          rw [entry] at status
          exact absurd status (by decide)
      | some state =>
          rw [entry] at status
          have paid := (completed_iff data s sid questId quest).mpr ⟨near, found, state, entry, status⟩
          exact absurd (paid.symm.trans done) (by simp)

theorem request_paid (request : Request) (charUid : CharUid) (questId : UInt16)
    (event : QuestEvent.paid charUid questId ∈ requestEvents data s sid request) :
    request = .questComplete ⟨questId⟩ ∧ (s.player sid).charUid = charUid ∧ completes data s sid questId = true := by
  cases request with
  | questComplete req =>
      rw [requestEvents] at event
      split at event
      · rename_i ready
        obtain ⟨rfl, rfl⟩ := QuestEvent.paid.inj (List.mem_singleton.mp event)
        exact ⟨rfl, rfl, ready⟩
      · exact absurd event List.not_mem_nil
  | questAccept req =>
      rw [requestEvents] at event
      split at event
      · exact absurd (List.mem_singleton.mp event) (by simp)
      · exact absurd event List.not_mem_nil
  | attack atk =>
      obtain ⟨mid, _, same⟩ := List.mem_map.mp event
      exact absurd same (by simp)
  | _ => exact absurd event List.not_mem_nil

theorem give_item_other (itemId : UInt16) (other : SessionId) (apart : other ≠ sid) :
    (giveItem data s sid itemId).inventory other = s.inventory other := by
  rw [giveItem]
  simp only
  cases findEmptySlot ((s.touchInventory sid).inventory sid) with
  | none => exact inventory_touch s sid other
  | some slot =>
      cases data.findItem itemId with
      | none => exact inventory_touch s sid other
      | some item => exact (inventory_set_other _ sid other _ apart).trans (inventory_touch s sid other)

theorem give_item_unknown (itemId : UInt16) (unknown : ¬ (data.findItem itemId).isSome) :
    (giveItem data s sid itemId).inventory sid = s.inventory sid := by
  rw [giveItem]
  simp only [Option.not_isSome_iff_eq_none.mp unknown]
  cases findEmptySlot ((s.touchInventory sid).inventory sid) <;> exact inventory_touch s sid sid

theorem quest_paid_inventory (t : ServerState) (quest : QuestData) (other : SessionId) (apart : other ≠ sid) :
    (questPaid data sid t quest).inventory other = t.inventory other := by
  rw [questPaid]
  split
  · exact give_item_other data (t.setPlayer sid (payQuest (t.player sid) quest)) sid _ other apart
  · rfl

theorem reported_player_other (t : ServerState) (reply : ScQuestReward) (other : SessionId) (apart : other ≠ sid) :
    (reported sid t reply).player other = t.player other :=
  player_set_other (t.send sid _) sid other _ apart

theorem granted_paid (req : CsQuestComplete) (quest : QuestData) (done : completed data s sid req.questId = some quest) (here : sid ∈ s.sessions) :
    RewardPaid data s (onQuestComplete data s sid req) sid quest := by
  obtain ⟨state, acts⟩ := quest_granted data s sid req quest done
  let closed := questClosed s sid req state
  let paid := questPaid data sid closed quest
  have stored : paid.sessions = (s.setPlayer sid (payQuest (s.player sid) quest)).sessions := quest_paid_sessions data s sid closed quest rfl
  have present : sid ∈ paid.sessions := by
    rw [stored]
    exact (mem_set_player s sid sid _).mpr here
  have inventory (other : SessionId) : (onQuestComplete data s sid req).inventory other = paid.inventory other := by
    rw [acts]
    rfl
  let credited := closed.setPlayer sid (payQuest (closed.player sid) quest)
  refine ⟨?_, fun due room known => ?_, fun missing => ?_, fun other apart => ⟨?_, ?_⟩⟩
  · rw [acts, reported_player sid paid _ present, player_same _ _ stored sid, player_set_self s sid _ here]
    rfl
  · have gives : paid = giveItem data credited sid quest.rewardItemId := if_pos due
    rw [inventory, gives]
    exact give_item_roomy data credited sid _ known room
  · rw [inventory]
    by_cases due : quest.rewardItemId > 0
    · have gives : paid = giveItem data credited sid quest.rewardItemId := if_pos due
      rw [gives]
      by_cases room : roomy s sid
      · exact give_item_unknown data credited sid _ (fun known => missing ⟨due, room, known⟩)
      · exact give_item_full data credited sid _ room
    · have gives : paid = credited := if_neg due
      rw [gives]
      rfl
  · rw [acts, reported_player_other sid paid _ other apart, player_same _ _ stored other, player_set_other s sid other _ apart]
  · exact (inventory other).trans (quest_paid_inventory data sid closed quest other apart)

theorem quest_events_acts (input : Input) (event : QuestEvent) (happens : event ∈ questEvents data s input) :
    ∃ sid request, input.event = .packet sid request ∧ s.fault = none ∧ sid ∈ s.sessions ∧ event ∈ requestEvents data s sid request := by
  rw [questEvents] at happens
  split at happens
  · rename_i sid request alive asks
    split at happens
    · rename_i here
      exact ⟨sid, request, asks, alive, here, happens⟩
    · exact absurd happens List.not_mem_nil
  · exact absurd happens List.not_mem_nil

theorem step_paid (input : Input) (charUid : CharUid) (questId : UInt16) (event : .paid charUid questId ∈ questEvents data s input) :
    ∃ sid quest, input.event = .packet sid (.questComplete ⟨questId⟩) ∧ (s.player sid).charUid = charUid ∧
      data.findQuest questId = some quest ∧ RewardPaid data s (step data s input) sid quest := by
  obtain ⟨sid, request, asks, alive, here, event⟩ := quest_events_acts data s input _ event
  obtain ⟨rfl, character, ready⟩ := request_paid data s sid request charUid questId event
  rw [completes_completed] at ready
  obtain ⟨quest, done⟩ := Option.isSome_iff_exists.mp ready
  refine ⟨sid, quest, asks, character, ((completed_iff data s sid questId quest).mp done).2.1, ?_⟩
  rw [step_alive data s input alive, asks, handle_event_here data (facing s input) sid _ here]
  obtain ⟨player, placed, unplaced, others⟩ := granted_paid data (facing s input) sid ⟨questId⟩ quest done here
  exact ⟨player, placed, unplaced, others⟩

section Unpaid

variable (input : Input) (unpaid : ∀ charUid questId, QuestEvent.paid charUid questId ∉ questEvents data s input)
include unpaid

theorem unpaid_incomplete (req : CsQuestComplete) (asks : input.event = .packet sid (.questComplete req)) (alive : s.fault = none)
    (here : sid ∈ s.sessions) : completes data s sid req.questId = false := by
  refine Bool.eq_false_iff.mpr (fun ready => unpaid (s.player sid).charUid req.questId ?_)
  obtain ⟨event, rolls, dbPlan⟩ := input
  subst asks
  rw [quest_events_alive data s rolls dbPlan sid _ alive here, requestEvents, if_pos ready]
  exact List.mem_singleton_self _

theorem unpaid_paying (rewards : QuestData → UInt32 × UInt32 × UInt16) : step (data.paying rewards) s input = step data s input := by
  cases dead : s.fault with
  | some fault => rw [step_dead _ s input fault dead, step_dead data s input fault dead]
  | none =>
      rw [step_alive _ s input dead, step_alive data s input dead]
      cases happens : input.event with
      | packet sid request =>
          by_cases here : sid ∈ s.sessions
          · rw [handle_event_here _ (facing s input) sid request here, handle_event_here data (facing s input) sid request here]
            refine handle_paying data rewards (facing s input) sid request (fun req asked => ?_)
            have unready : completes data (facing s input) sid req.questId = false :=
              unpaid_incomplete data s sid input unpaid req (happens.trans (congrArg (Event.packet sid) asked)) dead here
            rw [completes_completed] at unready
            exact Option.not_isSome_iff_eq_none.mp (by rw [unready]; decide)
          · rw [handle_event_absent _ (facing s input) sid request here, handle_event_absent data (facing s input) sid request here]
      | _ => rfl

theorem unpaid_moves_nothing (req : CsQuestComplete) (asks : input.event = .packet sid (.questComplete req)) (other : SessionId) :
    (step data s input).player other = s.player other ∧ (step data s input).inventory other = s.inventory other := by
  cases dead : s.fault with
  | some fault =>
      rw [step_dead data s input fault dead]
      exact ⟨rfl, rfl⟩
  | none =>
      rw [step_alive data s input dead, asks]
      by_cases here : sid ∈ s.sessions
      · rw [handle_event_here data (facing s input) sid _ here]
        have unready := unpaid_incomplete data s sid input unpaid req asks dead here
        obtain ⟨sessions, inventories⟩ := on_quest_complete_unpaid data (facing s input) sid req unready
        have held : (onQuestComplete data (facing s input) sid req).inventory other = s.inventory other := by
          simp only [ServerState.inventory]
          exact congrArg (fun held => (held[other]?).getD {}) inventories
        exact ⟨player_same s _ sessions other, held⟩
      · rw [handle_event_absent data (facing s input) sid _ here]
        exact ⟨rfl, rfl⟩

end Unpaid

theorem step_pays (input : Input) : PaysAsRecorded data s input (step data s input) where
  paid := step_paid data s input
  unpaid := fun unpaid => ⟨unpaid_paying data s input unpaid, fun sid req asks => unpaid_moves_nothing data s sid input unpaid req asks⟩

end Payments

section Lives

variable (data : GameData)

theorem quest_life_cycle (targets : ∀ quest ∈ data.quests, 1 ≤ quest.target) (db : Database) (draw : Nat → Nat)
    (fresh : ∀ charUid, db.questProgress charUid = ∅) (inputs : List Input)
    (plays : Machine.Guarded (step data) playsQuests (boot db draw) inputs) :
    Machine.Throughout (step data) (QuestLife data) (boot db draw) inputs ∧
    (∀ (first : List Input) (input : Input) (rest : List Input), inputs = first ++ input :: rest → ∀ (charUid : CharUid) (questId : UInt16),
      StatusMove (statusOf ((Machine.run (step data) (boot db draw) first).db.questProgress charUid)[questId]?)
        (statusOf ((Machine.run (step data) (boot db draw) (first ++ [input])).db.questProgress charUid)[questId]?)) ∧
    (∀ (first : List Input) (input : Input) (rest : List Input), inputs = first ++ input :: rest →
      PaysAsRecorded data (Machine.run (step data) (boot db draw) first) input (Machine.run (step data) (boot db draw) (first ++ [input]))) ∧
    (∀ charUid questId, (eventsOf data (boot db draw) inputs).count (.paid charUid questId) ≤ 1) ∧
    ∀ (before after : List QuestEvent) charUid questId,
      eventsOf data (boot db draw) inputs = before ++ .paid charUid questId :: after →
        ∃ quest, data.findQuest questId = some quest ∧ ∃ start rest, before = start ++ .accepted charUid questId :: rest ∧
          quest.target.toNat ≤ rest.count (.stepped charUid) := by
  have whole := run_chronicled data targets db draw fresh inputs plays
  refine ⟨run_life data targets db draw fresh inputs plays, run_moves data targets db draw fresh inputs plays, ?_, ?_, ?_⟩
  · intro first input rest _
    rw [Machine.run_append]
    exact step_pays data _ input
  · intro charUid questId
    exact paid_at_most_once data _ whole.allowed charUid questId
  · intro before after charUid questId split
    have permitted := whole.allowed
    rw [split] at permitted
    exact paid_is_earned data targets before after charUid questId permitted

theorem quest_hunt_life :
    Machine.Throughout (step rewardData) (QuestLife rewardData) (boot twoCharacters (fun _ => 3)) questHunt ∧
      eventsOf rewardData (boot twoCharacters (fun _ => 3)) questHunt = [.accepted 1 1, .stepped 1, .paid 1 1] ∧
      RewardPaid rewardData hunter (step rewardData hunter ⟨.packet 1 (.questComplete ⟨1⟩), [], []⟩) 1 ⟨1, [81], 1, 50, 20, 1⟩ ∧
      ∀ other, (Machine.run (step rewardData) (boot twoCharacters (fun _ => 3)) questHunt).player other =
        (Machine.run (step rewardData) (boot twoCharacters (fun _ => 3)) (questHunt.take 14)).player other := by
  obtain ⟨life, _, pays, _⟩ :=
    quest_life_cycle rewardData (by decide) twoCharacters (fun _ => 3) (fun _ => rfl) questHunt (by decide +kernel)
  refine ⟨life, by decide +kernel, ?_, fun other => ?_⟩
  · have recorded : QuestEvent.paid 1 1 ∈ questEvents rewardData hunter ⟨.packet 1 (.questComplete ⟨1⟩), [], []⟩ := by decide +kernel
    obtain ⟨sid, quest, asks, _, known, paid⟩ := (pays (questHunt.take 8) _ (questHunt.drop 9) rfl).paid 1 1 recorded
    obtain ⟨rfl, _⟩ := Event.packet.inj asks
    obtain rfl := Option.some.inj known
    exact paid
  · have silent : questEvents rewardData (Machine.run (step rewardData) (boot twoCharacters (fun _ => 3)) (questHunt.take 14))
        ⟨.packet 2 (.questComplete ⟨1⟩), [], []⟩ = [] := by decide +kernel
    have refused := (pays (questHunt.take 14) ⟨.packet 2 (.questComplete ⟨1⟩), [], []⟩ [] rfl).unpaid
      (fun charUid questId event => by simp [silent] at event)
    exact (refused.2 2 ⟨1⟩ rfl other).1

end Lives

end MmorpgSimulator
