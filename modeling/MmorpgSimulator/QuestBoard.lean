import MmorpgSimulator.ProgressViews
import MmorpgSimulator.QuestFrame

set_option autoImplicit false

namespace MmorpgSimulator

def boardOf (data : GameData) (log : QuestLog) : List ScQuestEntry := (data.quests.take maxQuestList).map (questEntryOf log)

-- A session that can be written to. Its client, up to date with what was sent, shows
-- no quests yet or all of them as the server would list them.
structure Board (data : GameData) (clients : SessionId → Client) (sid : SessionId) (s : ServerState) : Prop where
  open_ : s.line sid = some true
  current : (shown clients s sid).questEntries = [] ∨ (shown clients s sid).questEntries = boardOf data (s.questLog sid)

def reportedEntry (progress target : UInt16) (entry : ScQuestEntry) : ScQuestEntry :=
  { entry with progress, target, status := if target ≤ progress then 2 else entry.status }

section Entries

variable (log : QuestLog) (questId : UInt16) (state : QuestProgress)

theorem quest_entry_other (quest : QuestData) (other : quest.id ≠ questId) :
    questEntryOf (log.insert questId state) quest = questEntryOf log quest := by
  simp [questEntryOf, Std.ExtTreeMap.getElem?_insert, Ne.symm other]

theorem quest_entry_self (quest : QuestData) (same : quest.id = questId) :
    questEntryOf (log.insert questId state) quest = ⟨quest.id, strncpyS quest.name 31, state.status, state.progress, quest.target⟩ := by
  simp [questEntryOf, same]

-- The client changes the first entry of that id, the server the only one.
theorem set_entry_listed (change : ScQuestEntry → ScQuestEntry) (quests : List QuestData) (distinct : (quests.map QuestData.id).Nodup)
    (agrees : ∀ quest ∈ quests, quest.id = questId → change (questEntryOf log quest) = questEntryOf (log.insert questId state) quest) :
    Client.setQuestEntry questId change (quests.map (questEntryOf log)) = quests.map (questEntryOf (log.insert questId state)) := by
  induction quests with
  | nil => rfl
  | cons quest quests ih =>
      obtain ⟨fresh, others⟩ := List.nodup_cons.mp distinct
      have later := ih others (fun other member => agrees other (List.mem_cons_of_mem quest member))
      have named : (questEntryOf log quest).questId = quest.id := rfl
      by_cases same : quest.id = questId
      · have still : quests.map (questEntryOf log) = quests.map (questEntryOf (log.insert questId state)) := by
          refine List.map_congr_left (fun other member => (quest_entry_other log questId state other ?_).symm)
          intro also
          exact fresh (same.trans also.symm ▸ List.mem_map_of_mem member)
        rw [List.map_cons, Client.setQuestEntry, named, if_pos same, agrees quest List.mem_cons_self same, still, List.map_cons]
      · rw [List.map_cons, Client.setQuestEntry, named, if_neg same, later, List.map_cons, quest_entry_other log questId state quest same]

end Entries

section Boards

variable {data : GameData} {clients : SessionId → Client} {sid : SessionId} {s t : ServerState}

theorem Board.unseen (board : Board data clients sid s) (quiet : Unseen Client.questEntries clients sid s t)
    (line : t.line sid = s.line sid) (log : boardOf data (t.questLog sid) = boardOf data (s.questLog sid)) : Board data clients sid t where
  open_ := line.trans board.open_
  current := by
    rw [show (shown clients t sid).questEntries = (shown clients s sid).questEntries from quiet, log]
    exact board.current

theorem Board.same (board : Board data clients sid s) (quiet : Unseen Client.questEntries clients sid s t)
    (line : t.line sid = s.line sid) (same : SameQuests s t) : Board data clients sid t :=
  board.unseen quiet line (by rw [same.logs])

theorem Board.written (board : Board data clients sid s) (distinct : (data.quests.map QuestData.id).Nodup)
    (quiet : Unseen Client.questEntries clients sid s t) (line : t.line sid = s.line sid) (questId : UInt16) (state : QuestProgress)
    (log : t.questLog sid = (s.questLog sid).insert questId state) (message : Message) (change : ScQuestEntry → ScQuestEntry)
    (tells : ∀ client : Client, (client.receive message).questEntries = Client.setQuestEntry questId change client.questEntries)
    (agrees : ∀ quest ∈ data.quests, quest.id = questId →
      change (questEntryOf (s.questLog sid) quest) = questEntryOf ((s.questLog sid).insert questId state) quest) :
    Board data clients sid (t.send sid message) := by
  refine ⟨line.trans board.open_, ?_⟩
  rw [shown_send clients message (line.trans board.open_), tells,
    show (shown clients t sid).questEntries = (shown clients s sid).questEntries from quiet]
  rcases board.current with nothing | current
  · exact .inl (by rw [nothing]; rfl)
  · refine .inr ?_
    have listed := distinct.sublist ((List.take_sublist maxQuestList data.quests).map QuestData.id)
    have written := set_entry_listed (s.questLog sid) questId state change (data.quests.take maxQuestList) listed
      (fun quest member => agrees quest (List.mem_of_mem_take member))
    rw [current]
    refine written.trans ?_
    rw [boardOf, show (t.send sid message).questLog sid = t.questLog sid from rfl, log]

end Boards

section Progress

variable {data : GameData} (distinct : (data.quests.map QuestData.id).Nodup) {clients : SessionId → Client} {sid : SessionId}
  (s : ServerState)

include distinct in
theorem find_quest_unique (quest found : QuestData) (member : quest ∈ data.quests) (known : data.findQuest quest.id = some found) :
    quest = found :=
  List.inj_on_of_nodup_map distinct member (find_quest_mem data quest.id found known) (find_quest_id data quest.id found known).symm

include distinct in
theorem update_quest_board (entry : UInt16 × QuestProgress) (stored : (s.questLog sid)[entry.1]? = some entry.2)
    (board : Board data clients sid s) : Board data clients sid (updateQuest data sid s entry) := by
  rw [updateQuest]
  by_cases moves : advances data entry = true
  · obtain ⟨accepted, known⟩ : entry.2.status = 1 ∧ (data.findQuest entry.1).isSome := by simpa [advances] using moves
    obtain ⟨found, known⟩ := Option.isSome_iff_exists.mp known
    rw [if_pos moves]
    refine board.written distinct (t := saveQuestProgress
      (s.setQuestLog sid ((s.questLog sid).insert entry.1 (progressed data entry.1 entry.2))) (s.player sid).charUid entry.1
      (progressed data entry.1 entry.2)) (unseen_same rfl) rfl entry.1 (progressed data entry.1 entry.2) (quest_log_set_self s sid _)
      (.questProgress { questId := entry.1, progress := (progressed data entry.1 entry.2).progress, target := targetOf data entry.1 })
      (reportedEntry (progressed data entry.1 entry.2).progress (targetOf data entry.1)) (fun client => rfl) (fun quest member same => ?_)
    have unique : quest = found := find_quest_unique distinct quest found member (same ▸ known)
    subst unique
    have target : targetOf data entry.1 = quest.target := by rw [targetOf, known]; rfl
    have moved : progressed data entry.1 entry.2 =
        ⟨if quest.target ≤ entry.2.progress + 1 then 2 else 1, entry.2.progress + 1⟩ := by
      rw [progressed, known]
      exact if_neg (not_not.mpr accepted)
    rw [quest_entry_self _ _ _ quest same, questEntryOf, same, stored, target, moved, Option.getD_some, accepted, reportedEntry]
  · rwa [if_neg moves]

-- The loop of UpdateQuestProgress: entries still to come are as they were at its start.
include distinct in
theorem update_quests_board (entries : List (UInt16 × QuestProgress)) (keys : (entries.map Prod.fst).Nodup)
    (stored : ∀ entry ∈ entries, (s.questLog sid)[entry.1]? = some entry.2) (board : Board data clients sid s) :
    Board data clients sid (entries.foldl (updateQuest data sid) s) := by
  induction entries generalizing s with
  | nil => exact board
  | cons entry entries ih =>
      obtain ⟨fresh, others⟩ := List.nodup_cons.mp keys
      have here := stored entry List.mem_cons_self
      refine ih (updateQuest data sid s entry) others (fun later member => ?_) (update_quest_board distinct s entry here board)
      have apart : entry.1 ≠ later.1 := fun same => fresh (same ▸ List.mem_map_of_mem member)
      rw [update_quest_self data sid s entry here later.1, if_neg apart]
      exact stored later (List.mem_cons_of_mem entry member)

theorem update_quest_elsewhere (owner : SessionId) (apart : sid ≠ owner) (entry : UInt16 × QuestProgress) :
    Unseen Client.questEntries clients sid s (updateQuest data owner s entry) := by
  rw [updateQuest]
  split
  · exact (unseen_same (by rfl)).trans (send_unseen owner _ apart)
  · exact unseen_same rfl

include distinct in
theorem update_quest_progress_board (owner : SessionId) (board : Board data clients sid s) :
    Board data clients sid (updateQuestProgress data s owner) := by
  by_cases own : sid = owner
  · subst own
    have touched : Board data clients sid (s.touchQuestLog sid) := board.unseen (unseen_same rfl) rfl (by rw [quest_log_touch])
    refine update_quests_board distinct _ _ ?_ (fun entry member => ?_) touched
    · rw [Std.ExtTreeMap.map_fst_toList_eq_keys]
      exact Std.ExtTreeMap.nodup_keys
    · exact Std.ExtTreeMap.mem_toList_iff_getElem?_eq_some.mp member
  · have quiet : Unseen Client.questEntries clients sid s (updateQuestProgress data s owner) :=
      Machine.foldl_keeps (updateQuest data owner) (Unseen Client.questEntries clients sid s)
        (fun t entry before => before.trans (update_quest_elsewhere t owner own entry)) _ _ (unseen_same rfl)
    exact board.unseen quiet (line_same s _ (update_quest_progress_sessions data owner s) sid)
      (by rw [update_quest_progress_other data owner s sid own])

theorem credit_kill_board (mid : SessionId) (exp gold : UInt32) (board : Board data clients sid s) :
    Board data clients sid (creditKill s mid exp gold) :=
  board.same (credit_kill_unseen (fun _ _ => rfl) (fun _ _ => rfl) s mid exp gold)
    (line_set_player (s.setPlayer mid (rewarded (s.player mid) exp gold)) mid sid _ |>.trans (line_set_player s mid sid _))
    (credit_kill_same (SameQuests.refl s) mid exp gold)

include distinct in
theorem credit_member_board (killer mid : SessionId) (exp gold : UInt32) (board : Board data clients sid s) :
    Board data clients sid (creditMember data killer exp gold s mid) := by
  have credited := credit_kill_board s mid exp gold board
  rw [creditMember]
  split
  · exact board
  · split
    · exact update_quest_progress_board distinct _ mid credited
    · exact credited

include distinct in
theorem share_kill_board (killer : SessionId) (npc : Npc) (board : Board data clients sid s) :
    Board data clients sid (shareKill data s killer npc) := by
  rw [shareKill]
  split
  · exact Machine.foldl_keeps _ (Board data clients sid) (fun t mid before => credit_member_board distinct t killer mid _ _ before) _ _
      (board.unseen (unseen_same rfl) rfl rfl)
  · exact credit_kill_board s killer _ _ board

end Progress

end MmorpgSimulator
