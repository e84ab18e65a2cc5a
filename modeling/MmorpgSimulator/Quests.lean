import MmorpgSimulator.Items

set_option autoImplicit false

namespace MmorpgSimulator

def loadQuestProgress (s : ServerState) (sid : SessionId) : ServerState :=
  let call := s.executeProc (fun db => some (db, db.spQuestLoad (s.player sid).charUid))
  call.1.setQuestLog sid (call.2.row.getD ∅)

def saveQuestProgress (s : ServerState) (charUid : CharUid) (questId : UInt16) (state : QuestProgress) : ServerState :=
  (s.executeProc (fun db => some (db.spQuestSave charUid questId state, ()))).1

def isNearQuestNpc (player : PlayerData) : Bool :=
  (player.posX.toInt - questNpcX.toInt).natAbs ≤ 1 ∧ (player.posY.toInt - questNpcY.toInt).natAbs ≤ 1

def questEntryOf (qp : QuestLog) (quest : QuestData) : ScQuestEntry :=
  let state := (qp[quest.id]?).getD {}
  ⟨quest.id, strncpyS quest.name 31, state.status, state.progress, quest.target⟩

def onQuestList (data : GameData) (s : ServerState) (sid : SessionId) : ServerState :=
  if !isNearQuestNpc (s.player sid) then s.send sid (.error { errorCode := 3, message := text "Not near Quest NPC" })
  else
    let s := s.touchQuestLog sid
    s.send sid (.questList { quests := (data.quests.take maxQuestList).map (questEntryOf (s.questLog sid)) })

def onQuestAccept (data : GameData) (s : ServerState) (sid : SessionId) (req : CsQuestAccept) : ServerState :=
  let refuse (s : ServerState) (reason : String) :=
    s.send sid (.questAcceptResult { questId := req.questId, message := text reason })
  if !isNearQuestNpc (s.player sid) then refuse s "Not near Quest NPC"
  else
    match data.findQuest req.questId with
    | none => refuse s "Quest not found"
    | some _ =>
        let state := ((s.questLog sid)[req.questId]?).getD {}
        let s := s.setQuestLog sid ((s.questLog sid).insertIfNew req.questId {})
        if state.status = 1 ∨ state.status = 2 then refuse s "Already accepted"
        else if state.status = 3 then refuse s "Already completed"
        else
          let s := s.setQuestLog sid ((s.questLog sid).insert req.questId ⟨1, 0⟩)
          let s := saveQuestProgress s (s.player sid).charUid req.questId ⟨1, 0⟩
          s.send sid (.questAcceptResult { success := 1, questId := req.questId, message := text "Quest accepted!" })

def payQuest (player : PlayerData) (quest : QuestData) : PlayerData :=
  { player with gold := player.gold + quest.rewardGold.toUInt64, exp := player.exp + quest.rewardExp.toUInt64 }

def onQuestComplete (data : GameData) (s : ServerState) (sid : SessionId) (req : CsQuestComplete) : ServerState :=
  let refuse (s : ServerState) (reason : String) :=
    s.send sid (.questReward { questId := req.questId, message := text reason })
  if !isNearQuestNpc (s.player sid) then refuse s "Not near Quest NPC"
  else
    match data.findQuest req.questId with
    | none => refuse s "Quest not found"
    | some quest =>
        let s := s.touchQuestLog sid
        match (s.questLog sid)[req.questId]? with
        | none => refuse s "Quest not completable"
        | some state =>
            if state.status ≠ 2 then refuse s "Quest not completable"
            else
              let s := s.setQuestLog sid ((s.questLog sid).insert req.questId { state with status := 3 })
              let s := saveQuestProgress s (s.player sid).charUid req.questId { state with status := 3 }
              let s := s.setPlayer sid (payQuest (s.player sid) quest)
              let s := if quest.rewardItemId > 0 then giveItem data s sid quest.rewardItemId else s
              let player := s.player sid
              let s := s.send sid (.expUpdate { exp := player.exp.toUInt32, maxExp := player.maxExp })
              let s := checkLevelUp s sid
              let s := sendCharInfo s sid
              s.send sid (.questReward
                { success := 1, questId := req.questId, rewardGold := quest.rewardGold, rewardExp := quest.rewardExp,
                  rewardItemId := quest.rewardItemId, message := text "Quest completed!" })

def progressed (data : GameData) (questId : UInt16) (state : QuestProgress) : QuestProgress :=
  match data.findQuest questId with
  | none => state
  | some quest =>
      if state.status ≠ 1 then state
      else ⟨if quest.target ≤ state.progress + 1 then 2 else 1, state.progress + 1⟩

def advances (data : GameData) (entry : UInt16 × QuestProgress) : Bool :=
  entry.2.status = 1 ∧ (data.findQuest entry.1).isSome

def targetOf (data : GameData) (questId : UInt16) : UInt16 := ((data.findQuest questId).map QuestData.target).getD 0

def updateQuest (data : GameData) (sid : SessionId) (s : ServerState) (entry : UInt16 × QuestProgress) : ServerState :=
  if advances data entry then
    let state := progressed data entry.1 entry.2
    let s := s.setQuestLog sid ((s.questLog sid).insert entry.1 state)
    let s := saveQuestProgress s (s.player sid).charUid entry.1 state
    s.send sid (.questProgress { questId := entry.1, progress := state.progress, target := targetOf data entry.1 })
  else s

-- The loop rewrites values in place and never adds or removes a key, so it runs
-- over the entries the map had at its start.
def updateQuestProgress (data : GameData) (s : ServerState) (sid : SessionId) : ServerState :=
  let s := s.touchQuestLog sid
  (s.questLog sid).toList.foldl (updateQuest data sid) s

end MmorpgSimulator
