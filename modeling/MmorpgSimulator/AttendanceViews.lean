import MmorpgSimulator.ProgressViews
import MmorpgSimulator.Bystanders
import MmorpgSimulator.AttendanceChecks

set_option autoImplicit false

namespace MmorpgSimulator

section Rewards

variable (data : GameData) (scene : Scene) (input : Input)

def Rewarded (sid : SessionId) (reward : UInt32) : Prop :=
  requesting scene.server input = some (sid, .attendanceCheck) ∧ (scene.server.player sid).loggedIn = true ∧
    ∃ success, success ≠ 0 ∧
      Message.attendanceResult { success, rewardGold := reward } ∈ inbox (sceneStep data scene input).server.sent sid

def Everyday (input : Input) : Prop :=
  ∃ sid request, input.event = .packet sid request ∧ Gameplay request

def statedGold (own : AccountUid) : Message → Option UInt64
  | .charInfo info => if info.charUid = own then some info.gold else none
  | .shopResult result => some result.remainGold
  | _ => none

-- The reward arrives in the three purses at once, and what a later message states
-- is the old purse, the reward and what the requests since then have changed.
structure RewardSettled (after : List Input) (sid : SessionId) (reward : UInt32) : Prop where
  stored : ∀ row, scene.server.db.character (scene.server.player sid).charUid = some row →
    ((sceneStep data scene input).server.db.character (scene.server.player sid).charUid).map CharacterRow.gold =
      some (row.gold + reward.toUInt64.toInt64)
  held : (sceneStep data scene input).server.gold sid = scene.server.gold sid + reward.toUInt64
  displayed : shownGold ((sceneStep data scene input).clients sid) = shownGold (scene.clients sid) + reward.toUInt64
  kept : ∀ between later rest, after = between ++ later :: rest → (∀ other ∈ between ++ [later], Everyday other) →
    ∀ message ∈ inbox (Machine.run (sceneStep data) (sceneStep data scene input) (between ++ [later])).server.sent sid,
      ∀ stated ∈ statedGold (scene.server.player sid).accountUid message,
        stated + (sceneStep data scene input).server.gold sid = scene.server.gold sid + reward.toUInt64 +
          (Machine.run (sceneStep data) (sceneStep data scene input) (between ++ [later])).server.gold sid

def RewardsAgree (inputs : List Input) : Prop :=
  ∀ before check after, inputs = before ++ check :: after → ∀ sid reward,
    Rewarded data (Machine.run (sceneStep data) scene before) check sid reward →
      RewardSettled data (Machine.run (sceneStep data) scene before) check after sid reward

-- No check of a connected session in the game gets through to the database, unless
-- its character has been there today.
def collectsNothing : Prop :=
  ∀ sid, requesting scene.server input = some (sid, .attendanceCheck) → (scene.server.player sid).loggedIn = true →
    scene.server.line sid = some true → (scene.facing input).outcome = .ok →
      scene.server.db.attended (scene.server.player sid).charUid = true

variable (sid : SessionId)

theorem check_acts (asks : requesting scene.server input = some (sid, .attendanceCheck)) :
    (sceneStep data scene input).server = onAttendanceCheck (scene.facing input) sid :=
  (step_requesting data { scene.server with sent := [] } input sid .attendanceCheck asks).2.2

theorem check_gold (asks : requesting scene.server input = some (sid, .attendanceCheck)) :
    (sceneStep data scene input).server.gold sid = scene.server.gold sid := by
  rw [check_acts data scene input sid asks]
  rfl

theorem check_row (s : ServerState) (charUid : CharUid) :
    (s.procReply (fun db => some (db.spAttendanceCheck charUid))).row.getD (0, 0) =
      if s.outcome = .ok ∧ s.db.attended charUid = false then (1, 100) else (0, 0) := by
  rw [ServerState.procReply, Database.spAttendanceCheck]
  cases s.outcome <;> cases s.db.attended charUid <;> rfl

def checkReply (s : ServerState) : ScAttendanceResult :=
  if s.outcome = .ok ∧ s.db.attended (s.player sid).charUid = false then ⟨1, 100⟩ else ⟨0, 0⟩

theorem on_attendance_check_sent (s : ServerState) :
    (onAttendanceCheck s sid).sent = s.sent ++ s.deliver sid (.attendanceResult (checkReply sid s)) := by
  have row := check_row s (s.player sid).charUid
  have reply : checkReply sid s = ⟨((s.procReply (fun db => some (db.spAttendanceCheck (s.player sid).charUid))).row.getD (0, 0)).1,
      ((s.procReply (fun db => some (db.spAttendanceCheck (s.player sid).charUid))).row.getD (0, 0)).2⟩ := by
    rw [row, checkReply]
    split <;> rfl
  rw [reply]
  rfl

theorem on_attendance_check_db (s : ServerState) (ok : s.outcome = .ok) (absent : s.db.attended (s.player sid).charUid = false) :
    (onAttendanceCheck s sid).db.character (s.player sid).charUid =
      ({ s.db with characters := s.db.characters.addGold (s.player sid).charUid 100 } : Database).character (s.player sid).charUid := by
  have stored : (onAttendanceCheck s sid).db = s.procDb (fun db => some (db.spAttendanceCheck (s.player sid).charUid)) := rfl
  rw [stored, ServerState.procDb, ok, Database.spAttendanceCheck, absent]
  rfl

theorem check_inbox (asks : requesting scene.server input = some (sid, .attendanceCheck)) (message : Message) :
    message ∈ inbox (sceneStep data scene input).server.sent sid ↔
      scene.server.line sid = some true ∧ message = .attendanceResult (checkReply sid (scene.facing input)) := by
  have line : (scene.facing input).line sid = scene.server.line sid := rfl
  have unsent : (scene.facing input).sent = [] := rfl
  rw [check_acts data scene input sid asks, on_attendance_check_sent, unsent, List.nil_append, inbox_deliver, line]
  by_cases open_ : scene.server.line sid = some true
  · rw [if_pos ⟨rfl, open_⟩, List.mem_singleton, and_iff_right open_]
  · simp [open_]

theorem rewarded_iff (reward : UInt32) : Rewarded data scene input sid reward ↔
    requesting scene.server input = some (sid, .attendanceCheck) ∧ (scene.server.player sid).loggedIn = true ∧
      scene.server.line sid = some true ∧ (scene.facing input).outcome = .ok ∧
        scene.server.db.attended (scene.server.player sid).charUid = false ∧ reward = 100 := by
  rw [Rewarded]
  refine and_congr_right (fun asks => and_congr_right (fun _ => ?_))
  simp only [check_inbox data scene input sid asks, Message.attendanceResult.injEq]
  by_cases pays : (scene.facing input).outcome = .ok ∧ scene.server.db.attended (scene.server.player sid).charUid = false
  · have reply : checkReply sid (scene.facing input) = ⟨1, 100⟩ := if_pos pays
    simp [reply, pays]
  · have reply : checkReply sid (scene.facing input) = ⟨0, 0⟩ := if_neg pays
    rw [reply]
    constructor
    · rintro ⟨success, paid, _, result⟩
      exact absurd (congrArg ScAttendanceResult.success result) paid
    · rintro ⟨_, ok, absent, _⟩
      exact absurd ⟨ok, absent⟩ pays

theorem collects_nothing_iff : collectsNothing scene input ↔ ∀ sid reward, ¬ Rewarded data scene input sid reward := by
  simp only [collectsNothing, rewarded_iff]
  constructor
  · rintro nothing sid reward ⟨asks, inGame, open_, ok, absent, _⟩
    exact absurd (nothing sid asks inGame open_ ok) (by simp [absent])
  · intro none sid asks inGame open_ ok
    by_contra absent
    exact none sid 100 ⟨asks, inGame, open_, ok, by simpa using absent, rfl⟩

theorem reward_unsettled (after : List Input) (reward : UInt32) (rewarded : Rewarded data scene input sid reward) :
    ¬ RewardSettled data scene input after sid reward := by
  intro settled
  obtain ⟨asks, _, _, _, _, rfl⟩ := (rewarded_iff data scene input sid reward).mp rewarded
  have raised := settled.held
  rw [check_gold data scene input sid asks] at raised
  have nothing : (0 : UInt64) = UInt32.toUInt64 100 := (UInt64.add_right_inj _).mp ((UInt64.add_zero _).trans raised)
  exact absurd nothing (by decide)

theorem rewarded_effect (reward : UInt32) (rewarded : Rewarded data scene input sid reward) :
    ((sceneStep data scene input).server.db.character (scene.server.player sid).charUid).map CharacterRow.gold =
        (scene.server.db.character (scene.server.player sid).charUid).map (fun row => row.gold + reward.toUInt64.toInt64) ∧
      (sceneStep data scene input).server.gold sid = scene.server.gold sid ∧
        shownGold ((sceneStep data scene input).clients sid) = shownGold (scene.clients sid) + reward.toUInt64 := by
  obtain ⟨asks, _, open_, ok, absent, rfl⟩ := (rewarded_iff data scene input sid reward).mp rewarded
  have unsent : (scene.facing input).sent = [] := rfl
  have line : (scene.facing input).line sid = scene.server.line sid := rfl
  have reply : checkReply sid (scene.facing input) = ⟨1, 100⟩ := if_pos ⟨ok, absent⟩
  refine ⟨?_, check_gold data scene input sid asks, ?_⟩
  · have raised := (on_attendance_check_db sid (scene.facing input) ok absent).trans (gold_added _ _ _)
    rw [check_acts data scene input sid asks]
    refine (congrArg (Option.map CharacterRow.gold) raised).trans ?_
    rw [Option.map_map]
    exact Option.map_congr (fun row found => if_pos (character_uid _ _ row found))
  · have clients : (sceneStep data scene input).clients = shown scene.clients (onAttendanceCheck (scene.facing input) sid) :=
      congrArg (shown scene.clients) (check_acts data scene input sid asks)
    rw [clients, shown, on_attendance_check_sent, unsent, List.nil_append, inbox_deliver, line, if_pos ⟨rfl, open_⟩, reply]
    rfl

end Rewards

section Runs

variable (data : GameData) (scene : Scene)

theorem rewards_agree_iff (inputs : List Input) :
    RewardsAgree data scene inputs ↔ Machine.Guarded (sceneStep data) collectsNothing scene inputs := by
  rw [Machine.guarded_iff_each]
  constructor
  · intro agree before check after split
    rw [collects_nothing_iff data]
    exact fun sid reward rewarded => reward_unsettled data _ check sid after reward rewarded (agree before check after split sid reward rewarded)
  · intro nothing before check after split sid reward rewarded
    exact absurd rewarded ((collects_nothing_iff data _ check).mp (nothing before check after split) sid reward)

def rewardThenPurchase : List Input := [⟨.packet 1 .attendanceCheck, [], []⟩, ⟨.packet 1 (.shopBuy ⟨1⟩), [], []⟩]

theorem reward_taken_back : ¬ RewardsAgree emptyData hermit rewardThenPurchase ∧
    (Machine.run (sceneStep emptyData) hermit rewardThenPurchase).server.db.characters.rows.map CharacterRow.gold = [100, 0] ∧
      (Machine.run (sceneStep emptyData) hermit rewardThenPurchase).server.gold 1 = 0 ∧
        shownGold ((sceneStep emptyData hermit ⟨.packet 1 .attendanceCheck, [], []⟩).clients 1) = 100 ∧
          shownGold ((Machine.run (sceneStep emptyData) hermit rewardThenPurchase).clients 1) = 0 := by
  constructor
  · intro agree
    have rewarded : Rewarded emptyData hermit ⟨.packet 1 .attendanceCheck, [], []⟩ 1 100 :=
      (rewarded_iff emptyData hermit _ 1 100).mpr (by decide +kernel)
    exact reward_unsettled emptyData hermit _ 1 _ 100 rewarded (agree [] _ _ rfl 1 100 rewarded)
  · decide +kernel

end Runs

end MmorpgSimulator
