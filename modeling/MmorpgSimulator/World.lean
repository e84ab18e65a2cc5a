import MmorpgSimulator.ServerState

set_option autoImplicit false

namespace MmorpgSimulator

def npcSpawnOf (npc : Npc) : ScNpcSpawn :=
  { npcUid := npc.uid, posX := npc.posX, posY := npc.posY, hp := npc.hp, maxHp := npc.maxHp }

-- npcs[index].posX is drawn before posY; atk, def and the rewards stay as they were.
def spawnNpc (s : ServerState) (index : Fin maxNpc) : ServerState :=
  let posX := Int16.ofNat (s.rand % mapSize)
  let s := s.rolled
  let posY := Int16.ofNat (s.rand % mapSize)
  let s := s.rolled
  let npc : Npc := { s.npcs[index] with uid := s.nextNpcUid, posX, posY, hp := 30, maxHp := 30, alive := true }
  let s := { s with npcs := s.npcs.set index npc, nextNpcUid := s.nextNpcUid + 1 }
  s.broadcast (.npcSpawn (npcSpawnOf npc))

def sendAllNpcs (s : ServerState) (sid : SessionId) : ServerState :=
  s.sendAll sid ((s.npcs.toList.filter Npc.alive).map (fun npc => .npcSpawn (npcSpawnOf npc)))

def sendCharInfo (s : ServerState) (sid : SessionId) : ServerState :=
  let player := s.player sid
  s.send sid (.charInfo
    { charUid := player.accountUid, level := player.level, exp := player.exp.toUInt32, posX := player.posX, posY := player.posY,
      hp := player.hp, maxHp := player.maxHp, gold := player.gold })

def charInfoOf (player : PlayerData) : ScCharInfo :=
  { charUid := player.accountUid, name := strncpyS player.name 31, level := player.level, posX := player.posX,
    posY := player.posY, hp := player.hp, maxHp := player.maxHp }

def sendOtherPlayers (s : ServerState) (sid : SessionId) : ServerState :=
  let others := s.inGame.filter (fun other => other ≠ sid)
  let s := s.sendAll sid (others.map (fun other => .charInfo (charInfoOf (s.player other))))
  s.broadcastExcept sid (.charInfo (charInfoOf (s.player sid)))

-- One turn of the loop in CheckLevelUp, in the arithmetic of the fields' types.
def levelOnce (player : PlayerData) : PlayerData :=
  { player with
    exp := player.exp - player.maxExp.toUInt64
    level := player.level + 1
    maxHp := player.maxHp + 20
    hp := player.maxHp + 20
    atk := player.atk + 3
    defense := player.defense + 2
    maxExp := (player.level + 1).toUInt32 * 100 }

def levelUpOf (player : PlayerData) : ScLevelUp :=
  { level := player.level, hp := player.hp, maxHp := player.maxHp, atk := player.atk, defense := player.defense }

def levelDue (player : PlayerData) : Prop := player.maxExp.toUInt64 ≤ player.exp

instance (player : PlayerData) : Decidable (levelDue player) := inferInstanceAs (Decidable (_ ≤ _))

-- Experience falls in every turn except where level wrapped to 0 and made
-- maxExp 0; such a turn is followed by one with maxExp above 0.
def levelWork (player : PlayerData) : Nat :=
  3 * player.exp.toNat + (if player.maxExp ≠ 0 then 0 else if player.level = 65535 then 2 else 1)

theorem max_exp_zero_iff (level : UInt16) : level.toUInt32 * 100 = 0 ↔ level = 0 := by
  have bound := level.toNat_lt
  rw [← UInt32.toNat_inj, ← UInt16.toNat_inj]
  simp only [UInt32.toNat_mul, UInt16.toNat_toUInt32, UInt32.toNat_ofNat, UInt16.toNat_ofNat]
  omega

theorem level_wraps_iff (level : UInt16) : level + 1 = 0 ↔ level = 65535 := by
  have bound := level.toNat_lt
  rw [← UInt16.toNat_inj, ← UInt16.toNat_inj]
  simp only [UInt16.toNat_add, UInt16.toNat_ofNat]
  omega

theorem level_once_decreases (player : PlayerData) (due : levelDue player) : levelWork (levelOnce player) < levelWork player := by
  have less : (levelOnce player).exp.toNat = player.exp.toNat - player.maxExp.toNat := by
    simp only [levelOnce]
    rw [UInt64.toNat_sub_of_le _ _ due, UInt32.toNat_toUInt64]
  have enough : player.maxExp.toNat ≤ player.exp.toNat := by
    simpa [levelDue, UInt64.le_iff_toNat_le] using due
  by_cases zero : player.maxExp = 0
  · have sameExp : player.maxExp.toNat = 0 := by simp [zero]
    by_cases last : player.level = 65535
    · have wrapped : (levelOnce player).maxExp = 0 ∧ (levelOnce player).level ≠ 65535 := by
        simp [levelOnce, last]
      simp only [levelWork, less, zero, last, wrapped, ne_eq, not_true_eq_false, if_true, if_false]
      omega
    · have nonzero : (levelOnce player).maxExp ≠ 0 := by
        simp only [levelOnce, ne_eq, max_exp_zero_iff, level_wraps_iff]
        exact last
      simp only [levelWork, less, zero, last, nonzero, ne_eq, not_true_eq_false, not_false_eq_true, if_true, if_false]
      omega
  · have positive : player.maxExp.toNat ≠ 0 := fun same => zero (UInt32.toNat_inj.mp (by simpa using same))
    simp only [levelWork, less, zero, ne_eq, not_false_eq_true, if_true]
    split
    · omega
    · split <;> omega

-- CheckLevelUp's loop: the player it ends with and the SC_LEVEL_UP of each turn.
def levelUps (player : PlayerData) : PlayerData × List ScLevelUp :=
  if _due : levelDue player then
    ((levelUps (levelOnce player)).1, levelUpOf (levelOnce player) :: (levelUps (levelOnce player)).2)
  else (player, [])
termination_by levelWork player
decreasing_by all_goals exact level_once_decreases player _due

def levelled (player : PlayerData) : PlayerData := (levelUps player).1

theorem levelled_frame {View : Type} (view : PlayerData → View) (frame : ∀ player, view (levelOnce player) = view player)
    (player : PlayerData) : view (levelled player) = view player := by
  unfold levelled
  induction player using levelUps.induct with
  | case1 player due ih =>
      rw [levelUps, dif_pos due]
      exact ih.trans (frame player)
  | case2 player rest => rw [levelUps, dif_neg rest]

theorem levelled_gold (player : PlayerData) : (levelled player).gold = player.gold :=
  levelled_frame PlayerData.gold (fun _ => rfl) player

def checkLevelUp (s : ServerState) (sid : SessionId) : ServerState :=
  let turns := levelUps (s.player sid)
  (s.setPlayer sid turns.1).sendAll sid (turns.2.map Message.levelUp)

def onMove (s : ServerState) (sid : SessionId) (move : CsMove) : ServerState :=
  let player := s.player sid
  let newX := player.posX + move.dirX.toInt16
  let newY := player.posY + move.dirY.toInt16
  let player :=
    if 0 ≤ newX ∧ newX < 20 ∧ 0 ≤ newY ∧ newY < 20 then { player with posX := newX, posY := newY } else player
  let s := s.setPlayer sid player
  let s := s.send sid (.moveResult { success := 1, posX := player.posX, posY := player.posY })
  s.broadcastExcept sid (.charInfo (charInfoOf player))

def pickDrop (roll : Int) : Int → List DropEntry → UInt16
  | _, [] => 0
  | acc, entry :: rest => if roll < acc + entry.weight then entry.itemId else pickDrop roll (acc + entry.weight) rest

def rollDrop (data : GameData) (s : ServerState) : ServerState × UInt16 :=
  if data.dropTable.isEmpty then (s, 0)
  else
    (s.rolled.fail (data.totalWeight = 0) .moduloByZero,
      pickDrop ((s.rand : Int).tmod data.totalWeight) 0 data.dropTable)

end MmorpgSimulator
