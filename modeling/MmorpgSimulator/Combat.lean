import MmorpgSimulator.Social

set_option autoImplicit false

namespace MmorpgSimulator

def withinReach (npc : Npc) (player : PlayerData) : Prop :=
  (npc.posX.toInt - player.posX.toInt).natAbs ≤ 1 ∧ (npc.posY.toInt - player.posY.toInt).natAbs ≤ 1

instance (npc : Npc) (player : PlayerData) : Decidable (withinReach npc player) := inferInstanceAs (Decidable (_ ∧ _))

-- The search stops at the first living NPC with the uid, in reach or not.
def findTarget (s : ServerState) (player : PlayerData) (targetUid : NpcUid) : Option (Fin maxNpc) :=
  ((List.finRange maxNpc).find? (fun index => (getElem s.npcs index index.isLt).alive ∧ (getElem s.npcs index index.isLt).uid = targetUid)).filter
    (fun index => withinReach (getElem s.npcs index index.isLt) player)

def damageTo (player : PlayerData) (npc : Npc) : UInt16 :=
  if npc.defense < player.atk then player.atk - npc.defense else 1

def struck (player : PlayerData) (npc : Npc) : Npc :=
  { npc with hp := if damageTo player npc < npc.hp then npc.hp - damageTo player npc else 0 }

def setNpc (s : ServerState) (index : Fin maxNpc) (npc : Npc) : ServerState := { s with npcs := s.npcs.set index npc index.isLt }

def rewarded (player : PlayerData) (exp gold : UInt32) : PlayerData :=
  { player with exp := player.exp + exp.toUInt64, gold := player.gold + gold.toUInt64 }

def creditKill (s : ServerState) (sid : SessionId) (exp gold : UInt32) : ServerState :=
  let player := rewarded (s.player sid) exp gold
  let s := s.setPlayer sid player
  let s := s.send sid (.expUpdate { exp := player.exp.toUInt32, maxExp := player.maxExp })
  checkLevelUp s sid

def creditMember (data : GameData) (sid : SessionId) (exp gold : UInt32) (s : ServerState) (mid : SessionId) : ServerState :=
  if mid ∉ s.sessions then s
  else
    let s := creditKill s mid exp gold
    if mid ≠ sid then updateQuestProgress data s mid else s

def shareKill (data : GameData) (s : ServerState) (sid : SessionId) (npc : Npc) : ServerState :=
  match s.party.playerParty[sid]? with
  | some partyId =>
      let s := s.touchParty partyId
      let members := s.party.membersOf partyId
      let n := UInt32.ofNat members.length
      let s := s.fail (n = 0) .divideByZero
      members.foldl (creditMember data sid (npc.expReward / n) (npc.goldReward / n)) s
  | none => creditKill s sid npc.expReward npc.goldReward

def dropItem (data : GameData) (s : ServerState) (sid : SessionId) : ServerState :=
  let rolled := rollDrop data s
  if rolled.2 ≠ 0 then giveItem data rolled.1 sid rolled.2 else rolled.1

def respawn (s : ServerState) : ServerState :=
  match (List.finRange maxNpc).find? (fun index => !(getElem s.npcs index index.isLt).alive) with
  | none => s
  | some index => spawnNpc s index

-- SC_NPC_DEATH goes out before the NPC is marked dead.
def announceDeath (s : ServerState) (index : Fin maxNpc) : ServerState :=
  let npc := getElem s.npcs index index.isLt
  let s := s.broadcast (.npcDeath { npcUid := npc.uid, expReward := npc.expReward, goldReward := npc.goldReward })
  setNpc s index { npc with alive := false }

def killNpc (data : GameData) (s : ServerState) (sid : SessionId) (index : Fin maxNpc) : ServerState :=
  let npc := getElem s.npcs index index.isLt
  let s := announceDeath s index
  let s := shareKill data s sid npc
  let s := updateQuestProgress data s sid
  let s := dropItem data s sid
  respawn s

def strike (s : ServerState) (sid : SessionId) (index : Fin maxNpc) : ServerState :=
  let player := s.player sid
  let npc := struck player (getElem s.npcs index index.isLt)
  let s := setNpc s index npc
  s.send sid (.attackResult { success := 1, targetUid := npc.uid, damage := damageTo player npc, targetHp := npc.hp })

def onAttack (data : GameData) (s : ServerState) (sid : SessionId) (atk : CsAttack) : ServerState :=
  let player := s.player sid
  match findTarget s player atk.targetUid with
  | none => s.send sid (.attackResult { success := 0 })
  | some index =>
      if (struck player (getElem s.npcs index index.isLt)).hp = 0 then killNpc data (strike s sid index) sid index else strike s sid index

end MmorpgSimulator
