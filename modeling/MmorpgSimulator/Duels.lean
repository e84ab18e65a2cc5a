import MmorpgSimulator.NpcMirrors
import MmorpgSimulator.CombatStats

set_option autoImplicit false

namespace MmorpgSimulator

def positionOf (player : PlayerData) : Int16 × Int16 := (player.posX, player.posY)

section KillerState

variable (data : GameData) (s : ServerState) (sid : SessionId)

-- A kill outside a party leaves these as they are.
def killerState : Option Fault × List Nat × PartyState × (Int16 × Int16) × Prop :=
  (s.fault, s.rolls, s.party, positionOf (s.player sid), sid ∈ s.sessions)

theorem update_quest_progress_killer_state (mid : SessionId) : killerState (updateQuestProgress data s mid) sid = killerState s sid := by
  refine Machine.foldl_frame (updateQuest data mid) (fun t => killerState t sid) (fun t entry => ?_) _ _
  rw [updateQuest]
  split <;> rfl

theorem credit_kill_killer_state (exp gold : UInt32) (here : sid ∈ s.sessions) : killerState (creditKill s sid exp gold) sid = killerState s sid := by
  have place : positionOf ((creditKill s sid exp gold).player sid) = positionOf (s.player sid) := by
    rw [credit_kill_player s sid exp gold here]
    exact levelled_frame positionOf (fun _ => rfl) _
  have stays : (sid ∈ (creditKill s sid exp gold).sessions) = (sid ∈ s.sessions) := propext (mem_credit_kill s sid sid exp gold)
  rw [killerState, place, stays]
  rfl

theorem after_death_killer_state (index : Fin maxNpc) (here : sid ∈ s.sessions) (alone : s.party.playerParty[sid]? = none)
    (nothing : data.dropTable = []) : killerState (afterDeath data s sid index) sid = killerState s sid := by
  have drops (t : ServerState) : dropItem data t sid = t := by simp [dropItem, rollDrop, nothing]
  have shared : shareKill data (announceDeath s index) sid (getElem s.npcs index index.isLt) =
      creditKill (announceDeath s index) sid (getElem s.npcs index index.isLt).expReward (getElem s.npcs index index.isLt).goldReward := by
    rw [shareKill, show (announceDeath s index).party.playerParty[sid]? = none from alone]
  rw [afterDeath, drops, update_quest_progress_killer_state, shared, credit_kill_killer_state (announceDeath s index) sid _ _ here]
  rfl

end KillerState

section Duels

variable (data : GameData) (sid : SessionId) (column row : Nat)

def square : Int16 × Int16 := (Int16.ofNat (column % mapSize), Int16.ofNat (row % mapSize))

-- A session outside any party stands where the first NPC does.
structure Duel (uid next : NpcUid) (s : ServerState) : Prop where
  alive : s.fault = none
  here : sid ∈ s.sessions
  alone : s.party.playerParty[sid]? = none
  fit : Fitted s
  stands : positionOf (s.player sid) = square column row
  opponent : (getElem s.npcs firstNpc firstNpc.isLt).uid = uid
  opposite : ((getElem s.npcs firstNpc firstNpc.isLt).posX, (getElem s.npcs firstNpc firstNpc.isLt).posY) = square column row
  counter : s.nextNpcUid = next

-- The next NPC comes to life on the same square.
def blowAt (uid : NpcUid) : Input := ⟨.packet sid (.attack ⟨uid⟩), [column, row], []⟩

variable {sid column row} {uid next : NpcUid} {s : ServerState}

theorem duel_target (duel : Duel sid column row uid next s) : findTarget s (s.player sid) uid = some firstNpc := by
  have reach : withinReach (getElem s.npcs firstNpc firstNpc.isLt) (s.player sid) := by
    obtain ⟨columns, rows⟩ := Prod.mk.inj (duel.opposite.trans duel.stands.symm)
    rw [withinReach, columns, rows]
    simp
  have first : (List.finRange maxNpc).find? (fun index => (getElem s.npcs index index.isLt).alive ∧ (getElem s.npcs index index.isLt).uid = uid) =
      some firstNpc := by
    refine List.find?_cons_of_pos ?_
    exact decide_eq_true ⟨(duel.fit firstNpc).alive, duel.opponent⟩
  rw [findTarget, first, Option.filter_some, if_pos (decide_eq_true reach)]

theorem duel_fit (duel : Duel sid column row uid next s) : Fitted (onAttack data s sid ⟨uid⟩) :=
  move_fitted (on_attack_move data s sid (fitted_populated duel.fit) ⟨uid⟩) duel.fit

theorem duel_won (nothing : data.dropTable = []) (duel : Duel sid column row uid next s) (rolls : s.rolls = [column, row])
    (dies : (struck (s.player sid) (getElem s.npcs firstNpc firstNpc.isLt)).hp = 0) :
    Duel sid column row next (next + 1) (onAttack data s sid ⟨uid⟩) := by
  have fit := duel_fit data duel
  have others : ∀ other, other ≠ firstNpc → (getElem (strike s sid firstNpc).npcs other other.isLt).alive = true := by
    intro other apart
    rw [show getElem (strike s sid firstNpc).npcs other other.isLt = getElem s.npcs other other.isLt from
      entry_rest firstNpc _ rfl other apart]
    exact (duel.fit other).alive
  have kept := after_death_killer_state data (strike s sid firstNpc) sid firstNpc duel.here duel.alone nothing
  simp only [killerState, Prod.mk.injEq] at kept
  obtain ⟨fault, rolled, party, stands, stays⟩ := kept
  have counter : (afterDeath data (strike s sid firstNpc) sid firstNpc).nextNpcUid = next :=
    (Prod.mk.inj (after_death_herd data (strike s sid firstNpc) sid firstNpc)).2.trans duel.counter
  have rolled : (afterDeath data (strike s sid firstNpc) sid firstNpc).rolls = [column, row] := rolled.trans rolls
  rw [on_attack_kills data s sid ⟨uid⟩ firstNpc (duel_target duel) dies, kill_npc_spawns data _ sid firstNpc others] at fit ⊢
  generalize afterDeath data (strike s sid firstNpc) sid firstNpc = t at fault rolled party stands stays counter fit ⊢
  have spawns : getElem (spawnNpc t firstNpc).npcs firstNpc firstNpc.isLt = spawned t firstNpc := entry_set firstNpc t.npcs _
  refine ⟨fault.trans duel.alive, stays.mpr duel.here, party ▸ duel.alone, fit, stands.trans duel.stands, ?_, ?_, ?_⟩
  · rw [spawns]
    exact counter
  · rw [spawns, square, spawned, ServerState.rand, ServerState.rand, ServerState.rolled, rolled]
    rfl
  · exact congrArg (· + 1) counter

theorem duel_hurt (duel : Duel sid column row uid next s)
    (survives : (struck (s.player sid) (getElem s.npcs firstNpc firstNpc.isLt)).hp ≠ 0) :
    Duel sid column row uid next (onAttack data s sid ⟨uid⟩) ∧
      (getElem (onAttack data s sid ⟨uid⟩).npcs firstNpc firstNpc.isLt).hp < (getElem s.npcs firstNpc firstNpc.isLt).hp := by
  have fit := duel_fit data duel
  have strikes : onAttack data s sid ⟨uid⟩ = strike s sid firstNpc := by
    simp only [onAttack, duel_target duel]
    exact if_neg survives
  rw [strikes] at fit ⊢
  have wound := strike_npc s sid firstNpc
  refine ⟨⟨duel.alive, duel.here, duel.alone, fit, duel.stands, ?_, ?_, duel.counter⟩, ?_⟩
  · rw [wound]
    exact duel.opponent
  · rw [wound]
    exact duel.opposite
  · rw [wound]
    exact struck_weaker _ _ (fitted_populated duel.fit firstNpc).2

-- A blow hurts the NPC, or the next one stands in its place.
theorem duel_turn (nothing : data.dropTable = []) (relay : Relay) (duel : Duel sid column row uid next relay.server) :
    let after := relayStep data relay (.serve (blowAt sid column row uid))
    Duel sid column row next (next + 1) after.server ∨ Duel sid column row uid next after.server ∧
      (getElem after.server.npcs firstNpc firstNpc.isLt).hp < (getElem relay.server.npcs firstNpc firstNpc.isLt).hp := by
  intro after
  have faces : Duel sid column row uid next (facing { relay.server with sent := [] } (blowAt sid column row uid)) :=
    ⟨duel.alive, duel.here, duel.alone, duel.fit, duel.stands, duel.opponent, duel.opposite, duel.counter⟩
  have attacks : after.server = onAttack data (facing { relay.server with sent := [] } (blowAt sid column row uid)) sid ⟨uid⟩ :=
    (step_alive data { relay.server with sent := [] } _ duel.alive).trans (handle_event_here data _ sid (.attack ⟨uid⟩) duel.here)
  rw [attacks]
  by_cases dies : (struck (relay.server.player sid) (getElem relay.server.npcs firstNpc firstNpc.isLt)).hp = 0
  · exact .inl (duel_won data nothing faces rfl dies)
  · exact .inr (duel_hurt data faces dies)

theorem duel_kill (nothing : data.dropTable = []) (relay : Relay) (duel : Duel sid column row uid next relay.server) :
    ∃ turns, Duel sid column row next (next + 1) (Machine.run (relayStep data) relay turns).server := by
  induction left : (getElem relay.server.npcs firstNpc firstNpc.isLt).hp.toNat using Nat.strongRecOn generalizing relay with
  | ind hp ih =>
      rcases duel_turn data nothing relay duel with won | ⟨goes, weaker⟩
      · exact ⟨[.serve (blowAt sid column row uid)], won⟩
      · obtain ⟨turns, won⟩ := ih _ (left ▸ UInt16.lt_iff_toNat_lt.mp weaker) _ goes rfl
        exact ⟨.serve (blowAt sid column row uid) :: turns, won⟩

-- The counter goes on with every kill, modulo 2^64.
theorem duel_goes_on (nothing : data.dropTable = []) (kills : Nat) (relay : Relay) (duel : Duel sid column row uid next relay.server) :
    ∃ turns, Duel sid column row (next + UInt64.ofNat kills) (next + UInt64.ofNat kills + 1)
      (Machine.run (relayStep data) relay turns).server := by
  induction kills generalizing relay uid next with
  | zero =>
      have none : next + UInt64.ofNat 0 = next := UInt64.add_zero next
      rw [none]
      exact duel_kill data nothing relay duel
  | succ kills ih =>
      obtain ⟨first, won⟩ := duel_kill data nothing relay duel
      obtain ⟨others, goes⟩ := ih _ won
      have counted : next + 1 + UInt64.ofNat kills = next + UInt64.ofNat (kills + 1) := by
        rw [UInt64.ofNat_add, UInt64.add_assoc, UInt64.add_comm 1]
        rfl
      refine ⟨first ++ others, ?_⟩
      rw [Machine.run_append, ← counted]
      exact goes

-- Two uids are too few for the pool.
theorem counter_two_unstocked (stocked : Stocked s) : s.nextNpcUid ≠ 2 := by
  intro counter
  have small (index : Fin maxNpc) : (getElem s.npcs index index.isLt).uid.toNat < 2 := by
    have issued := stocked.issued index
    rw [counter] at issued
    exact UInt64.lt_iff_toNat_lt.mp issued
  have apart (index other : Fin maxNpc) (different : index ≠ other) :
      (getElem s.npcs index index.isLt).uid.toNat ≠ (getElem s.npcs other other.isLt).uid.toNat :=
    fun same => different (stocked.distinct index other (UInt64.toNat_inj.mp same))
  have first := apart firstNpc ⟨1, by decide⟩ (by decide)
  have second := apart firstNpc ⟨2, by decide⟩ (by decide)
  have third := apart ⟨1, by decide⟩ ⟨2, by decide⟩ (by decide)
  have bounds := And.intro (small firstNpc) (And.intro (small ⟨1, by decide⟩) (small ⟨2, by decide⟩))
  omega

end Duels

-- Session 1 enters on the square of NPC 1 and strikes it twice.
def wounded : List Turn :=
  [.serve ⟨.accept, [], []⟩, .serve ⟨.packet 1 (.login ⟨[49]⟩), [], []⟩, .serve ⟨.packet 1 (.charSelect ⟨1⟩), [], []⟩,
    .serve (blowAt 1 5 5 1), .serve (blowAt 1 5 5 1)]

-- The third blow retires uid 1; 2^64 - 5 kills later it is handed out again.
theorem uid_comes_back :
    let early := Machine.run (relayStep arenaData) (Relay.boot twoCharacters (fun _ => 5)) wounded
    let middle := Machine.run (relayStep arenaData) early [.serve (blowAt 1 5 5 1)]
    1 ∈ uidsOf early.server ∧ 1 ∉ uidsOf middle.server ∧
      ∃ third, 1 ∈ uidsOf (Machine.run (relayStep arenaData) middle third).server ∧
        ¬ Stocked (Machine.run (relayStep arenaData) middle third).server := by
  intro early middle
  have seen : 1 ∈ uidsOf early.server ∧ 1 ∉ uidsOf middle.server := by decide +kernel
  have fit : Fitted middle.server := turns_fitted arenaData early _ (turns_fitted arenaData _ wounded (boot_fitted _ _))
  have start : middle.server.fault = none ∧ 1 ∈ middle.server.sessions ∧ middle.server.party.playerParty[(1 : SessionId)]? = none ∧
      positionOf (middle.server.player 1) = square 5 5 ∧ (getElem middle.server.npcs firstNpc firstNpc.isLt).uid = 6 ∧
      ((getElem middle.server.npcs firstNpc firstNpc.isLt).posX, (getElem middle.server.npcs firstNpc firstNpc.isLt).posY) = square 5 5 ∧
      middle.server.nextNpcUid = 7 := by
    decide +kernel
  obtain ⟨alive, here, alone, stands, opponent, opposite, counter⟩ := start
  obtain ⟨third, goes⟩ := duel_goes_on arenaData rfl (2 ^ 64 - 6) middle ⟨alive, here, alone, fit, stands, opponent, opposite, counter⟩
  have round : 7 + UInt64.ofNat (2 ^ 64 - 6) = 1 := by decide
  rw [round] at goes
  refine ⟨seen.1, seen.2, third, (mem_uids _ 1).mpr ⟨firstNpc, goes.opponent⟩, fun stocked => ?_⟩
  exact counter_two_unstocked stocked goes.counter

end MmorpgSimulator
