import MmorpgSimulator.Server

set_option autoImplicit false

namespace MmorpgSimulator

def herd (s : ServerState) : Vector Npc maxNpc × NpcUid := (s.npcs, s.nextNpcUid)

def Populated (s : ServerState) : Prop :=
  ∀ index : Fin maxNpc, (getElem s.npcs index index.isLt).alive = true ∧ 0 < (getElem s.npcs index index.isLt).hp

section Frames

variable (data : GameData) (s : ServerState) (sid : SessionId)

theorem populated_same (t : ServerState) (same : herd t = herd s) (populated : Populated s) : Populated t := by
  rw [Populated, (Prod.mk.inj same).1]
  exact populated

theorem load_inventory_herd : herd (loadInventory data s sid) = herd s := by
  rw [loadInventory]
  simp only
  split <;> rfl

theorem on_item_use_herd (req : CsItemUse) : herd (onItemUse data s sid req) = herd s := by
  rw [onItemUse]
  simp only
  split
  · rfl
  · split
    · rfl
    · split <;> rfl

theorem on_item_equip_herd (req : CsItemEquip) : herd (onItemEquip data s sid req) = herd s := by
  rw [onItemEquip]
  simp only
  split
  · rfl
  · split
    · rfl
    · split <;> rfl

theorem on_shop_buy_herd (req : CsShopBuy) : herd (onShopBuy data s sid req) = herd s := by
  rw [onShopBuy]
  simp only
  split
  · rfl
  · split
    · rfl
    · split <;> rfl

theorem on_shop_sell_herd (req : CsShopSell) : herd (onShopSell data s sid req) = herd s := by
  rw [onShopSell]
  simp only
  split
  · rfl
  · split <;> rfl

theorem give_item_herd (itemId : UInt16) : herd (giveItem data s sid itemId) = herd s := by
  rw [giveItem]
  simp only
  split
  · rfl
  · split <;> rfl

theorem on_quest_list_herd : herd (onQuestList data s sid) = herd s := by
  rw [onQuestList]
  split <;> rfl

theorem on_quest_accept_herd (req : CsQuestAccept) : herd (onQuestAccept data s sid req) = herd s := by
  rw [onQuestAccept]
  simp only
  split
  · rfl
  · split
    · rfl
    · split
      · rfl
      · split <;> rfl

theorem on_quest_complete_herd (req : CsQuestComplete) : herd (onQuestComplete data s sid req) = herd s := by
  rw [onQuestComplete]
  simp only
  split
  · rfl
  · split
    · rfl
    · split
      · rfl
      · split
        · rfl
        · split
          · exact give_item_herd data _ sid _
          · rfl

theorem update_quest_herd (entry : UInt16 × QuestProgress) : herd (updateQuest data sid s entry) = herd s := by
  rw [updateQuest]
  split <;> rfl

theorem update_quest_progress_herd : herd (updateQuestProgress data s sid) = herd s :=
  Machine.foldl_frame (updateQuest data sid) herd (fun t entry => update_quest_herd data t sid entry) _ _

theorem fold_send_herd (receivers : List SessionId) (message : Message) :
    herd (receivers.foldl (fun t mid => t.send mid message) s) = herd s := by
  apply Machine.foldl_frame _ herd
  exact fun _ _ => rfl

theorem on_chat_herd (chat : CsChat) : herd (onChat s sid chat) = herd s := by
  have replies (reply : Message) (found : List SessionId) :
      herd (found.foldl (fun t other => (t.send other reply).send sid reply) s) = herd s := by
    apply Machine.foldl_frame _ herd
    exact fun _ _ => rfl
  rw [onChat]
  simp only
  split
  · rfl
  · split
    · split
      · exact replies _ _
      · exact replies _ _
    · split
      · split
        · exact fold_send_herd _ _ _
        · rfl
      · rfl

theorem send_party_update_herd (partyId : UInt32) : herd (sendPartyUpdate s partyId) = herd s := by
  rw [sendPartyUpdate]
  split
  · rfl
  · exact fold_send_herd _ _ _

theorem remove_from_party_herd : herd (removeFromParty s sid) = herd s := by
  rw [removeFromParty]
  split
  · rfl
  · simp only
    split
    · rfl
    · split
      · split
        · exact fold_send_herd _ _ _
        · exact fold_send_herd _ _ _
      · exact (send_party_update_herd _ _).trans (fold_send_herd _ _ _)

theorem on_party_invite_herd (req : CsPartyInvite) : herd (onPartyInvite s sid req) = herd s := by
  have touched : herd ((s.party.playerParty[sid]?).elim s s.touchParty) = herd s := by
    cases s.party.playerParty[sid]? <;> rfl
  rw [onPartyInvite]
  simp only
  split
  · exact touched
  · split
    · exact touched
    · split
      · exact touched
      · split <;> exact touched

theorem on_party_accept_herd (req : CsPartyAccept) : herd (onPartyAccept s sid req) = herd s := by
  rw [onPartyAccept]
  split
  · rfl
  · simp only
    split
    · rfl
    · split
      · rfl
      · rw [joinParty]
        split
        · rfl
        · exact send_party_update_herd _ _

theorem on_char_create_herd (req : CsCharCreate) : herd (onCharCreate data s sid req) = herd s := by
  obtain ⟨sent, dbPlan, db, fault, same⟩ := on_char_create_state data s sid req
  rw [same]
  rfl

theorem load_quest_progress_herd : herd (loadQuestProgress s sid) = herd s := rfl

theorem enter_game_herd : herd (enterGame data s sid) = herd s := by
  obtain ⟨sent, same⟩ := greeting_state s sid
  rw [enter_game_loads, load_quest_progress_herd, load_inventory_herd, same]
  rfl

theorem on_char_select_herd (req : CsCharSelect) : herd (onCharSelect data s sid req) = herd s := by
  rw [onCharSelect]
  simp only
  split
  · rfl
  · exact enter_game_herd data _ sid

theorem share_kill_herd (npc : Npc) : herd (shareKill data s sid npc) = herd s := by
  rw [shareKill]
  split
  · refine Machine.foldl_frame _ herd (fun t mid => ?_) _ _
    rw [creditMember]
    split
    · rfl
    · simp only
      split
      · exact update_quest_progress_herd data _ mid
      · rfl
  · rfl

theorem drop_item_herd : herd (dropItem data s sid) = herd s := by
  have rolled : herd (rollDrop data s).1 = herd s := by
    rw [rollDrop]
    split <;> rfl
  rw [dropItem]
  split
  · exact (give_item_herd data _ sid _).trans rolled
  · exact rolled

theorem on_disconnect_herd : herd (onDisconnect s sid) = herd s := by
  have removed := remove_from_party_herd s sid
  rw [onDisconnect]
  split
  · exact removed
  · split <;> exact removed

theorem do_accept_herd : herd (doAccept s) = herd s := by
  rw [doAccept]
  split <;> rfl

end Frames

section Kills

variable (data : GameData) (s : ServerState) (sid : SessionId) (index : Fin maxNpc)

theorem struck_weaker (player : PlayerData) (npc : Npc) (lives : 0 < npc.hp) : (struck player npc).hp < npc.hp := by
  have hurts : 0 < (damageTo player npc).toNat := by
    rw [damageTo]
    split
    · rename_i weaker
      rw [UInt16.toNat_sub_of_le _ _ (UInt16.le_of_lt weaker)]
      exact Nat.sub_pos_of_lt (UInt16.lt_iff_toNat_lt.mp weaker)
    · decide
  rw [struck]
  simp only
  split
  · rename_i survives
    have bound := UInt16.lt_iff_toNat_lt.mp survives
    rw [UInt16.lt_iff_toNat_lt, UInt16.toNat_sub_of_le _ _ (UInt16.le_of_lt survives)]
    omega
  · exact lives

def spawned : Npc :=
  { getElem s.npcs index index.isLt with
    uid := s.nextNpcUid, posX := Int16.ofNat (s.rand % mapSize), posY := Int16.ofNat (s.rolled.rand % mapSize), hp := 30,
    maxHp := 30, alive := true }

theorem spawn_npc_herd : herd (spawnNpc s index) = (s.npcs.set index (spawned s index) index.isLt, s.nextNpcUid + 1) := rfl

theorem respawn_revives (dead : (getElem s.npcs index index.isLt).alive = false)
    (others : ∀ other, other ≠ index → (getElem s.npcs other other.isLt).alive = true) :
    respawn s = spawnNpc s index := by
  rw [respawn]
  cases first : (List.finRange maxNpc).find? (fun index => !s.npcs[index].alive) with
  | none =>
      have alive := List.find?_eq_none.mp first index (List.mem_finRange index)
      exact absurd dead (by simpa using alive)
  | some other =>
      have gone : s.npcs[other].alive = false := by simpa using List.find?_some first
      have same : other = index := by
        by_contra apart
        exact Bool.false_ne_true (gone.symm.trans (others other apart))
      rw [same]

def afterDeath : ServerState :=
  dropItem data (updateQuestProgress data (shareKill data (announceDeath s index) sid (getElem s.npcs index index.isLt)) sid) sid

theorem after_death_herd : herd (afterDeath data s sid index) =
    (s.npcs.set index { getElem s.npcs index index.isLt with alive := false } index.isLt, s.nextNpcUid) :=
  (drop_item_herd data _ sid).trans ((update_quest_progress_herd data _ sid).trans (share_kill_herd data _ sid _))

theorem kill_npc_spawns (others : ∀ other, other ≠ index → (getElem s.npcs other other.isLt).alive = true) :
    killNpc data s sid index = spawnNpc (afterDeath data s sid index) index := by
  obtain ⟨npcs, _⟩ := Prod.mk.inj (after_death_herd data s sid index)
  have dead : (afterDeath data s sid index).npcs[index].alive = false := by simp [npcs]
  apply respawn_revives (afterDeath data s sid index) index dead
  intro other apart
  have away : index.val ≠ other.val := fun same => apart (Fin.ext same.symm)
  simpa [npcs, Vector.getElem_set, away] using others other apart

theorem kill_npc_herd (others : ∀ other, other ≠ index → (getElem s.npcs other other.isLt).alive = true) :
    herd (killNpc data s sid index) = (s.npcs.set index (spawned (afterDeath data s sid index) index) index.isLt, s.nextNpcUid + 1) ∧
      (spawned (afterDeath data s sid index) index).uid = s.nextNpcUid := by
  obtain ⟨npcs, counter⟩ := Prod.mk.inj (after_death_herd data s sid index)
  refine ⟨?_, counter⟩
  rw [kill_npc_spawns data s sid index others, spawn_npc_herd, npcs, counter, Vector.set_set]

structure Hatched (uid : NpcUid) (npc : Npc) : Prop where
  uid : npc.uid = uid
  alive : npc.alive = true
  hp : npc.hp = 30
  maxHp : npc.maxHp = 30
  column : 0 ≤ npc.posX.toInt ∧ npc.posX.toInt < mapSize
  row : 0 ≤ npc.posY.toInt ∧ npc.posY.toInt < mapSize

theorem draw_inside (draw : Nat) : 0 ≤ (Int16.ofNat (draw % mapSize)).toInt ∧ (Int16.ofNat (draw % mapSize)).toInt < mapSize := by
  have bound : draw % mapSize < mapSize := Nat.mod_lt draw (by decide)
  have small : draw % mapSize < 2 ^ 15 := Nat.lt_trans bound (by decide)
  rw [Int16.toInt_ofNat_of_lt small]
  exact ⟨Int.natCast_nonneg _, Int.ofNat_lt.mpr bound⟩

theorem spawned_hatched : Hatched s.nextNpcUid (spawned s index) :=
  ⟨rfl, rfl, rfl, rfl, draw_inside s.rand, draw_inside s.rolled.rand⟩

theorem entry_set (npcs : Vector Npc maxNpc) (npc : Npc) : getElem (npcs.set index npc index.isLt) index index.isLt = npc := by simp

theorem on_attack_hurts (populated : Populated s) (atk : CsAttack) (target : findTarget s (s.player sid) atk.targetUid = some index)
    (survives : (struck (s.player sid) (getElem s.npcs index index.isLt)).hp ≠ 0) :
    ∃ hp, 0 < hp ∧ hp < (getElem s.npcs index index.isLt).hp ∧
      herd (onAttack data s sid atk) = (s.npcs.set index { getElem s.npcs index index.isLt with hp } index.isLt, s.nextNpcUid) := by
  simp only [onAttack, target]
  exact ⟨(struck (s.player sid) s.npcs[index]).hp, UInt16.pos_iff_ne_zero.mpr survives,
    struck_weaker (s.player sid) s.npcs[index] (populated index).2, by rw [if_neg survives]; rfl⟩

theorem on_attack_renews (populated : Populated s) (atk : CsAttack) (target : findTarget s (s.player sid) atk.targetUid = some index)
    (dies : (struck (s.player sid) (getElem s.npcs index index.isLt)).hp = 0) :
    ∃ npc, Hatched s.nextNpcUid npc ∧ herd (onAttack data s sid atk) = (s.npcs.set index npc index.isLt, s.nextNpcUid + 1) := by
  have others : ∀ other, other ≠ index → (strike s sid index).npcs[other].alive = true := by
    intro other apart
    have away : index.val ≠ other.val := fun same => apart (Fin.ext same.symm)
    show (s.npcs.set index (struck (s.player sid) s.npcs[index]))[other].alive = true
    simpa [away] using (populated other).1
  obtain ⟨replaced, uid⟩ := kill_npc_herd data (strike s sid index) sid index others
  have hatched := spawned_hatched (afterDeath data (strike s sid index) sid index) index
  have counter : (afterDeath data (strike s sid index) sid index).nextNpcUid = s.nextNpcUid := uid
  rw [counter] at hatched
  refine ⟨_, hatched, ?_⟩
  simp only [onAttack, target]
  rw [if_pos dies, replaced]
  show ((s.npcs.set index _).set index _, s.nextNpcUid + 1) = _
  rw [Vector.set_set]

theorem on_attack_moves (populated : Populated s) (atk : CsAttack) (target : findTarget s (s.player sid) atk.targetUid = some index) :
    herd (onAttack data s sid atk) ≠ herd s := by
  intro same
  by_cases dies : (struck (s.player sid) s.npcs[index]).hp = 0
  · obtain ⟨npc, _, moved⟩ := on_attack_renews data s sid index populated atk target dies
    have counted : s.nextNpcUid + 1 = s.nextNpcUid := (Prod.mk.inj moved).2.symm.trans (Prod.mk.inj same).2
    exact absurd counted (by simp)
  · obtain ⟨hp, _, weaker, moved⟩ := on_attack_hurts data s sid index populated atk target dies
    have here : (s.npcs.set index { s.npcs[index] with hp })[index] = s.npcs[index] := by
      rw [← (Prod.mk.inj moved).1, (Prod.mk.inj same).1]
    have unhurt : hp = s.npcs[index].hp := congrArg Npc.hp ((entry_set index s.npcs _).symm.trans here)
    exact UInt16.lt_irrefl _ (unhurt ▸ weaker)

def attackKill (atk : CsAttack) : Option (Fin maxNpc) :=
  (findTarget s (s.player sid) atk.targetUid).filter (fun index => (struck (s.player sid) (getElem s.npcs index index.isLt)).hp = 0)

-- What a step can do to the herd: nothing, a wound that leaves the NPC alive, or a
-- new NPC in the place of the one it kills, under the next uid.
inductive HerdMove : Option (Fin maxNpc) → Vector Npc maxNpc × NpcUid → Vector Npc maxNpc × NpcUid → Prop where
  | rest (npcs counter) : HerdMove none (npcs, counter) (npcs, counter)
  | hurt (npcs : Vector Npc maxNpc) (counter) (index : Fin maxNpc) (hp : UInt16) (lives : 0 < hp) (weaker : hp < (getElem npcs index index.isLt).hp) :
      HerdMove none (npcs, counter) (npcs.set index { getElem npcs index index.isLt with hp } index.isLt, counter)
  | renew (npcs counter) (index : Fin maxNpc) (npc : Npc) (hatched : Hatched counter npc) :
      HerdMove (some index) (npcs, counter) (npcs.set index npc index.isLt, counter + 1)

theorem on_attack_move (populated : Populated s) (atk : CsAttack) :
    HerdMove (attackKill s sid atk) (herd s) (herd (onAttack data s sid atk)) := by
  rw [attackKill]
  cases target : findTarget s (s.player sid) atk.targetUid with
  | none =>
      simp only [onAttack, target]
      exact .rest s.npcs s.nextNpcUid
  | some index =>
      by_cases dies : (struck (s.player sid) s.npcs[index]).hp = 0
      · obtain ⟨npc, hatched, moved⟩ := on_attack_renews data s sid index populated atk target dies
        rw [moved, Option.filter_some, if_pos (decide_eq_true dies)]
        exact .renew s.npcs s.nextNpcUid index npc hatched
      · obtain ⟨hp, lives, weaker, moved⟩ := on_attack_hurts data s sid index populated atk target dies
        rw [moved, Option.filter_some, if_neg (by simpa using dies)]
        exact .hurt s.npcs s.nextNpcUid index hp lives weaker

end Kills

section Runs

variable (data : GameData)

theorem move_populated {s t : ServerState} {killed : Option (Fin maxNpc)} (move : HerdMove killed (herd s) (herd t)) (populated : Populated s) : Populated t := by
  have change (index : Fin maxNpc) (npc : Npc) (counter : NpcUid) (moved : herd t = (s.npcs.set index npc, counter))
      (kept : npc.alive = true ∧ 0 < npc.hp) : Populated t := by
    intro other
    rw [(Prod.mk.inj moved).1]
    by_cases same : other = index
    · subst same
      simpa using kept
    · have away : index.val ≠ other.val := fun equal => same (Fin.ext equal.symm)
      have still : (s.npcs.set index npc)[other] = s.npcs[other] := by simp [away]
      rw [still]
      exact populated other
  generalize reached : herd t = after at move
  generalize started : herd s = before at move
  cases move with
  | rest npcs counter => exact populated_same s t (reached.trans started.symm) populated
  | hurt npcs counter index hp lives weaker =>
      obtain ⟨rfl, rfl⟩ := Prod.mk.inj started
      exact change index _ _ reached ⟨(populated index).1, lives⟩
  | renew npcs counter index npc hatched =>
      obtain ⟨rfl, rfl⟩ := Prod.mk.inj started
      exact change index npc _ reached ⟨hatched.alive, hatched.hp ▸ by decide⟩

theorem handle_herd_same (s : ServerState) (sid : SessionId) (request : Request) (peaceful : ∀ atk, request ≠ .attack atk) :
    herd (handle data s sid request) = herd s := by
  cases request with
  | attack req => exact absurd rfl (peaceful req)
  | charCreate req => exact on_char_create_herd data s sid req
  | charSelect req => exact on_char_select_herd data s sid req
  | chat req => exact on_chat_herd s sid req
  | itemUse req => exact on_item_use_herd data s sid req
  | itemEquip req => exact on_item_equip_herd data s sid req
  | shopBuy req => exact on_shop_buy_herd data s sid req
  | shopSell req => exact on_shop_sell_herd data s sid req
  | questList => exact on_quest_list_herd data s sid
  | questAccept req => exact on_quest_accept_herd data s sid req
  | questComplete req => exact on_quest_complete_herd data s sid req
  | partyInvite req => exact on_party_invite_herd s sid req
  | partyAccept req => exact on_party_accept_herd s sid req
  | partyLeave => exact remove_from_party_herd s sid
  | _ => rfl

theorem rest_of_same (s t : ServerState) (same : herd t = herd s) : HerdMove none (herd s) (herd t) := by
  rw [same]
  exact .rest s.npcs s.nextNpcUid

def stepKill (s : ServerState) (input : Input) : Option (Fin maxNpc) :=
  match s.fault, input.event with
  | none, .packet sid (.attack atk) => if sid ∈ s.sessions then attackKill s sid atk else none
  | _, _ => none

theorem handle_herd (s : ServerState) (input : Input) (sid : SessionId) (request : Request) (alive : s.fault = none) (here : sid ∈ s.sessions)
    (asks : input.event = .packet sid request) (populated : Populated s) :
    HerdMove (stepKill s input) (herd s) (herd (handle data (facing s input) sid request)) := by
  have peaceful (calm : ∀ atk, request ≠ .attack atk) : stepKill s input = none := by
    cases request with
    | attack atk => exact absurd rfl (calm atk)
    | _ => simp [stepKill, alive, asks]
  cases request with
  | attack req =>
      have strikes : stepKill s input = attackKill s sid req := by simp [stepKill, alive, asks, here]
      rw [strikes]
      exact on_attack_move data (facing s input) sid populated req
  | _ =>
      rw [peaceful (by simp)]
      exact rest_of_same s _ (handle_herd_same data (facing s input) sid _ (by simp))

theorem step_herd (s : ServerState) (input : Input) (populated : Populated s) :
    HerdMove (stepKill s input) (herd s) (herd (step data s input)) := by
  cases dead : s.fault with
  | some fault =>
      have calm : stepKill s input = none := by simp [stepKill, dead]
      rw [step_dead data s input fault dead, calm]
      exact rest_of_same s s rfl
  | none =>
      have same (t : ServerState) (calm : stepKill s input = none) (kept : herd t = herd s) : HerdMove (stepKill s input) (herd s) (herd t) := by
        rw [calm]
        exact rest_of_same s t kept
      rw [step_alive data s input dead]
      cases happens : input.event with
      | accept => exact same _ (by simp [stepKill, happens]) (do_accept_herd (facing s input))
      | packet sid request =>
          by_cases here : sid ∈ s.sessions
          · rw [handle_event_here data (facing s input) sid request here]
            exact handle_herd data s input sid request dead here happens populated
          · have calm : stepKill s input = none := by cases request <;> simp [stepKill, dead, happens, here]
            rw [handle_event_absent data (facing s input) sid request here]
            exact same _ calm rfl
      | writeError sid => exact same _ (by simp [stepKill, happens]) rfl
      | disconnect sid =>
          by_cases here : sid ∈ s.sessions
          · rw [disconnect_here data (facing s input) sid here]
            exact same _ (by simp [stepKill, happens]) (on_disconnect_herd (setUnconnected (facing s input) sid) sid)
          · rw [disconnect_absent data (facing s input) sid here]
            exact same _ (by simp [stepKill, happens]) rfl

theorem step_populated (s : ServerState) (input : Input) (populated : Populated s) : Populated (step data s input) :=
  move_populated (step_herd data s input populated) populated

theorem boot_npc (db : Database) (draw : Nat → Nat) (index : Fin maxNpc) : getElem (boot db draw).npcs index index.isLt = bootNpc draw index := by
  simp [boot]

theorem boot_populated (db : Database) (draw : Nat → Nat) : Populated (boot db draw) := by
  intro index
  rw [boot_npc]
  exact ⟨rfl, show (0 : UInt16) < 30 by decide⟩

theorem run_populated (db : Database) (draw : Nat → Nat) (inputs : List Input) :
    Populated (Machine.run (step data) (boot db draw) inputs) := by
  have always := Machine.guarded_trivial (step data) (fun _ _ => True) (fun _ _ => trivial) (boot db draw) inputs
  apply Machine.run_invariant (step data) (fun _ _ => True) Populated _ (boot db draw) inputs (boot_populated db draw) always
  exact fun s input populated _ => step_populated data s input populated

end Runs

end MmorpgSimulator
