import MmorpgSimulator.NpcPool
import MmorpgSimulator.Relay
import MmorpgSimulator.Entrance
import MmorpgSimulator.KillViews

set_option autoImplicit false

namespace MmorpgSimulator

def placeOf (npc : Npc) : Int16 × Int16 := (npc.posX, npc.posY)

def standing (s : ServerState) (uid : NpcUid) : Option (Int16 × Int16) :=
  ((s.npcs.toList.filter Npc.alive).find? (fun npc => npc.uid = uid)).map placeOf

def shownHerd (client : Client) (uid : NpcUid) : Option (Int16 × Int16) := (client.npcs[uid]?).map (fun npc => (npc.posX, npc.posY))

section Messages

def SaysHerd : Message → Prop
  | .npcSpawn _ => True
  | .npcDeath _ => True
  | _ => False

theorem attack_result_herd (client : Client) (result : ScAttackResult) : shownHerd (client.onAttackResult result) = shownHerd client := by
  rw [Client.onAttackResult]
  split
  · funext uid
    simp only [shownHerd, Std.ExtTreeMap.getElem?_modify]
    split
    · rename_i same
      rw [← Std.compare_eq_iff_eq.mp same, Option.map_map]
      rfl
    · rfl
  · rfl

theorem hushed_herd (message : Message) (silent : ¬ SaysHerd message) : Hushed shownHerd message := by
  intro client
  cases message with
  | npcSpawn spawn => exact absurd trivial silent
  | npcDeath death => exact absurd trivial silent
  | attackResult result => exact attack_result_herd client result
  | charInfo info =>
      rw [Client.receive, Client.onCharInfo]
      split
      · rfl
      · split <;> rfl
  | moveResult result =>
      rw [Client.receive, Client.onMoveResult]
      split <;> rfl
  | attendanceResult result =>
      rw [Client.receive, Client.onAttendanceResult]
      split <;> rfl
  | equipResult result =>
      rw [Client.receive, Client.onEquipResult]
      split <;> rfl
  | inventoryList list =>
      rw [Client.receive, Client.onInventoryList]
      exact Machine.foldl_frame Client.onInventoryUpdate shownHerd (fun _ _ => rfl) _ _
  | questAcceptResult result =>
      rw [Client.receive, Client.onQuestAcceptResult]
      split <;> rfl
  | questReward reward =>
      rw [Client.receive, Client.onQuestRewardResult]
      split <;> rfl
  | partyLeave leave =>
      rw [Client.receive, Client.onPartyLeaveRecv]
      split <;> rfl
  | _ => rfl

theorem spawn_shown (client : Client) (npc : Npc) :
    shownHerd (client.receive (.npcSpawn (npcSpawnOf npc))) = Function.update (shownHerd client) npc.uid (some (placeOf npc)) := by
  funext uid
  change ((client.npcs.insert npc.uid _)[uid]?).map _ = _
  rw [Std.ExtTreeMap.getElem?_insert]
  by_cases same : uid = npc.uid
  · rw [same, Function.update_self, if_pos Std.ReflCmp.compare_self]
    rfl
  · rw [Function.update_of_ne same, if_neg (fun equal => same (Std.compare_eq_iff_eq.mp equal).symm)]
    rfl

theorem death_shown (client : Client) (death : ScNpcDeath) :
    shownHerd (client.receive (.npcDeath death)) = Function.update (shownHerd client) death.npcUid none := by
  funext uid
  change ((client.npcs.erase death.npcUid)[uid]?).map _ = _
  rw [Std.ExtTreeMap.getElem?_erase]
  by_cases same : uid = death.npcUid
  · rw [same, Function.update_self, if_pos Std.ReflCmp.compare_self]
    rfl
  · rw [Function.update_of_ne same, if_neg (fun equal => same (Std.compare_eq_iff_eq.mp equal).symm)]
    rfl

theorem spawns_shown (npcs : List Npc) (distinct : npcs.Pairwise (fun one other => one.uid ≠ other.uid)) (client : Client) (uid : NpcUid) :
    shownHerd ((npcs.map (fun npc => Message.npcSpawn (npcSpawnOf npc))).foldl Client.receive client) uid =
      ((npcs.find? (fun npc => npc.uid = uid)).map placeOf).or (shownHerd client uid) := by
  induction npcs generalizing client with
  | nil => rfl
  | cons npc rest ih =>
      obtain ⟨apart, later⟩ := List.pairwise_cons.mp distinct
      rw [List.map_cons, List.foldl_cons, ih later, spawn_shown]
      by_cases same : npc.uid = uid
      · have none : rest.find? (fun other => other.uid = uid) = none :=
          List.find?_eq_none.mpr (fun other member => by simpa [same] using (apart other member).symm)
        rw [none, List.find?_cons_of_pos (by simpa using same), ← same, Function.update_self]
        rfl
      · rw [List.find?_cons_of_neg (by simpa using same), Function.update_of_ne (Ne.symm same)]

end Messages

section Standing

variable {s t : ServerState}

theorem all_alive (stocked : Stocked s) : s.npcs.toList.filter Npc.alive = s.npcs.toList := by
  refine List.filter_eq_self.mpr (fun npc listed => ?_)
  obtain ⟨index, bound, rfl⟩ := Vector.mem_iff_getElem.mp (Vector.mem_toList_iff.mp listed)
  exact (stocked.fit ⟨index, bound⟩).alive

theorem npcs_distinct (stocked : Stocked s) : s.npcs.toList.Pairwise (fun one other => one.uid ≠ other.uid) := by
  refine List.pairwise_iff_getElem.mpr (fun i j hi hj before same => ?_)
  have first : i < maxNpc := by simpa using hi
  have second : j < maxNpc := by simpa using hj
  have equal := stocked.distinct ⟨i, first⟩ ⟨j, second⟩ (by simpa using same)
  exact Nat.ne_of_lt before (congrArg Fin.val equal)

theorem standing_iff (stocked : Stocked s) (uid : NpcUid) (place : Int16 × Int16) :
    standing s uid = some place ↔
      ∃ index : Fin maxNpc, (getElem s.npcs index index.isLt).uid = uid ∧ placeOf (getElem s.npcs index index.isLt) = place := by
  rw [standing, all_alive stocked, Option.map_eq_some_iff]
  constructor
  · rintro ⟨npc, found, rfl⟩
    obtain ⟨index, bound, rfl⟩ := Vector.mem_iff_getElem.mp (Vector.mem_toList_iff.mp (List.mem_of_find?_eq_some found))
    exact ⟨⟨index, bound⟩, by simpa using List.find?_some found, rfl⟩
  · rintro ⟨index, rfl, rfl⟩
    have listed : s.npcs[index] ∈ s.npcs.toList := Vector.mem_toList_iff.mpr (Vector.getElem_mem index.isLt)
    cases found : s.npcs.toList.find? (fun npc => npc.uid = s.npcs[index].uid) with
    | none => exact absurd (decide_eq_true rfl) (List.find?_eq_none.mp found s.npcs[index] listed)
    | some npc =>
        obtain ⟨other, bound, rfl⟩ := Vector.mem_iff_getElem.mp (Vector.mem_toList_iff.mp (List.mem_of_find?_eq_some found))
        have same := stocked.distinct ⟨other, bound⟩ index (by simpa using List.find?_some found)
        exact ⟨_, rfl, by rw [← same]; rfl⟩

theorem standing_herd (s t : ServerState) (same : herd t = herd s) : standing t = standing s := by
  funext uid
  rw [standing, standing, (Prod.mk.inj same).1]

theorem standing_same (stocked : Stocked s) (after : Stocked t)
    (still : ∀ index : Fin maxNpc, (getElem t.npcs index index.isLt).uid = (getElem s.npcs index index.isLt).uid ∧
      placeOf (getElem t.npcs index index.isLt) = placeOf (getElem s.npcs index index.isLt)) :
    standing t = standing s := by
  funext uid
  refine Option.ext (fun place => ?_)
  rw [standing_iff after, standing_iff stocked]
  exact exists_congr (fun index => by rw [(still index).1, (still index).2])

theorem standing_renewed (stocked : Stocked s) (after : Stocked t) (index : Fin maxNpc) (npc : Npc) (npcs : t.npcs = s.npcs.set index npc index.isLt) :
    standing t = Function.update (Function.update (standing s) (getElem s.npcs index index.isLt).uid none) npc.uid (some (placeOf npc)) := by
  have self : t.npcs[index] = npc := by rw [npcs, entry_set]
  have rest (other : Fin maxNpc) (apart : other ≠ index) : t.npcs[other] = s.npcs[other] := by
    have away : index.val ≠ other.val := fun same => apart (Fin.ext same.symm)
    simp [npcs, away]
  funext uid
  by_cases new : uid = npc.uid
  · rw [new, Function.update_self]
    exact (standing_iff after _ _).mpr ⟨index, congrArg Npc.uid self, congrArg placeOf self⟩
  · rw [Function.update_of_ne new]
    by_cases old : uid = s.npcs[index].uid
    · rw [old, Function.update_self]
      refine Option.eq_none_iff_forall_ne_some.mpr (fun place stands => ?_)
      obtain ⟨other, same, _⟩ := (standing_iff after _ _).mp stands
      by_cases own : other = index
      · rw [own, self] at same
        exact new (old.trans same.symm)
      · rw [rest other own] at same
        exact own (stocked.distinct other index same)
    · rw [Function.update_of_ne old]
      refine Option.ext (fun place => ?_)
      rw [standing_iff after, standing_iff stocked]
      refine exists_congr (fun other => ?_)
      by_cases own : other = index
      · rw [own, self]
        exact iff_of_false (fun both => new both.1.symm) (fun both => old both.1.symm)
      · rw [rest other own]

end Standing

section Kills

variable (data : GameData) (clients : SessionId → Client) (s : ServerState) (sid : SessionId) (index : Fin maxNpc) (other : SessionId)

theorem shown_broadcast (message : Message) : shown clients (s.broadcast message) other =
    if other ∈ s.inGame ∧ s.line other = some true then (shown clients s other).receive message else shown clients s other := by
  rw [shown_sends clients other s (s.broadcast message) _ rfl, inbox_deliver_each s _ (in_game_once s)]
  split <;> rfl

theorem strike_herd_unseen : Unseen shownHerd clients other s (strike s sid index) := by
  have silent : Hushed shownHerd (.attackResult
      { success := 1, targetUid := (struck (s.player sid) s.npcs[index]).uid, damage := damageTo (s.player sid) s.npcs[index],
        targetHp := (struck (s.player sid) s.npcs[index]).hp }) := hushed_herd _ id
  exact Unseen.send (t := setNpc s index (struck (s.player sid) s.npcs[index])) (unseen_same rfl) sid _ silent

theorem after_death_unseen : Unseen shownHerd clients other (announceDeath s index) (afterDeath data s sid index) := by
  have start : Speaks (Hushed shownHerd) (announceDeath s index) (announceDeath s index) := Speaks.refl _
  have shared := share_kill_speaks data start sid s.npcs[index] (fun _ => hushed_herd _ id) (fun _ => hushed_herd _ id)
    (fun _ => hushed_herd _ id)
  have counted := update_quest_progress_speaks data shared sid (fun _ => hushed_herd _ id)
  rw [afterDeath]
  exact (drop_item_speaks data counted sid (fun _ => hushed_herd _ id)).unseen clients other

theorem spawn_npc_sessions : (spawnNpc s index).sessions = s.sessions := rfl

theorem spawn_npc_shown : shown clients (spawnNpc s index) other = if other ∈ s.inGame ∧ s.line other = some true then
    (shown clients s other).receive (.npcSpawn (npcSpawnOf (spawned s index))) else shown clients s other :=
  shown_broadcast clients { s.rolled.rolled with npcs := s.npcs.set index (spawned s index), nextNpcUid := s.nextNpcUid + 1 } other _

theorem announce_death_herd : shownHerd (shown clients (announceDeath s index) other) = if other ∈ s.inGame ∧ s.line other = some true then
    Function.update (shownHerd (shown clients s other)) (getElem s.npcs index index.isLt).uid none else shownHerd (shown clients s other) := by
  have death : shown clients (announceDeath s index) other = if other ∈ s.inGame ∧ s.line other = some true then
      (shown clients s other).receive (.npcDeath
        { npcUid := s.npcs[index].uid, expReward := s.npcs[index].expReward, goldReward := s.npcs[index].goldReward })
      else shown clients s other := shown_broadcast clients s other _
  rw [death]
  split
  · exact death_shown _ _
  · rfl

theorem kill_npc_shown (others : ∀ rest, rest ≠ index → (getElem s.npcs rest rest.isLt).alive = true) (open_ : s.line other = some true)
    (line : (killNpc data s sid index).line other = s.line other)
    (playing : ((killNpc data s sid index).player other).loggedIn = (s.player other).loggedIn) :
    shownHerd (shown clients (killNpc data s sid index) other) = if (s.player other).loggedIn = true then
      Function.update (Function.update (shownHerd (shown clients s other)) (getElem s.npcs index index.isLt).uid none)
        (spawned (afterDeath data s sid index) index).uid (some (placeOf (spawned (afterDeath data s sid index) index)))
    else shownHerd (shown clients s other) := by
  have quiet := after_death_unseen data clients s sid index other
  have death := announce_death_herd clients s index other
  rw [kill_npc_spawns data s sid index others] at line playing ⊢
  generalize afterDeath data s sid index = t at quiet line playing ⊢
  rw [ServerState.line, spawn_npc_sessions, ← ServerState.line] at line
  rw [player_same t _ (spawn_npc_sessions t index)] at playing
  rw [spawn_npc_shown]
  by_cases inGame : (s.player other).loggedIn = true
  · have listed : other ∈ s.inGame ∧ s.line other = some true := ⟨(mem_in_game s other).mpr inGame, open_⟩
    have stays : other ∈ t.inGame ∧ t.line other = some true := ⟨(mem_in_game t other).mpr (playing.trans inGame), line.trans open_⟩
    rw [if_pos inGame, if_pos stays, spawn_shown, quiet, death, if_pos listed]
  · have away : ¬ (other ∈ s.inGame ∧ s.line other = some true) := fun both => inGame ((mem_in_game s other).mp both.1)
    have stays : ¬ (other ∈ t.inGame ∧ t.line other = some true) := fun both => inGame (playing.symm.trans ((mem_in_game t other).mp both.1))
    rw [if_neg inGame, if_neg stays, quiet, death, if_neg away]

end Kills

-- A client up to date with what was sent shows the herd if its session is in the
-- game, and no NPC before.
def Mirrors (clients : SessionId → Client) (s : ServerState) (sid : SessionId) : Prop :=
  shownHerd (shown clients s sid) = if (s.player sid).loggedIn = true then standing s else fun _ => none

section Handlers

variable (data : GameData) (clients : SessionId → Client) (s : ServerState) (sid : SessionId) (other : SessionId)

theorem mirrors_quiet {t : ServerState} (mirrors : Mirrors clients s other) (quiet : Unseen shownHerd clients other s t)
    (playing : (t.player other).loggedIn = (s.player other).loggedIn) (still : standing t = standing s) : Mirrors clients t other := by
  rw [Mirrors, quiet, playing, still]
  exact mirrors

theorem on_attack_mirrors (stocked : Stocked s) (atk : CsAttack) (after : Stocked (onAttack data s sid atk)) (indexed : s.party.Indexed)
    (open_ : s.line other = some true) (mirrors : Mirrors clients s other) : Mirrors clients (onAttack data s sid atk) other := by
  have line := handle_line data s indexed sid (.attack atk) other
  have playing := handle_logged_in data s sid (.attack atk) nofun other
  rw [handle] at line playing
  cases target : findTarget s (s.player sid) atk.targetUid with
  | none =>
      have missed : onAttack data s sid atk = s.send sid (.attackResult { success := 0 }) := by simp only [onAttack, target]
      rw [missed]
      exact mirrors_quiet clients s other mirrors ((unseen_same rfl).send sid _ (hushed_herd _ id)) rfl rfl
  | some index =>
      by_cases dies : (struck (s.player sid) s.npcs[index]).hp = 0
      · rw [on_attack_kills data s sid atk index target dies] at after line playing ⊢
        have others : ∀ rest, rest ≠ index → (strike s sid index).npcs[rest].alive = true := by
          intro rest apart
          have away : index.val ≠ rest.val := fun same => apart (Fin.ext same.symm)
          show (s.npcs.set index (struck (s.player sid) s.npcs[index]))[rest].alive = true
          simpa [away] using (stocked.fit rest).alive
        obtain ⟨replaced, uid⟩ := kill_npc_herd data (strike s sid index) sid index others
        have npcs := (Prod.mk.inj replaced).1
        have told := kill_npc_shown data clients (strike s sid index) sid index other others open_ line playing
        generalize spawned (afterDeath data (strike s sid index) sid index) index = npc at npcs told
        have strikes : (strike s sid index).npcs.set index npc = s.npcs.set index npc := by
          show (s.npcs.set index _).set index npc = _
          rw [Vector.set_set]
        have uids : (strike s sid index).npcs[index].uid = s.npcs[index].uid := by
          rw [strike_npc]
          rfl
        have before : (strike s sid index).player other = s.player other := rfl
        have blow := strike_herd_unseen clients s sid index other
        rw [Mirrors, playing, told, standing_renewed stocked after index npc (npcs.trans strikes), uids, before, blow, mirrors]
        split <;> rfl
      · have hit : onAttack data s sid atk = strike s sid index := by simp only [onAttack, target, if_neg dies]
        rw [hit] at after ⊢
        refine mirrors_quiet clients s other mirrors (strike_herd_unseen clients s sid index other) rfl (standing_same stocked after ?_)
        intro rest
        by_cases own : rest = index
        · rw [own, strike_npc]
          exact ⟨rfl, rfl⟩
        · have away : index.val ≠ rest.val := fun same => own (Fin.ext same.symm)
          have still : (strike s sid index).npcs[rest] = s.npcs[rest] := by
            show (s.npcs.set index _)[rest] = _
            simp [away]
          rw [still]
          exact ⟨rfl, rfl⟩

theorem handle_mirrors (request : Request) (unselected : ∀ req, request ≠ .charSelect req) (peaceful : ∀ atk, request ≠ .attack atk)
    (mirrors : Mirrors clients s other) : Mirrors clients (handle data s sid request) other := by
  have silent (message : Message) (answers : request.Answers message) : Hushed shownHerd message := by
    apply hushed_herd
    cases request with
    | attack atk => exact absurd rfl (peaceful atk)
    | charSelect req => exact absurd rfl (unselected req)
    | _ => cases message <;> first | exact id | exact absurd answers id
  have quiet := ((handle_speaks data s sid request).weaken silent).unseen clients other
  have playing := handle_logged_in data s sid request unselected other
  exact mirrors_quiet clients s other mirrors quiet playing (standing_herd s _ (handle_herd_same data s sid request peaceful))

end Handlers

section Selections

variable (data : GameData) (clients : SessionId → Client) (s : ServerState) (sid : SessionId) (req : CsCharSelect)
  (row : Int32 × Int64 × Int64) (input : Input)

theorem select_herd (selects : selecting s input = some (sid, req, row)) : herd (step data s input) = herd s := by
  obtain ⟨here, alive, _, _⟩ := step_selecting data s sid req input row selects
  rw [step_alive data s input alive, selecting_session s sid req input row selects, handle_event_here data (facing s input) sid _ here]
  exact handle_herd_same data (facing s input) sid _ nofun

theorem admitted_herd : herd (admitted (facing s input) sid req row) = herd s := rfl

theorem greeting_herd (t : ServerState) (stocked : Stocked t) (client : Client) (uid : NpcUid) :
    shownHerd ((greeting t sid).foldl Client.receive client) uid = (standing t uid).or (shownHerd client uid) := by
  have distinct : (t.npcs.toList.filter Npc.alive).Pairwise (fun one other => one.uid ≠ other.uid) := (npcs_distinct stocked).filter _
  have neighbourly (message : Message) (told : message ∈ neighbourInfos t sid) : Hushed shownHerd message := by
    obtain ⟨other, _, rfl⟩ := List.mem_map.mp told
    exact hushed_herd _ id
  have own : shownHerd (client.receive (.charInfo (ownInfo (t.player sid)))) = shownHerd client := hushed_herd _ id client
  rw [greeting, List.foldl_cons, List.foldl_append, hushed_fold shownHerd _ neighbourly, npcSpawns, spawns_shown _ distinct, own, standing]

theorem select_mirrors (selects : selecting s input = some (sid, req, row)) (stocked : Stocked s) (unsent : s.sent = [])
    (open_ : s.line sid = some true) (mirrors : Mirrors clients s sid) :
    shownHerd (shown clients (step data s input) sid) = standing (step data s input) := by
  have entered := (step_selecting data s sid req input row selects).2.2.2
  have still := standing_herd s _ (select_herd data s sid req row input selects)
  have same : herd (admitted (facing s input) sid req row) = herd s := admitted_herd s sid req row input
  have ready := stocked_same same stocked
  obtain ⟨info, inboxes, _⟩ := enter_game_inbox data (admitted (facing s input) sid req row) sid
  have opened := inboxes ((admitted_line s sid req row input sid).trans open_)
  have silent : (admitted (facing s input) sid req row).sent = [] := unsent
  have settled (message : Message) (told : message ∈ Message.attendanceInfo info ::
      settling data (admitted (facing s input) sid req row) sid (entranceInventory (admitted (facing s input) sid req row) sid)) :
      Hushed shownHerd message := by
    rcases List.mem_cons.mp told with rfl | told
    · exact hushed_herd _ id
    · rcases List.mem_cons.mp told with rfl | told
      · exact hushed_herd _ id
      · rw [outfit] at told
        split at told
        · obtain rfl := List.mem_singleton.mp told
          exact hushed_herd _ id
        · exact absurd told List.not_mem_nil
  have before : shownHerd (clients sid) = if (s.player sid).loggedIn = true then standing s else fun _ => none := by
    rw [← mirrors, shown, unsent]
    rfl
  funext uid
  rw [still, shown, entered, opened, silent, inbox, List.filterMap_nil, List.nil_append, List.foldl_append,
    hushed_fold shownHerd _ settled, greeting_herd sid _ ready, standing_herd s _ same, before]
  split
  · exact Option.or_self
  · exact Option.or_none

theorem select_mirrors_other (selects : selecting s input = some (sid, req, row)) (unsent : s.sent = []) (other : SessionId)
    (apart : other ≠ sid) (mirrors : Mirrors clients s other) : Mirrors clients (step data s input) other := by
  have entered := (step_selecting data s sid req input row selects).2.2.2
  obtain ⟨_, _, players, _⟩ := select_items data s sid req input row selects
  obtain ⟨_, _, inboxes⟩ := enter_game_inbox data (admitted (facing s input) sid req row) sid
  have silent : (admitted (facing s input) sid req row).sent = [] := unsent
  have quiet : Unseen shownHerd clients other s (step data s input) := by
    rw [Unseen, shown, shown, entered, inboxes other apart, silent, unsent, inbox, List.filterMap_nil, List.nil_append]
    apply hushed_fold shownHerd
    intro message told
    split at told
    · obtain rfl := List.mem_singleton.mp told
      exact hushed_herd _ id
    · exact absurd told List.not_mem_nil
  exact mirrors_quiet clients s other mirrors quiet (by rw [(players other apart).1]) (standing_herd s _ (select_herd data s sid req row input selects))

theorem refused_mirrors (alive : s.fault = none) (here : sid ∈ s.sessions) (asks : input.event = .packet sid (.charSelect req))
    (stays : selecting s input = none) (other : SessionId) (mirrors : Mirrors clients s other) : Mirrors clients (step data s input) other := by
  have missing : ((facing s input).procReply (loginCall (facing s input) sid req)).row = none := by
    rw [selecting, asks] at stays
    simp only [alive, Option.isNone_none, here, and_self, if_true, Option.map_eq_none_iff] at stays
    exact stays
  rw [step_alive data s input alive, asks, handle_event_here data (facing s input) sid _ here]
  rw [show handle data (facing s input) sid (.charSelect req) = onCharSelect data (facing s input) sid req from rfl,
    on_char_select_missing data (facing s input) sid req missing]
  exact mirrors_quiet clients s other mirrors (Unseen.send (unseen_same (by rfl)) sid _ (hushed_herd _ id)) (by rfl) (by rfl)

end Selections

section Stage

variable (data : GameData)

structure Watching (scene : Scene) : Prop where
  stocked : Stocked scene.server
  party : PartyInvariant scene.server
  watching : ∀ sid, scene.server.line sid = some true →
    shownHerd (scene.clients sid) = if (scene.server.player sid).loggedIn = true then standing scene.server else fun _ => none

theorem do_accept_line (s : ServerState) (sid : SessionId) : (doAccept s).line sid =
    if s.nextSessionId ∉ s.sessions ∧ sid = s.nextSessionId then some true else s.line sid := by
  rw [doAccept]
  by_cases taken : s.nextSessionId ∈ s.sessions
  · rw [if_pos taken, if_neg (fun both => both.1 taken)]
  · rw [if_neg taken]
    by_cases same : sid = s.nextSessionId
    · rw [if_pos ⟨taken, same⟩, same]
      simp [ServerState.line]
    · have away : compare s.nextSessionId sid ≠ .eq := fun equal => same (Std.compare_eq_iff_eq.mp equal).symm
      rw [if_neg (fun both => same both.2)]
      simp only [ServerState.line, Std.ExtTreeMap.getElem?_insert, if_neg away]

theorem set_unconnected_line (s : ServerState) (sid other : SessionId) (open_ : (setUnconnected s sid).line other = some true) :
    s.line other = some true := by
  simp only [ServerState.line, setUnconnected, Std.ExtTreeMap.getElem?_modify] at open_
  split at open_
  · cases known : s.sessions[sid]? with
    | none => simp [known] at open_
    | some session => simp [known] at open_
  · exact open_

theorem seat_present {Seat : Type} (fresh : Seat) (seats : SessionId → Seat) (s : ServerState) (input : Input) (sid : SessionId)
    (here : sid ∈ s.sessions) : seat fresh seats (newcomer s input) sid = seats sid := by
  rw [newcomer]
  split
  · rename_i enters
    have apart : sid ≠ s.nextSessionId := fun same => enters.2.2 (same ▸ here)
    exact Function.update_of_ne apart fresh seats
  · rfl

theorem step_mirrors (clients : SessionId → Client) (s : ServerState) (input : Input) (stocked : Stocked s)
    (after : Stocked (step data s input)) (indexed : s.party.Indexed)
    (unsent : s.sent = []) (other : SessionId) (was : s.line other = some true) (mirrors : Mirrors clients s other)
    (open_ : (step data s input).line other = some true) : Mirrors clients (step data s input) other := by
  cases dead : s.fault with
  | some fault => rwa [step_dead data s input fault dead]
  | none =>
      cases happens : input.event with
      | accept =>
          have players := (idle_do_accept (facing s input)).players other
          rw [step_alive data s input dead, happens]
          have sent : (doAccept (facing s input)).sent = s.sent := by
            rw [doAccept]
            split <;> rfl
          have quiet : Unseen shownHerd clients other s (doAccept (facing s input)) := unseen_same sent
          exact mirrors_quiet clients s other mirrors quiet (congrArg PlayerData.loggedIn players) (standing_herd s _ (do_accept_herd (facing s input)))
      | writeError sid =>
          have players := (idle_set_unconnected (facing s input) sid).players other
          rw [step_alive data s input dead, happens]
          exact mirrors_quiet clients s other mirrors (unseen_same rfl) (congrArg PlayerData.loggedIn players) rfl
      | disconnect sid =>
          rw [step_alive data s input dead, happens] at open_ ⊢
          by_cases here : sid ∈ s.sessions
          · rw [disconnect_here data (facing s input) sid here] at open_ ⊢
            have said := (on_disconnect_speaks (setUnconnected (facing s input) sid) sid).weaken (fun message answers => hushed_herd message
              (by cases message <;> first | exact id | exact absurd answers id))
            have apart : other ≠ sid := by
              rintro rfl
              have gone := (on_disconnect_departed (setUnconnected (facing s input) other) other).gone
              exact gone ((mem_line _ other).mpr (by rw [open_]; rfl))
            have left := (on_disconnect_departed (setUnconnected (facing s input) sid) sid).players other apart
            have marked := (idle_set_unconnected (facing s input) sid).players other
            have quiet : Unseen shownHerd clients other s (setUnconnected (facing s input) sid) := unseen_same rfl
            exact mirrors_quiet clients s other mirrors (quiet.trans (said.unseen clients other))
              (congrArg PlayerData.loggedIn (left.trans marked)) (standing_herd s _ (on_disconnect_herd (setUnconnected (facing s input) sid) sid))
          · rwa [disconnect_absent data (facing s input) sid here]
      | packet sid request =>
          by_cases here : sid ∈ s.sessions
          · have acts : step data s input = handle data (facing s input) sid request := by
              rw [step_alive data s input dead, happens, handle_event_here data (facing s input) sid request here]
            cases request with
            | charSelect req =>
                cases selects : selecting s input with
                | none => exact refused_mirrors data clients s sid req input dead here happens selects other mirrors
                | some selection =>
                    obtain ⟨owner, asked, row⟩ := selection
                    by_cases own : other = owner
                    · subst own
                      have playing := (select_view data s other asked PlayerData.loggedIn (fun _ _ same => same.view_eq PlayerData.loggedIn)
                        (fun _ _ same => same.view_eq PlayerData.loggedIn) input row selects).1
                      obtain ⟨_, _, chosen⟩ := playing
                      rw [Mirrors, select_mirrors data clients s other asked row input selects stocked unsent was mirrors, chosen]
                      exact (if_pos rfl).symm
                    · exact select_mirrors_other data clients s owner asked row input selects unsent other own mirrors
            | attack atk =>
                have ready : Stocked (facing s input) := stocked_same (by rfl) stocked
                rw [acts] at after ⊢
                exact on_attack_mirrors data clients (facing s input) sid other ready atk after indexed was mirrors
            | _ =>
                rw [acts]
                exact handle_mirrors data clients (facing s input) sid other _ (by simp) (by simp) mirrors
          · rw [step_alive data s input dead, happens, handle_event_absent data (facing s input) sid request here]
            exact mirrors

theorem step_newcomer (s : ServerState) (input : Input) (sid : SessionId) (enters : newcomer s input = some sid) :
    step data s input = doAccept (facing s input) ∧ sid = s.nextSessionId ∧ sid ∉ s.sessions := by
  rw [newcomer, Option.ite_none_right_eq_some] at enters
  obtain ⟨⟨accepts, alive, fresh⟩, same⟩ := enters
  obtain rfl := Option.some.inj same
  refine ⟨?_, rfl, fresh⟩
  rw [step_alive data s input alive, accepts]
  rfl

theorem step_line_opens (s : ServerState) (input : Input) (indexed : s.party.Indexed) (sid : SessionId)
    (open_ : (step data s input).line sid = some true) : s.line sid = some true ∨ newcomer s input = some sid := by
  cases dead : s.fault with
  | some fault =>
      rw [step_dead data s input fault dead] at open_
      exact .inl open_
  | none =>
      cases happens : input.event with
      | accept =>
          have accepted : step data s input = doAccept (facing s input) := by
            rw [step_alive data s input dead, happens]
            rfl
          rw [accepted, do_accept_line] at open_
          by_cases enters : (facing s input).nextSessionId ∉ (facing s input).sessions ∧ sid = (facing s input).nextSessionId
          · right
            rw [enters.2]
            exact if_pos ⟨happens, dead, enters.1⟩
          · rw [if_neg enters] at open_
            exact .inl open_
      | writeError other =>
          rw [step_alive data s input dead, happens] at open_
          exact .inl (set_unconnected_line (facing s input) other sid open_)
      | disconnect other =>
          rw [step_alive data s input dead, happens] at open_
          by_cases here : other ∈ s.sessions
          · rw [disconnect_here data (facing s input) other here] at open_
            have apart : sid ≠ other := by
              rintro rfl
              have gone := (on_disconnect_departed (setUnconnected (facing s input) sid) sid).gone
              exact gone ((mem_line _ sid).mpr (by rw [open_]; rfl))
            rw [on_disconnect_line (facing s input) other sid apart] at open_
            exact .inl open_
          · rw [disconnect_absent data (facing s input) other here] at open_
            exact .inl open_
      | packet other request =>
          rw [step_alive data s input dead, happens] at open_
          by_cases here : other ∈ s.sessions
          · rw [handle_event_here data (facing s input) other request here, handle_line data (facing s input) indexed] at open_
            exact .inl open_
          · rw [handle_event_absent data (facing s input) other request here] at open_
            exact .inl open_

theorem stage_watching (scene : Scene) (input : Input) (lasts : scene.server.nextNpcUid.toNat + (stepKill scene.server input).isSome.toNat < 2 ^ 64)
    (watching : Watching scene) : Watching (stageStep data scene input) := by
  let s : ServerState := { scene.server with sent := [] }
  have stocked : Stocked s := stocked_same (by rfl) watching.stocked
  have after : Stocked (step data s input) := step_stocked data s input lasts stocked
  have party : PartyInvariant s := ⟨watching.party.indexed, watching.party.honest, watching.party.attended⟩
  refine ⟨after, step_party_invariant data s input party, fun sid open_ => ?_⟩
  rcases step_line_opens data s input party.indexed sid open_ with was | enters
  · have here : sid ∈ scene.server.sessions := (mem_line scene.server sid).mpr (by
      rw [show scene.server.line sid = some true from was]
      rfl)
    have seated := seat_present {} scene.clients scene.server input sid here
    have before : Mirrors (seat {} scene.clients (newcomer scene.server input)) s sid := by
      have unheard : shown (seat {} scene.clients (newcomer scene.server input)) s sid = scene.clients sid := seated
      rw [Mirrors, unheard]
      exact watching.watching sid was
    exact step_mirrors data _ s input stocked after party.indexed rfl sid was before open_
  · obtain ⟨accepted, own, absent⟩ := step_newcomer data s input sid enters
    have taken : newcomer scene.server input = some sid := enters
    have sent : (step data s input).sent = [] := by
      rw [accepted, doAccept]
      split <;> rfl
    have player : (step data s input).player sid = {} := by
      rw [accepted]
      exact ((idle_do_accept (facing s input)).players sid).trans (player_absent s sid absent)
    have fresh : (stageStep data scene input).clients sid = {} := by
      change (inbox (step data s input).sent sid).foldl Client.receive (seat {} scene.clients (newcomer scene.server input) sid) = {}
      rw [sent, taken]
      exact Function.update_self sid {} scene.clients
    have nobody : ((stageStep data scene input).server.player sid).loggedIn = false := congrArg PlayerData.loggedIn player
    rw [fresh, nobody]
    rfl

theorem boot_watching (db : Database) (draw : Nat → Nat) : Watching (Scene.boot db draw) where
  stocked := boot_stocked db draw
  party := boot_party_invariant db draw
  watching := by
    intro sid open_
    simp [Scene.boot, boot, ServerState.line] at open_

-- The kills of a run, each of which takes one uid from the counter.
def sceneKills (scene : Scene) (inputs : List Input) : Nat :=
  Machine.count (stageStep data) (fun scene input => (stepKill scene.server input).isSome) scene inputs

def kills (relay : Relay) (turns : List Turn) : Nat :=
  Machine.count (relayStep data) (fun relay turn => turn.served.any (fun input => (stepKill relay.server input).isSome)) relay turns

theorem kills_append (relay : Relay) (first second : List Turn) :
    kills data relay (first ++ second) = kills data relay first + kills data (Machine.run (relayStep data) relay first) second :=
  Machine.count_append _ _ relay first second

structure Onward (start : Scene) (counter : Nat) (scene : Scene) : Prop where
  counter : scene.server.nextNpcUid.toNat = counter
  watching : Watching scene
  renews : Renews start.server scene.server

theorem stage_onward (start scene : Scene) (counter : Nat) (input : Input) (onward : Onward start counter scene)
    (lasts : counter + (stepKill scene.server input).isSome.toNat < 2 ^ 64) :
    Onward start (counter + (stepKill scene.server input).isSome.toNat) (stageStep data scene input) := by
  have handed := onward.counter
  subst handed
  have reissues : Reissues scene.server (stageStep data scene input).server (stepKill scene.server input) :=
    step_reissues data { scene.server with sent := [] } input (fitted_same (by rfl) onward.watching.stocked.fit)
  exact ⟨reissues_counter reissues lasts, stage_watching data scene input lasts onward.watching,
    onward.renews.trans (reissues_renews reissues lasts)⟩

theorem stage_run_onward (scene : Scene) (inputs : List Input) (watching : Watching scene)
    (few : scene.server.nextNpcUid.toNat + sceneKills data scene inputs < 2 ^ 64) :
    Onward scene (scene.server.nextNpcUid.toNat + sceneKills data scene inputs) (Machine.run (stageStep data) scene inputs) := by
  apply Machine.run_counted (stageStep data) _ (Onward scene) (2 ^ 64) _ scene inputs _ ⟨rfl, watching, Renews.refl scene.server⟩ few
  exact fun number state input onward lasts => stage_onward data scene state number input onward lasts

theorem turns_onward (relay : Relay) (turns : List Turn) (watching : Watching relay.drained)
    (few : relay.server.nextNpcUid.toNat + kills data relay turns < 2 ^ 64) :
    Onward relay.drained (relay.server.nextNpcUid.toNat + kills data relay turns) (Machine.run (relayStep data) relay turns).drained := by
  have same : kills data relay turns = sceneKills data relay.drained (turns.filterMap Turn.served) :=
    (relay_simulates data).count (fun scene input => (stepKill scene.server input).isSome) relay turns
  rw [same] at few ⊢
  rw [(relay_simulates data).run relay turns]
  exact stage_run_onward data relay.drained _ watching few

-- Every connected session in the game to which nothing is under way shows the herd
-- as it stands.
def Relay.Mirrored (relay : Relay) : Prop :=
  ∀ sid, (relay.server.player sid).loggedIn = true → relay.server.line sid = some true → (relay.feeds sid).pending = [] →
    shownHerd (relay.feeds sid).client = standing relay.server

theorem killed_retires (relay : Relay) (stocked : Stocked relay.server) (input : Input) (killed : Fin maxNpc)
    (kill : stepKill relay.server input = some killed) :
    (getElem relay.server.npcs killed killed.isLt).uid ∉ uidsOf (relayStep data relay (.serve input)).server := by
  have reissues : Reissues relay.server (relayStep data relay (.serve input)).server (stepKill relay.server input) :=
    step_reissues data { relay.server with sent := [] } input (fitted_same (by rfl) stocked.fit)
  rw [kill] at reissues
  obtain ⟨_, fresh, kept⟩ := reissues
  intro borne
  obtain ⟨index, same⟩ := (mem_uids _ _).mp borne
  by_cases own : index = killed
  · rw [own, fresh] at same
    exact UInt64.ne_of_lt (stocked.issued killed) same.symm
  · rw [kept index own] at same
    exact own (stocked.distinct index killed same)

theorem kills_le_length (relay : Relay) (turns : List Turn) : kills data relay turns ≤ turns.length :=
  Machine.count_le_length (relayStep data) _ relay turns

theorem turn_fitted (relay : Relay) (turn : Turn) (fitted : Fitted relay.server) : Fitted (relayStep data relay turn).server := by
  cases turn with
  | serve input => exact step_fitted data { relay.server with sent := [] } input (fitted_same (by rfl) fitted)
  | deliver sid => exact fitted

theorem turns_fitted (relay : Relay) (turns : List Turn) (fitted : Fitted relay.server) :
    Fitted (Machine.run (relayStep data) relay turns).server := by
  have always := Machine.guarded_trivial (relayStep data) (fun _ _ => True) (fun _ _ => trivial) relay turns
  apply Machine.run_invariant (relayStep data) (fun _ _ => True) (fun relay => Fitted relay.server) _ relay turns fitted always
  exact fun relay turn fitted _ => turn_fitted data relay turn fitted

-- The three parts of a run are arbitrary, so `early` is every state that can be reached
-- and the rest every way it can go on. Uids last until uint64_t is exhausted.
theorem npcs_mirrored (db : Database) (draw : Nat → Nat) (first second third : List Turn) :
    let early := Machine.run (relayStep data) (Relay.boot db draw) first
    let middle := Machine.run (relayStep data) early second
    let late := Machine.run (relayStep data) middle third
    Fitted early.server ∧
      (∀ input, Reissues early.server (relayStep data early (.serve input)).server (stepKill early.server input)) ∧
      (maxNpc + 1 + kills data (Relay.boot db draw) (first ++ second ++ third) < 2 ^ 64 →
        Stocked early.server ∧ early.Mirrored ∧
          (∀ input killed, stepKill early.server input = some killed →
            (getElem early.server.npcs killed killed.isLt).uid ∉ uidsOf (relayStep data early (.serve input)).server) ∧
          Renews early.server middle.server ∧
          ∀ uid, uid ∈ uidsOf early.server → uid ∉ uidsOf middle.server → uid ∉ uidsOf late.server) := by
  intro early middle late
  have fitted : Fitted early.server := turns_fitted data (Relay.boot db draw) first (boot_fitted db draw)
  refine ⟨fitted, fun input => step_reissues data { early.server with sent := [] } input (fitted_same (by rfl) fitted), fun few => ?_⟩
  have booted : (Relay.boot db draw).server.nextNpcUid.toNat = maxNpc + 1 := rfl
  have parts : kills data (Relay.boot db draw) (first ++ second ++ third) =
      kills data (Relay.boot db draw) first + kills data early second + kills data middle third := by
    rw [kills_append, kills_append, Machine.run_append]
  have began := turns_onward data (Relay.boot db draw) first (boot_watching db draw) (by omega)
  have handed : early.server.nextNpcUid.toNat = _ := began.counter
  have went := turns_onward data early second began.watching (by omega)
  have counted : middle.server.nextNpcUid.toNat = _ := went.counter
  have ended := turns_onward data middle third went.watching (by omega)
  have stocked : Stocked early.server := began.watching.stocked
  refine ⟨stocked, fun sid inGame open_ quiet => ?_, killed_retires data early stocked, went.renews,
    fun uid => retired stocked went.renews ended.renews uid⟩
  have shows := began.watching.watching sid open_
  have drained : early.drained.clients sid = (early.feeds sid).client := Feed.drained_quiet (early.feeds sid) quiet
  have server : (Machine.run (relayStep data) (Relay.boot db draw) first).drained.server = early.server := rfl
  rw [drained, server, if_pos inGame] at shows
  exact shows

def blow : Input := ⟨.packet 1 (.attack ⟨1⟩), [], []⟩

-- Session 1 enters beside NPC 1, strikes it twice and has heard of it all; the next
-- blow kills.
def twoBlows : List Turn :=
  [.serve ⟨.accept, [], []⟩, .serve ⟨.packet 1 (.login ⟨[49]⟩), [], []⟩, .serve ⟨.packet 1 (.charSelect ⟨1⟩), [], []⟩, .serve blow,
    .serve blow] ++ List.replicate 20 (.deliver 1)

def firstNpc : Fin maxNpc := ⟨0, by decide⟩

def afterwards : List Turn := [.deliver 1, .serve blow, .deliver 1]

theorem third_blow_renews :
    let early := Machine.run (relayStep emptyData) (Relay.boot twoCharacters (fun _ => 5)) twoBlows
    let middle := Machine.run (relayStep emptyData) early [.serve blow]
    let late := Machine.run (relayStep emptyData) middle afterwards
    shownHerd (early.feeds 1).client = standing early.server ∧ 1 ∈ uidsOf early.server ∧ 6 ∈ uidsOf middle.server ∧
      1 ∉ uidsOf middle.server ∧ 1 ∉ uidsOf late.server := by
  intro early middle late
  have short : (twoBlows ++ [Turn.serve blow] ++ afterwards).length = 29 := by simp [twoBlows, afterwards]
  have few := kills_le_length emptyData (Relay.boot twoCharacters (fun _ => 5)) (twoBlows ++ [.serve blow] ++ afterwards)
  rw [short] at few
  obtain ⟨_, reissued, lasting⟩ := npcs_mirrored emptyData twoCharacters (fun _ => 5) twoBlows [.serve blow] afterwards
  obtain ⟨_, mirrored, retires, _, gone⟩ := lasting (Nat.lt_of_le_of_lt (Nat.add_le_add_left few _) (by decide))
  have seen : (early.server.player 1).loggedIn = true ∧ early.server.line 1 = some true ∧ (early.feeds 1).pending.length = 0 ∧
      stepKill early.server blow = some firstNpc ∧ (getElem early.server.npcs firstNpc firstNpc.isLt).uid = 1 ∧ early.server.nextNpcUid = 6 := by
    decide +kernel
  obtain ⟨inGame, open_, quiet, kill, bears, next⟩ := seen
  have handed := reissued blow
  have left := retires blow firstNpc kill
  have stood : 1 ∈ uidsOf early.server := (mem_uids early.server 1).mpr ⟨firstNpc, bears⟩
  rw [kill] at handed
  have fresh : 6 ∈ uidsOf middle.server := (mem_uids middle.server 6).mpr ⟨firstNpc, handed.2.1.trans next⟩
  have absent : 1 ∉ uidsOf middle.server := bears ▸ left
  exact ⟨mirrored 1 inGame open_ (List.length_eq_zero_iff.mp quiet), stood, fresh, absent, gone 1 stood absent⟩

end Stage

end MmorpgSimulator
