import MmorpgSimulator.Views

set_option autoImplicit false

namespace MmorpgSimulator

def shownGold (client : Client) : UInt64 := client.myPlayer.gold

section Shown

variable {View : Type} {view : Client → View} {clients : SessionId → Client} {sid : SessionId}

theorem gold_aloof : Aloof shownGold where
  blow := by
    intro result client
    by_cases hit : result.success ≠ 0
    · simp [Client.receive, Client.onAttackResult, hit, shownGold]
    · simp [Client.receive, Client.onAttackResult, hit]
  spawn := fun _ _ => rfl
  drop := fun _ _ => rfl
  progress := fun _ _ => rfl

theorem credit_kill_unseen (exp : ∀ update, Hushed view (.expUpdate update)) (level : ∀ lvup, Hushed view (.levelUp lvup))
    (s : ServerState) (mid : SessionId) (reward gold : UInt32) : Unseen view clients sid s (creditKill s mid reward gold) := by
  have paid : Unseen view clients sid s (s.setPlayer mid (rewarded (s.player mid) reward gold)) := unseen_same rfl
  have told := paid.send mid _ (exp
    { exp := (rewarded (s.player mid) reward gold).exp.toUInt32, maxExp := (rewarded (s.player mid) reward gold).maxExp })
  refine Unseen.sendAll (told.trans (unseen_same (by rfl))) mid _ (fun message member => ?_)
  obtain ⟨lvup, _, rfl⟩ := List.mem_map.mp member
  exact level lvup

variable (data : GameData) (aloof : Aloof view) (exp : ∀ update, Hushed view (.expUpdate update)) (level : ∀ lvup, Hushed view (.levelUp lvup))
include aloof exp level

theorem credit_member_unseen (killer : SessionId) (reward gold : UInt32) (s : ServerState) (mid : SessionId) :
    Unseen view clients sid s (creditMember data killer reward gold s mid) := by
  have credited : Unseen view clients sid s (creditKill s mid reward gold) := credit_kill_unseen exp level s mid reward gold
  rw [creditMember]
  split
  · exact unseen_same rfl
  · split
    · exact credited.trans (update_quest_progress_unseen data aloof mid _)
    · exact credited

theorem share_kill_unseen (s : ServerState) (killer : SessionId) (npc : Npc) :
    Unseen view clients sid s (shareKill data s killer npc) := by
  rw [shareKill]
  cases s.party.playerParty[killer]? with
  | none => exact credit_kill_unseen exp level s killer _ _
  | some partyId =>
      exact Machine.foldl_keeps _ (Unseen view clients sid s)
        (fun t mid before => before.trans (credit_member_unseen data aloof exp level killer _ _ t mid)) _ _ (unseen_same rfl)

theorem kill_npc_unseen (s : ServerState) (killer : SessionId) (index : Fin maxNpc) :
    Unseen view clients sid (announceDeath s index) (killNpc data s killer index) := by
  have shared : Unseen view clients sid (announceDeath s index) (shareKill data (announceDeath s index) killer s.npcs[index]) :=
    share_kill_unseen data aloof exp level _ killer _
  have quests := shared.trans (update_quest_progress_unseen data aloof killer _)
  exact (quests.trans (drop_item_unseen data aloof killer _)).trans (respawn_unseen aloof _)

end Shown

section Gold

variable (data : GameData) (clients : SessionId → Client) (s : ServerState) (sid : SessionId)

theorem announce_death_shown (index : Fin maxNpc) (playing : (s.player sid).loggedIn = true) (open_ : s.line sid = some true) :
    shownGold (shown clients (announceDeath s index) sid) = shownGold (shown clients s sid) + (getElem s.npcs index index.isLt).goldReward.toUInt64 := by
  have listed : sid ∈ s.inGame ∧ s.line sid = some true := ⟨(mem_in_game s sid).mpr playing, open_⟩
  rw [shown_sends clients sid s (announceDeath s index) _ rfl, inbox_deliver_each s _ (in_game_once s), if_pos listed]
  rfl

def shownReward (atk : CsAttack) : UInt64 := ((slain s sid atk).map (fun npc => npc.goldReward.toUInt64)).getD 0

def paidReward (atk : CsAttack) (other : SessionId) : UInt64 :=
  ((slain s sid atk).map (fun npc => UInt64.ofNat (killShare s sid other npc))).getD 0

theorem slain_none (atk : CsAttack) (spared : slain s sid atk = none) :
    onAttack data s sid atk = s.send sid (.attackResult { success := 0 }) ∨ ∃ index, onAttack data s sid atk = strike s sid index := by
  rw [onAttack]
  cases target : findTarget s (s.player sid) atk.targetUid with
  | none => exact .inl rfl
  | some index =>
      have lives : (struck (s.player sid) s.npcs[index]).hp ≠ 0 := by
        intro dies
        have slays : slain s sid atk = some s.npcs[index] := by
          rw [slain, target]
          exact if_pos dies
        exact absurd (slays.symm.trans spared) (by simp)
      exact .inr ⟨index, if_neg lives⟩

theorem on_attack_shown (atk : CsAttack) (other : SessionId) (playing : (s.player other).loggedIn = true)
    (open_ : s.line other = some true) :
    shownGold (shown clients (onAttack data s sid atk) other) = shownGold (shown clients s other) + shownReward s sid atk := by
  rw [shownReward]
  cases slew : slain s sid atk with
  | none =>
      have quiet : Unseen shownGold clients other s (onAttack data s sid atk) := by
        rcases slain_none data s sid atk slew with missed | ⟨index, hit⟩
        · rw [missed]
          exact (unseen_same rfl).send sid _ (gold_aloof.blow _)
        · rw [hit]
          exact strike_unseen gold_aloof sid index s
      exact Eq.trans quiet (UInt64.add_zero _).symm
  | some npc =>
      obtain ⟨index, target, dies, rfl⟩ := slain_some s sid atk npc slew
      rw [on_attack_kills data s sid atk index target dies]
      have killed : Unseen shownGold clients other _ _ :=
        kill_npc_unseen data gold_aloof (fun _ _ => rfl) (fun _ _ => rfl) (strike s sid index) sid index
      have blow : Unseen shownGold clients other s (strike s sid index) := strike_unseen gold_aloof sid index s
      have reward : (strike s sid index).npcs[index].goldReward = s.npcs[index].goldReward := by
        rw [strike_npc]
        rfl
      rw [killed, announce_death_shown clients (strike s sid index) other index playing open_, blow, reward]
      rfl

theorem kill_npc_sessions (index : Fin maxNpc) (t : ServerState) :
    (killNpc data t sid index).sessions = (shareKill data (announceDeath t index) sid (getElem t.npcs index index.isLt)).sessions := by
  rw [killNpc]
  exact (respawn_sessions _).trans ((drop_item_sessions data _ sid).trans (update_quest_progress_sessions data sid _))

theorem kill_npc_gold (index : Fin maxNpc) (here : sid ∈ s.sessions) (other : SessionId) :
    (killNpc data (strike s sid index) sid index).gold other = s.gold other + UInt64.ofNat (killShare s sid other (getElem s.npcs index index.isLt)) := by
  have shared := share_kill_becomes data s sid (strike s sid index).npcs[index] here (by rfl)
    (announce_death_becomes s (strike_becomes s sid index) index)
  have rewards : killShare s sid other (strike s sid index).npcs[index] = killShare s sid other s.npcs[index] := by
    rw [strike_npc]
    rfl
  rw [ServerState.gold, player_same _ _ (kill_npc_sessions data sid index (strike s sid index)) other, shared.golds other, rewards]

theorem on_attack_gold (atk : CsAttack) (here : sid ∈ s.sessions) (other : SessionId) :
    (onAttack data s sid atk).gold other = s.gold other + paidReward s sid atk other := by
  rw [paidReward]
  cases slew : slain s sid atk with
  | none =>
      have still : (onAttack data s sid atk).gold other = s.gold other := by
        rcases slain_none data s sid atk slew with missed | ⟨index, hit⟩
        · rw [missed]
          rfl
        · rw [hit]
          rfl
      exact still.trans (UInt64.add_zero _).symm
  | some npc =>
      obtain ⟨index, target, dies, rfl⟩ := slain_some s sid atk npc slew
      rw [on_attack_kills data s sid atk index target dies]
      exact kill_npc_gold data s sid index here other

end Gold

section Agreement

variable (data : GameData)

def Attentive (s : ServerState) : Prop := ∀ sid, (s.player sid).loggedIn = true → s.line sid = some true

def ShowsGold (scene : Scene) : Prop :=
  ∀ sid, (scene.server.player sid).loggedIn = true → shownGold (scene.clients sid) = scene.server.gold sid

def Attacks (input : Input) : Prop := ∃ sid atk, input.event = .packet sid (.attack atk)

def attacking (s : ServerState) (input : Input) : Option (SessionId × CsAttack) :=
  match input.event with
  | .packet sid (.attack atk) => if s.fault.isNone ∧ sid ∈ s.sessions then some (sid, atk) else none
  | _ => none

def paysEveryone (scene : Scene) (input : Input) : Prop :=
  ∀ attack ∈ attacking scene.server input, ∀ other, (scene.server.player other).loggedIn = true →
    paidReward scene.server attack.1 attack.2 other = shownReward scene.server attack.1 attack.2

theorem shows_gold_iff (scene : Scene) :
    ShowsGold scene ↔ ∀ sid ∈ scene.server.inGame, shownGold (scene.clients sid) = scene.server.gold sid :=
  forall_congr' (fun sid => imp_congr_left (mem_in_game scene.server sid).symm)

theorem attentive_iff (s : ServerState) : Attentive s ↔ ∀ sid ∈ s.inGame, s.line sid = some true :=
  forall_congr' (fun sid => imp_congr_left (mem_in_game s sid).symm)

instance (scene : Scene) : Decidable (ShowsGold scene) :=
  @decidable_of_iff' _ _ (shows_gold_iff scene) (List.decidableBAll _ _)

instance (s : ServerState) : Decidable (Attentive s) := @decidable_of_iff' _ _ (attentive_iff s) (List.decidableBAll _ _)

instance (scene : Scene) (input : Input) : Decidable (paysEveryone scene input) :=
  match attacks : attacking scene.server input with
  | none => .isTrue (by simp [paysEveryone, attacks])
  | some attack =>
      @decidable_of_iff' _ (∀ other ∈ scene.server.inGame,
        paidReward scene.server attack.1 attack.2 other = shownReward scene.server attack.1 attack.2)
        (by simp [paysEveryone, attacks, mem_in_game]) (List.decidableBAll _ _)

theorem handle_logged_in (s : ServerState) (sid : SessionId) (request : Request) (unselected : ∀ req, request ≠ .charSelect req)
    (other : SessionId) : ((handle data s sid request).player other).loggedIn = (s.player other).loggedIn := by
  have frame := view_frame PlayerData.loggedIn (fun _ _ same => same.view_eq PlayerData.loggedIn)
  exact frame.handle data (view_fills PlayerData.loggedIn sid)
    (view_wears PlayerData.loggedIn (fun _ _ same => same.view_eq PlayerData.loggedIn) sid) (view_logs PlayerData.loggedIn)
    (grows_of_progress frame (fun t owner player same => same_view_set PlayerData.loggedIn t owner player (same.view_eq PlayerData.loggedIn)))
    request unselected other

theorem on_attack_line (s : ServerState) (sid : SessionId) (atk : CsAttack) (here : sid ∈ s.sessions) (other : SessionId) :
    (onAttack data s sid atk).line other = s.line other := by
  cases slew : slain s sid atk with
  | none =>
      rcases slain_none data s sid atk slew with missed | ⟨index, hit⟩
      · rw [missed]
        rfl
      · rw [hit]
        rfl
  | some npc =>
      obtain ⟨index, target, dies, rfl⟩ := slain_some s sid atk npc slew
      have shared := share_kill_becomes data s sid (strike s sid index).npcs[index] here (by rfl)
        (announce_death_becomes s (strike_becomes s sid index) index)
      rw [on_attack_kills data s sid atk index target dies, ServerState.line, kill_npc_sessions]
      exact shared.lines other

theorem attack_attentive (s : ServerState) (sid : SessionId) (atk : CsAttack) (here : sid ∈ s.sessions) (attentive : Attentive s) :
    Attentive (onAttack data s sid atk) := by
  intro other playing
  rw [on_attack_line data s sid atk here other]
  exact attentive other ((handle_logged_in data s sid (.attack atk) nofun other).symm.trans playing)

theorem step_attacking (s : ServerState) (input : Input) (sid : SessionId) (atk : CsAttack) (attacks : attacking s input = some (sid, atk)) :
    sid ∈ s.sessions ∧ step data s input = onAttack data (facing s input) sid atk := by
  cases event : input.event with
  | packet owner request =>
      cases request with
      | attack asked =>
          simp only [attacking, event, Option.ite_none_right_eq_some, Option.some.injEq, Prod.mk.injEq] at attacks
          obtain ⟨⟨living, here⟩, rfl, rfl⟩ := attacks
          refine ⟨here, ?_⟩
          rw [step_alive data s input (Option.isNone_iff_eq_none.mp living), event, handle_event_here data (facing s input) owner _ here]
          rfl
      | _ => simp [attacking, event] at attacks
  | accept => simp [attacking, event] at attacks
  | writeError _ => simp [attacking, event] at attacks
  | disconnect _ => simp [attacking, event] at attacks

theorem step_not_attacking (s : ServerState) (input : Input) (attacks : Attacks input) (rests : attacking s input = none) :
    (step data s input).sessions = s.sessions ∧ (step data s input).sent = s.sent := by
  obtain ⟨sid, atk, event⟩ := attacks
  cases condition : s.fault with
  | some fault =>
      rw [step_dead data s input fault condition]
      exact ⟨rfl, rfl⟩
  | none =>
      have absent : sid ∉ s.sessions := by simpa [attacking, event, condition] using rests
      rw [step_alive data s input condition, event, handle_event_absent data (facing s input) sid _ absent]
      exact ⟨rfl, rfl⟩

def Scene.facing (scene : Scene) (input : Input) : ServerState := MmorpgSimulator.facing { scene.server with sent := [] } input

theorem scene_step_gold (scene : Scene) (input : Input) (attacks : Attacks input) (attentive : Attentive scene.server)
    (shows : ShowsGold scene) :
    Attentive (sceneStep data scene input).server ∧ (ShowsGold (sceneStep data scene input) ↔ paysEveryone scene input) := by
  cases attacks' : attacking scene.server input with
  | some attack =>
      obtain ⟨sid, atk⟩ := attack
      obtain ⟨here, acts⟩ := step_attacking data { scene.server with sent := [] } input sid atk attacks'
      have server : (sceneStep data scene input).server = onAttack data (scene.facing input) sid atk := acts
      have clients : (sceneStep data scene input).clients = shown scene.clients (onAttack data (scene.facing input) sid atk) :=
        congrArg (shown scene.clients) acts
      have playing (other : SessionId) :
          ((sceneStep data scene input).server.player other).loggedIn = (scene.server.player other).loggedIn := by
        rw [server]
        exact handle_logged_in data (scene.facing input) sid (.attack atk) nofun other
      have differ (other : SessionId) (inGame : (scene.server.player other).loggedIn = true) :
          shownGold ((sceneStep data scene input).clients other) = (sceneStep data scene input).server.gold other ↔
            paidReward scene.server sid atk other = shownReward scene.server sid atk := by
        have told := on_attack_shown data scene.clients (scene.facing input) sid atk other inGame (attentive other inGame)
        have before : shownGold (shown scene.clients (scene.facing input) other) = scene.server.gold other := shows other inGame
        rw [clients, server, told, before, on_attack_gold data (scene.facing input) sid atk here other]
        exact (UInt64.add_right_inj _).trans eq_comm
      have pays : paysEveryone scene input ↔ ∀ other, (scene.server.player other).loggedIn = true →
          paidReward scene.server sid atk other = shownReward scene.server sid atk := by
        simp [paysEveryone, attacks']
      refine ⟨?_, ?_⟩
      · rw [server]
        exact attack_attentive data (scene.facing input) sid atk here attentive
      · rw [pays]
        refine forall_congr' (fun other => ?_)
        rw [playing other]
        exact imp_congr_right (differ other)
  | none =>
      obtain ⟨sessions, sent⟩ := step_not_attacking data { scene.server with sent := [] } input attacks attacks'
      have players (other : SessionId) : (sceneStep data scene input).server.player other = scene.server.player other :=
        player_same _ _ sessions other
      have lines (other : SessionId) : (sceneStep data scene input).server.line other = scene.server.line other :=
        congrArg (fun stored => (stored[other]?).map Session.connected) sessions
      have clients (other : SessionId) : (sceneStep data scene input).clients other = scene.clients other :=
        congrArg (fun sent => (inbox sent other).foldl Client.receive (scene.clients other)) sent
      have pays : paysEveryone scene input := by simp [paysEveryone, attacks']
      refine ⟨fun other inGame => ?_, iff_of_true (fun other inGame => ?_) pays⟩
      · rw [lines]
        exact attentive other (by rwa [players] at inGame)
      · rw [clients, ServerState.gold, players]
        exact shows other (by rwa [players] at inGame)

theorem kill_gold_shown_iff (scene : Scene) (inputs : List Input) (kills : ∀ input ∈ inputs, Attacks input)
    (attentive : Attentive scene.server) (shows : ShowsGold scene) :
    Machine.Throughout (sceneStep data) ShowsGold scene inputs ↔ Machine.Guarded (sceneStep data) paysEveryone scene inputs := by
  apply Machine.throughout_iff_guarded_among (sceneStep data) paysEveryone
    (fun scene => Attentive scene.server ∧ ShowsGold scene) Attacks ShowsGold
  · exact fun _ agreed => agreed.2
  · intro scene input attacks agreed pays
    obtain ⟨still, agrees⟩ := scene_step_gold data scene input attacks agreed.1 agreed.2
    exact ⟨still, agrees.mpr pays⟩
  · intro scene input attacks agreed unpaid after
    exact unpaid ((scene_step_gold data scene input attacks agreed.1 agreed.2).2.mp after)
  · exact kills
  · exact ⟨attentive, shows⟩

def bystander : Scene := ⟨Machine.run (step emptyData) (boot twoCharacters (fun _ => 5)) (crossedInvites.take 6), fun _ => {}⟩

def soloKill : List Input := List.replicate 3 ⟨.packet 1 (.attack ⟨1⟩), [], []⟩

theorem bystander_shows_foreign_gold :
    Attentive bystander.server ∧ ShowsGold bystander ∧ ¬ ShowsGold (Machine.run (sceneStep emptyData) bystander soloKill) := by
  decide +kernel

def hermit : Scene :=
  ⟨Machine.run (step emptyData) (boot twoCharacters (fun _ => 5))
    [⟨.accept, [], []⟩, ⟨.packet 1 (.login ⟨[49]⟩), [], []⟩, ⟨.packet 1 (.charSelect ⟨1⟩), [], []⟩], fun _ => {}⟩

theorem hermit_shows_gold : Machine.Throughout (sceneStep emptyData) ShowsGold hermit soloKill := by
  have kills : ∀ input ∈ soloKill, Attacks input := fun input member => ⟨1, ⟨1⟩, congrArg Input.event (List.eq_of_mem_replicate member)⟩
  exact (kill_gold_shown_iff emptyData hermit soloKill kills (by decide +kernel) (by decide +kernel)).mpr (by decide +kernel)

end Agreement

end MmorpgSimulator
