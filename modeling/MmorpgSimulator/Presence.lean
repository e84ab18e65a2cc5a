import MmorpgSimulator.OtherPlayers
import MmorpgSimulator.NpcMirrors
import MmorpgSimulator.Ownership

set_option autoImplicit false

namespace MmorpgSimulator

-- A client that sees whom it should: in the game all the others there, before it nobody.
structure Attends (view : OthersView) (s : ServerState) (sid : SessionId) : Prop where
  inside : (s.player sid).loggedIn = true →
    view.state ≠ .charSelect ∧ view.self = (s.player sid).accountUid ∧ view.others = othersInGame s sid
  outside : (s.player sid).loggedIn = false →
    view.others = (fun _ => none) ∧ (view.state = .charSelect ∨ view.self = (s.player sid).accountUid)

section Handlers

variable (data : GameData) (clients : SessionId → Client) (s : ServerState) (sid other : SessionId)

theorem attends_same {t : ServerState} (view : OthersView) (attends : Attends view s other) (distinct : DistinctAccounts s)
    (after : DistinctAccounts t) (player : (t.player other).loggedIn = (s.player other).loggedIn ∧ (t.player other).accountUid = (s.player other).accountUid)
    (still : ∀ mid, mid ≠ other → sightOf (t.player mid) = sightOf (s.player mid)) : Attends view t other where
  inside := by
    rw [player.1, player.2, others_in_game_same other distinct after still]
    exact attends.inside
  outside := by
    rw [player.1, player.2]
    exact attends.outside

theorem on_login_sent (login : CsLogin) : ∃ result list, (onLogin data s sid login).sent =
    s.sent ++ s.deliver sid (.loginResult result) ++ s.deliver sid (.charList list) := by
  have sent : ∃ player result list, (onLogin data s sid login).sent =
      (s.setPlayer sid player).sent ++ (s.setPlayer sid player).deliver sid (.loginResult result) ++
        (s.setPlayer sid player).deliver sid (.charList list) := ⟨_, _, _, rfl⟩
  obtain ⟨player, result, list, told⟩ := sent
  rw [deliver_set_player, deliver_set_player] at told
  exact ⟨result, list, told⟩

theorem on_login_attends (login : CsLogin) (unsent : s.sent = []) (here : sid ∈ s.sessions) (open_ : s.line sid = some true)
    (outside : (s.player sid).loggedIn = false) (distinct : DistinctAccounts s) (after : DistinctAccounts (onLogin data s sid login))
    (attends : Attends (othersView (clients other)) s other) :
    Attends (othersView (shown clients (onLogin data s sid login) other)) (onLogin data s sid login) other := by
  have own := on_login_player data s sid login here
  have still (mid : SessionId) : sightOf ((onLogin data s sid login).player mid) = sightOf (s.player mid) := by
    by_cases same : mid = sid
    · rw [same, own, sightOf, sightOf, if_neg (by simp [outside]), if_neg (by simp [outside])]
    · rw [on_login_others data s sid login mid same]
  obtain ⟨result, list, sent⟩ := on_login_sent data s sid login
  rw [shown, sent, unsent, List.nil_append, inbox_append, inbox_deliver, inbox_deliver]
  by_cases same : other = sid
  · subst same
    rw [if_pos ⟨rfl, open_⟩, if_pos ⟨rfl, open_⟩]
    have nobody := (attends.outside outside).1
    refine ⟨fun playing => ?_, fun _ => ⟨nobody, .inl rfl⟩⟩
    rw [own] at playing
    exact absurd (outside.symm.trans playing) (by simp)
  · rw [if_neg (fun both => same both.1), if_neg (fun both => same both.1)]
    have kept := on_login_others data s sid login other same
    exact attends_same s other _ attends distinct after ⟨congrArg PlayerData.loggedIn kept, congrArg PlayerData.accountUid kept⟩
      (fun mid _ => still mid)

def movedPlayer (player : PlayerData) (move : CsMove) : PlayerData :=
  if 0 ≤ player.posX + move.dirX.toInt16 ∧ player.posX + move.dirX.toInt16 < 20 ∧ 0 ≤ player.posY + move.dirY.toInt16 ∧
      player.posY + move.dirY.toInt16 < 20 then
    { player with posX := player.posX + move.dirX.toInt16, posY := player.posY + move.dirY.toInt16 }
  else player

theorem moved_fields (player : PlayerData) (move : CsMove) :
    (movedPlayer player move).loggedIn = player.loggedIn ∧ (movedPlayer player move).accountUid = player.accountUid := by
  rw [movedPlayer]
  split <;> exact ⟨rfl, rfl⟩

theorem meets_player {t : ServerState} (mover : SessionId) (player : PlayerData) (apart : mover ≠ other) (view : OthersView)
    (attends : Attends view s other) (distinct : DistinctAccounts s) (after : DistinctAccounts t)
    (playing : (s.player other).loggedIn = true) (kept : t.player other = s.player other)
    (still : ∀ mid, mid ≠ mover → sightOf (t.player mid) = sightOf (s.player mid))
    (was : ∀ account old, sightOf (s.player mover) = some (account, old) → account = player.accountUid)
    (now : sightOf (t.player mover) = some (player.accountUid, (player.posX, player.posY))) :
    Attends (view.meet player.accountUid (player.posX, player.posY)) t other := by
  obtain ⟨state, self, others⟩ := attends.inside playing
  have foreign : player.accountUid ≠ view.self := by
    intro same
    rw [self] at same
    have seen : sightOf (t.player other) = some (player.accountUid, ((s.player other).posX, (s.player other).posY)) := by
      rw [kept, sight_in_game _ playing, same]
    exact apart (after mover other _ _ _ now seen)
  have alone (mid : SessionId) (old : Place) (away : mid ≠ mover) : sightOf (s.player mid) ≠ some (player.accountUid, old) := by
    rw [← still mid away]
    exact fun seen => away (after mid mover _ _ _ seen now)
  have changed := others_in_game_changed other distinct after mover apart still player.accountUid (some (player.posX, player.posY)) was now alone
  rw [OthersView.meet, if_neg state, if_neg foreign]
  refine ⟨fun _ => ⟨state, by rw [kept]; exact self, ?_⟩, fun outside => ?_⟩
  · rw [changed, ← others]
    rfl
  · rw [kept, playing] at outside
    exact absurd outside (by simp)

theorem on_move_attends (move : CsMove) (unsent : s.sent = []) (here : sid ∈ s.sessions)
    (inPlace : (s.player sid).loggedIn = true ∨ neighbours s sid = []) (distinct : DistinctAccounts s)
    (after : DistinctAccounts (onMove s sid move)) (open_ : s.line other = some true) (attends : Attends (othersView (clients other)) s other) :
    Attends (othersView (shown clients (onMove s sid move) other)) (onMove s sid move) other := by
  let player := movedPlayer (s.player sid) move
  let t := s.setPlayer sid player
  obtain ⟨loggedIn, account⟩ := moved_fields (s.player sid) move
  have own : (onMove s sid move).player sid = player := player_set_self s sid player here
  have rest (mid : SessionId) (apart : mid ≠ sid) : (onMove s sid move).player mid = s.player mid := player_set_other s sid mid player apart
  have line : t.line other = s.line other := line_set_player s sid other player
  have sent : (onMove s sid move).sent = s.sent ++ t.deliver sid (.moveResult { success := 1, posX := player.posX, posY := player.posY }) ++
      (t.inGame.filter (fun mid => mid ≠ sid)).flatMap (fun mid => t.deliver mid (.charInfo (charInfoOf player))) := rfl
  rw [shown, sent, unsent, List.nil_append, inbox_append, inbox_deliver, inbox_deliver_each t _ ((in_game_once t).filter _), List.foldl_append]
  by_cases same : other = sid
  · subst same
    have absent : ¬ (other ∈ t.inGame.filter (fun mid => mid ≠ other) ∧ t.line other = some true) := by simp
    rw [if_neg absent, if_pos ⟨rfl, line.trans open_⟩]
    have quiet := hushed_presence (.moveResult { success := 1, posX := player.posX, posY := player.posY }) id (clients other)
    rw [List.foldl_nil, List.foldl_cons, List.foldl_nil, quiet]
    exact attends_same s other _ attends distinct after ⟨own ▸ loggedIn, own ▸ account⟩ (fun mid apart => by rw [rest mid apart])
  · rw [if_neg (fun both => same both.1), List.foldl_nil]
    have kept := rest other same
    have listed : other ∈ t.inGame.filter (fun mid => mid ≠ sid) ↔ (s.player other).loggedIn = true := by
      rw [List.mem_filter, mem_in_game, decide_eq_true_iff, and_iff_left same]
      exact iff_of_eq (congrArg (fun player => player.loggedIn = true) (player_set_other s sid other player same))
    by_cases playing : (s.player other).loggedIn = true
    · have moverPlays : (s.player sid).loggedIn = true := by
        rcases inPlace with plays | alone
        · exact plays
        · exact absurd ((mem_neighbours sid other).mpr ⟨playing, same⟩) (alone ▸ List.not_mem_nil)
      rw [if_pos ⟨listed.mpr playing, line.trans open_⟩, List.foldl_cons, List.foldl_nil, char_info_meets]
      refine meets_player s other sid player (Ne.symm same) _ attends distinct after playing kept (fun mid apart => by rw [rest mid apart])
        (fun uid old seen => ?_) ?_
      · rw [sight_in_game _ moverPlays] at seen
        exact (Prod.mk.inj (Option.some.inj seen)).1.symm.trans account.symm
      · rw [own, sight_in_game _ (loggedIn.trans moverPlays)]
    · rw [if_neg (fun both => playing (listed.mp both.1)), List.foldl_nil]
      refine ⟨fun inside => ?_, fun _ => ?_⟩
      · rw [kept] at inside
        exact absurd inside playing
      · rw [kept]
        exact attends.outside (by simpa using playing)

end Handlers

section Entering

variable (data : GameData) (clients : SessionId → Client) (s : ServerState) (sid : SessionId) (req : CsCharSelect)
  (row : Int32 × Int64 × Int64) (input : Input)

theorem select_sight (selects : selecting s input = some (sid, req, row)) :
    ((admitted (facing s input) sid req row).player sid).loggedIn = true ∧
      ((admitted (facing s input) sid req row).player sid).accountUid = (s.player sid).accountUid ∧
        ((step data s input).player sid).accountUid = (s.player sid).accountUid ∧
          sightOf ((step data s input).player sid) = sightOf ((admitted (facing s input) sid req row).player sid) := by
  have here := (step_selecting data s sid req input row selects).1
  have ready := admitted_player s sid req row input here
  have entered := select_player data s sid req row input selects
  rw [enteredPlayer, ← ready] at entered
  have account : ((admitted (facing s input) sid req row).player sid).accountUid = (s.player sid).accountUid := by
    rw [ready]
    rfl
  refine ⟨by rw [ready]; rfl, account, ?_, ?_⟩
  · rw [entered]
    exact account
  · rw [entered]
    rfl

theorem outfit_quiet (inv : Inventory) (player : PlayerData) (info : ScAttendanceInfo) (message : Message)
    (told : message ∈ Message.attendanceInfo info :: .inventoryList (inventoryList data inv) :: outfit data inv player) :
    ¬ SaysPresence message ∧ ¬ SaysHerd message := by
  rcases List.mem_cons.mp told with rfl | told
  · exact ⟨id, id⟩
  · rcases List.mem_cons.mp told with rfl | told
    · exact ⟨id, id⟩
    · rw [outfit] at told
      split at told
      · obtain rfl := List.mem_singleton.mp told
        exact ⟨id, id⟩
      · exact absurd told List.not_mem_nil

theorem greeting_others (t : ServerState) (client : Client) (distinct : DistinctAccounts t) (playing : (t.player sid).loggedIn = true)
    (ready : (othersView client).state = .charSelect ∨ (othersView client).self = (t.player sid).accountUid) :
    othersView ((greeting t sid).foldl Client.receive client) = ⟨if (othersView client).state = .charSelect then .inGame else (othersView client).state,
      (t.player sid).accountUid, fun uid => (othersInGame t sid uid).or ((othersView client).others uid)⟩ := by
  have spawned (message : Message) (told : message ∈ npcSpawns t) : Hushed othersView message := by
    obtain ⟨npc, _, rfl⟩ := List.mem_map.mp told
    exact hushed_presence _ id
  have own : othersView (client.receive (.charInfo (ownInfo (t.player sid)))) =
      ⟨if (othersView client).state = .charSelect then .inGame else (othersView client).state, (t.player sid).accountUid, (othersView client).others⟩ := by
    rw [char_info_meets, OthersView.meet]
    by_cases menu : (othersView client).state = .charSelect
    · rw [if_pos menu, if_pos menu]
      rfl
    · have self := ready.resolve_left menu
      have same : (ownInfo (t.player sid)).charUid = (othersView client).self := self.symm
      rw [if_neg menu, if_neg menu, if_pos same, ← self]
  have infos : neighbourInfos t sid = ((neighbours t sid).map (fun other => charInfoOf (t.player other))).map Message.charInfo := by
    rw [neighbourInfos, List.map_map]
    rfl
  have seen (other : SessionId) (listed : other ∈ neighbours t sid) :
      sightOf (t.player other) = some ((t.player other).accountUid, ((t.player other).posX, (t.player other).posY)) :=
    sight_in_game _ ((mem_neighbours sid other).mp listed).1
  have apart : ((neighbours t sid).map (fun other => charInfoOf (t.player other))).Pairwise (fun one other => one.charUid ≠ other.charUid) := by
    refine List.pairwise_map.mpr (List.Pairwise.imp_of_mem (fun one other different same => ?_) ((in_game_once t).filter _))
    have equal : (t.player _).accountUid = (t.player _).accountUid := same
    have twin := seen _ one
    rw [equal] at twin
    exact different (distinct _ _ _ _ _ twin (seen _ other))
  have told := meets_all _ apart ((npcSpawns t).foldl Client.receive (client.receive (.charInfo (ownInfo (t.player sid)))))
  rw [hushed_fold othersView _ spawned, own] at told
  rw [greeting, List.foldl_cons, List.foldl_append, infos, told]
  · refine congrArg (OthersView.mk _ _) (funext (fun uid => ?_))
    rw [List.find?_map, Option.map_map, othersInGame]
    rfl
  · show (if (othersView client).state = .charSelect then GameState.inGame else (othersView client).state) ≠ .charSelect
    split
    · simp
    · assumption
  · intro info listed same
    obtain ⟨other, present, rfl⟩ := List.mem_map.mp listed
    have twin := seen other present
    have equal : (t.player other).accountUid = (t.player sid).accountUid := same
    rw [equal] at twin
    exact ((mem_neighbours sid other).mp present).2 (distinct _ _ _ _ _ twin (sight_in_game _ playing))

end Entering

end MmorpgSimulator
