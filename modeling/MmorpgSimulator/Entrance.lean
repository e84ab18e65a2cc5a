import MmorpgSimulator.Selections
import MmorpgSimulator.PartyNews

set_option autoImplicit false

namespace MmorpgSimulator

section Inboxes

variable (s : ServerState)

theorem deliver_set_player (sid receiver : SessionId) (player : PlayerData) (message : Message) :
    (s.setPlayer sid player).deliver receiver message = s.deliver receiver message := by
  rw [deliver_line, deliver_line, line_set_player]

theorem inbox_deliver_all (sid other : SessionId) (messages : List Message) :
    inbox (messages.flatMap (s.deliver sid)) other = if other = sid ∧ s.line sid = some true then messages else [] := by
  induction messages with
  | nil => simp [inbox]
  | cons message rest ih =>
      rw [List.flatMap_cons, inbox_append, inbox_deliver, ih]
      split <;> simp

end Inboxes

section Entering

variable (data : GameData) (s : ServerState) (sid : SessionId)

def ownInfo (player : PlayerData) : ScCharInfo :=
  { charUid := player.accountUid, level := player.level, exp := player.exp.toUInt32, posX := player.posX, posY := player.posY,
    hp := player.hp, maxHp := player.maxHp, gold := player.gold }

def storedItems (db : Database) (answer : DbOutcome) (charUid : CharUid) : Inventory :=
  if answer = .ok then loadedInventory (db.liveRows charUid) (db.equipped charUid) else {}

def loadedFor (charUid : CharUid) : Inventory := storedItems s.db s.outcome charUid

def dressed (inv : Inventory) (player : PlayerData) : PlayerData :=
  { player with
    atk := ((data.findItem inv.weaponTid).map (fun wep => 15 + wep.atk)).getD player.atk
    defense := ((data.findItem inv.armorTid).map (fun arm => 5 + arm.defense)).getD player.defense }

def outfit (inv : Inventory) (player : PlayerData) : List Message :=
  if inv.weaponTid ≠ 0 ∨ inv.armorTid ≠ 0 then
    [.equipResult
      { success := 1, atk := player.atk, defense := player.defense, weaponName := itemName data inv.weaponTid,
        armorName := itemName data inv.armorTid }]
  else []

theorem load_reply (charUid : CharUid) :
    (((s.setInventory sid {}).procReply (fun db => some (db, db.spInventoryLoad charUid))).row.map
      (fun rows => loadedInventory rows.1 rows.2)).getD {} = loadedFor s charUid := by
  have same : (s.setInventory sid {}).outcome = s.outcome := rfl
  rw [ServerState.procReply, loadedFor, storedItems]
  simp only [same]
  cases s.outcome <;> rfl

def putOn (inv : Inventory) : ServerState :=
  let player := dressed data inv (s.player sid)
  ((s.setInventory sid inv).setPlayer sid player).sendAll sid (.inventoryList (inventoryList data inv) :: outfit data inv player)

def fetched : ServerState :=
  ((s.setInventory sid {}).executeProc (fun db => some (db, db.spInventoryLoad (s.player sid).charUid))).1

theorem load_inventory_eq : loadInventory data s sid = putOn data (fetched s sid) sid (loadedFor s (s.player sid).charUid) := by
  have told (t : ServerState) (inv : Inventory) (list worn : Message) :
      (if inv.weaponTid ≠ 0 ∨ inv.armorTid ≠ 0 then (t.send sid list).send sid worn else t.send sid list) =
        t.sendAll sid (list :: if inv.weaponTid ≠ 0 ∨ inv.armorTid ≠ 0 then [worn] else []) := by
    split
    · rw [ServerState.send, ServerState.send, ServerState.sendAll, List.flatMap_cons, List.flatMap_singleton, ← List.append_assoc]
      rfl
    · rw [ServerState.send, ServerState.sendAll, List.flatMap_singleton]
  rw [← load_reply s sid, loadInventory, putOn, outfit]
  exact told _ _ _ _

def npcSpawns : List Message := (s.npcs.toList.filter Npc.alive).map (fun npc => .npcSpawn (npcSpawnOf npc))

def neighbours : List SessionId := s.inGame.filter (fun other => other ≠ sid)

def neighbourInfos : List Message := (neighbours s sid).map (fun other => .charInfo (charInfoOf (s.player other)))

theorem char_info_sent : (sendCharInfo s sid).sent = s.sent ++ s.deliver sid (.charInfo (ownInfo (s.player sid))) := rfl

theorem all_npcs_sent : (sendAllNpcs s sid).sent = s.sent ++ (npcSpawns s).flatMap (s.deliver sid) := rfl

theorem other_players_sent : (sendOtherPlayers s sid).sent = s.sent ++ (neighbourInfos s sid).flatMap (s.deliver sid) ++
    (neighbours s sid).flatMap (fun other => s.deliver other (.charInfo (charInfoOf (s.player sid)))) := rfl

theorem attendance_info_sent : ∃ info, (sendAttendanceInfo s sid).sent = s.sent ++ s.deliver sid (.attendanceInfo info) := ⟨_, rfl⟩

theorem greeted_sent : ∃ info, (greeted s sid).sent = s.sent ++ ((.charInfo (ownInfo (s.player sid)) :: (npcSpawns s ++ neighbourInfos s sid)).flatMap
    (s.deliver sid) ++ ((neighbours s sid).flatMap (fun other => s.deliver other (.charInfo (charInfoOf (s.player sid)))) ++
      s.deliver sid (.attendanceInfo info))) := by
  -- What goes out changes neither the players nor who hears it.
  let told := sendCharInfo s sid
  let surrounded := sendAllNpcs told sid
  let met := sendOtherPlayers surrounded sid
  have npcs : (npcSpawns told).flatMap (told.deliver sid) = (npcSpawns s).flatMap (s.deliver sid) := rfl
  have infos : (neighbourInfos surrounded sid).flatMap (surrounded.deliver sid) = (neighbourInfos s sid).flatMap (s.deliver sid) := rfl
  have others : (neighbours surrounded sid).flatMap (fun other => surrounded.deliver other (.charInfo (charInfoOf (surrounded.player sid)))) =
      (neighbours s sid).flatMap (fun other => s.deliver other (.charInfo (charInfoOf (s.player sid)))) := rfl
  have last : met.deliver sid = s.deliver sid := rfl
  obtain ⟨info, attendance⟩ := attendance_info_sent met sid
  rw [last, other_players_sent surrounded, infos, others, all_npcs_sent told, npcs, char_info_sent] at attendance
  use info
  rw [greeted, attendance]
  simp only [List.flatMap_cons, List.flatMap_append, List.append_assoc]

theorem put_on_sent (inv : Inventory) : (putOn data s sid inv).sent = s.sent ++
    (.inventoryList (inventoryList data inv) :: outfit data inv (dressed data inv (s.player sid))).flatMap (s.deliver sid) := by
  have delivered : (s.setPlayer sid (dressed data inv (s.player sid))).deliver sid = s.deliver sid :=
    funext (deliver_set_player s sid sid _)
  rw [← delivered]
  rfl

theorem put_on_player (inv : Inventory) :
    (putOn data s sid inv).player sid = (s.setPlayer sid (dressed data inv (s.player sid))).player sid := rfl

theorem put_on_inventory (inv : Inventory) : (putOn data s sid inv).inventory sid = inv := inventory_set_self s sid inv

theorem load_quest_progress_player (other : SessionId) : (loadQuestProgress s sid).player other = s.player other := rfl

theorem load_quest_progress_inventory (other : SessionId) : (loadQuestProgress s sid).inventory other = s.inventory other := rfl

theorem load_quest_progress_sent : (loadQuestProgress s sid).sent = s.sent := rfl

def entranceAnswer : DbOutcome := s.dbPlan.tail.headD .ok

def entranceInventory : Inventory := storedItems s.db (entranceAnswer s) (s.player sid).charUid

theorem greeted_player (other : SessionId) : (greeted s sid).player other = s.player other :=
  player_same _ _ (greeted_fields s sid).2.2.1 other

theorem greeted_loaded : loadedFor (greeted s sid) ((greeted s sid).player sid).charUid = entranceInventory s sid := by
  obtain ⟨db, plan, _, _⟩ := greeted_fields s sid
  rw [loadedFor, entranceInventory, ServerState.outcome, db, plan, greeted_player]
  rfl

theorem enter_game_eq :
    enterGame data s sid = loadQuestProgress (putOn data (fetched (greeted s sid) sid) sid (entranceInventory s sid)) sid := by
  rw [← greeted_loaded, ← load_inventory_eq, enter_game_greeted]

theorem deliver_same (t : ServerState) (sessions : t.sessions = s.sessions) : t.deliver = s.deliver := by
  funext receiver message
  rw [ServerState.deliver, ServerState.deliver, sessions]

theorem dressing_player (other : SessionId) : (fetched (greeted s sid) sid).player other = s.player other := greeted_player s sid other

theorem dressing_sessions : (fetched (greeted s sid) sid).sessions = s.sessions := (greeted_fields s sid).2.2.1

theorem enter_game_player (here : sid ∈ s.sessions) :
    (enterGame data s sid).player sid = dressed data (entranceInventory s sid) (s.player sid) := by
  have present : sid ∈ (fetched (greeted s sid) sid).sessions := by rwa [dressing_sessions]
  rw [enter_game_eq, load_quest_progress_player, put_on_player, player_set_self _ sid _ present, dressing_player]

theorem enter_game_inventory : (enterGame data s sid).inventory sid = entranceInventory s sid := by
  rw [enter_game_eq, load_quest_progress_inventory, put_on_inventory]

def settling (inv : Inventory) : List Message :=
  .inventoryList (inventoryList data inv) :: outfit data inv (dressed data inv (s.player sid))

theorem enter_game_sent : ∃ info, (enterGame data s sid).sent = s.sent ++
    ((.charInfo (ownInfo (s.player sid)) :: (npcSpawns s ++ neighbourInfos s sid)).flatMap (s.deliver sid) ++
      ((neighbours s sid).flatMap (fun other => s.deliver other (.charInfo (charInfoOf (s.player sid)))) ++
        (.attendanceInfo info :: settling data s sid (entranceInventory s sid)).flatMap (s.deliver sid))) := by
  obtain ⟨info, greeting⟩ := greeted_sent s sid
  have dressing := put_on_sent data (fetched (greeted s sid) sid) sid (entranceInventory s sid)
  rw [deliver_same s _ (dressing_sessions s sid), dressing_player] at dressing
  have before : (fetched (greeted s sid) sid).sent = (greeted s sid).sent := rfl
  rw [before, greeting] at dressing
  use info
  rw [enter_game_eq, load_quest_progress_sent, dressing, settling, List.flatMap_cons (x := Message.attendanceInfo info)]
  simp only [List.append_assoc]

def greeting : List Message := .charInfo (ownInfo (s.player sid)) :: (npcSpawns s ++ neighbourInfos s sid)

theorem enter_game_inbox : ∃ info,
    (s.line sid = some true → inbox (enterGame data s sid).sent sid = inbox s.sent sid ++
      (greeting s sid ++ .attendanceInfo info :: settling data s sid (entranceInventory s sid))) ∧
      ∀ other, other ≠ sid → inbox (enterGame data s sid).sent other = inbox s.sent other ++
        if other ∈ s.inGame ∧ s.line other = some true then [.charInfo (charInfoOf (s.player sid))] else [] := by
  obtain ⟨info, sent⟩ := enter_game_sent data s sid
  have each (other : SessionId) := inbox_deliver_each s (neighbours s sid) ((in_game_once s).filter _) (.charInfo (charInfoOf (s.player sid))) other
  use info
  constructor
  · intro open_
    have absent : ¬ (sid ∈ neighbours s sid ∧ s.line sid = some true) := by simp [neighbours]
    rw [sent, inbox_append, inbox_append, inbox_append, inbox_deliver_all, inbox_deliver_all, each, if_neg absent, if_pos ⟨rfl, open_⟩,
      if_pos ⟨rfl, open_⟩]
    rfl
  · intro other apart
    have member : other ∈ neighbours s sid ↔ other ∈ s.inGame := by simp [neighbours, apart]
    have nothing (messages : List Message) : inbox (messages.flatMap (s.deliver sid)) other = [] := by
      rw [inbox_deliver_all, if_neg (fun both => apart both.1)]
    rw [sent, inbox_append, inbox_append, inbox_append, nothing, nothing, each, List.nil_append, List.append_nil]
    simp only [member]

end Entering

section Selected

variable (data : GameData) (s : ServerState) (sid : SessionId) (req : CsCharSelect) (row : Int32 × Int64 × Int64)

-- The n-th database call of a step, counted from zero, ends so.
def Input.answer (input : Input) (call : Nat) : DbOutcome := (input.dbPlan.drop call).headD .ok

def fetchedName (db : Database) (outcome : DbOutcome) (charUid : CharUid) (name : Bytes) : Bytes :=
  if outcome = .ok then ((((db.character charUid).map CharacterRow.charName).filter fetchable).map (fun name => strncpyS name 19)).getD name
  else name

def named (db : Database) (outcome : DbOutcome) (charUid : CharUid) (player : PlayerData) : PlayerData :=
  { player with name := fetchedName db outcome charUid player.name }

def enteredPlayer (db : Database) (input : Input) (player : PlayerData) : PlayerData :=
  dressed data (storedItems db (input.answer 3) req.charUid) (named db (input.answer 1) req.charUid
    (selectedPlayer player req.charUid row (input.rolls.headD 0) (input.rolls.tail.headD 0)))

theorem fetch_name_player (charUid : CharUid) (here : sid ∈ s.sessions) : (fetchName s sid charUid).player sid =
    { s.player sid with name := fetchedName s.db s.outcome charUid (s.player sid).name } := by
  have kept : (fetchName s sid charUid).player sid = { s.player sid with
      name := (((s.procReply (fun db => some (db, (db.character charUid).map CharacterRow.charName))).row.join.filter fetchable).map
        (fun name => strncpyS name 19)).getD (s.player sid).name } := player_set_self _ sid _ here
  rw [kept, fetchedName, ServerState.procReply]
  cases s.outcome <;> rfl

theorem admitted_player (input : Input) (here : sid ∈ s.sessions) : (admitted (facing s input) sid req row).player sid =
    named s.db (input.answer 1) req.charUid
      (selectedPlayer (s.player sid) req.charUid row (input.rolls.headD 0) (input.rolls.tail.headD 0)) := by
  let t := ((facing s input).executeProc (loginCall (facing s input) sid req)).1.rolled.rolled
  let chosen := selectedPlayer (s.player sid) req.charUid row (facing s input).rand (facing s input).rolled.rand
  have present : sid ∈ (t.setPlayer sid chosen).sessions := (mem_set_player t sid sid _).mpr here
  have read := fetch_name_player (t.setPlayer sid chosen) sid req.charUid present
  have answer : (t.setPlayer sid chosen).outcome = input.answer 1 := by
    rw [Input.answer, ← List.tail_drop]
    rfl
  have db : (t.setPlayer sid chosen).db = s.db := login_call_db (facing s input) sid req
  rw [player_set_self t sid chosen here, answer, db] at read
  exact read

theorem admitted_line (input : Input) (other : SessionId) : (admitted (facing s input) sid req row).line other = s.line other :=
  (line_set_player _ sid other _).trans (line_set_player _ sid other _)

include data in
theorem select_entrance (input : Input) (selects : selecting s input = some (sid, req, row)) :
    entranceInventory (admitted (facing s input) sid req row) sid = storedItems s.db (input.answer 3) req.charUid := by
  obtain ⟨_, _, _, entered⟩ := step_selecting data s sid req input row selects
  have items := (select_items data s sid req input row selects).1
  rwa [entered, enter_game_inventory] at items

theorem select_player (input : Input) (selects : selecting s input = some (sid, req, row)) : (step data s input).player sid =
    enteredPlayer data req row s.db input (s.player sid) := by
  obtain ⟨here, _, _, entered⟩ := step_selecting data s sid req input row selects
  have present := (admitted_mem (facing s input) sid req row sid).mpr here
  rw [entered, enter_game_player data _ sid present, admitted_player s sid req row input here, select_entrance data s sid req row input selects]
  rfl

theorem load_quest_log : (loadQuestProgress s sid).questLog sid =
    if s.outcome = .ok then s.db.questProgress (s.player sid).charUid else ∅ := by
  have written : (loadQuestProgress s sid).questLog sid =
      (s.procReply (fun db => some (db, db.spQuestLoad (s.player sid).charUid))).row.getD ∅ := quest_log_set_self _ sid _
  rw [written, ServerState.procReply]
  cases s.outcome <;> rfl

theorem put_on_plan (inv : Inventory) : (putOn data (fetched s sid) sid inv).dbPlan = s.dbPlan.tail := rfl

theorem select_log (input : Input) (selects : selecting s input = some (sid, req, row)) : (step data s input).questLog sid =
    if input.answer 4 = .ok then s.db.questProgress req.charUid else ∅ := by
  obtain ⟨here, _, _, entered⟩ := step_selecting data s sid req input row selects
  obtain ⟨db, plan, _⟩ := admitted_fields (facing s input) sid req row
  obtain ⟨greetedDb, greetedPlan, _⟩ := greeted_fields (admitted (facing s input) sid req row) sid
  have present := (admitted_mem (facing s input) sid req row sid).mpr here
  have dressedPlayer := enter_game_player data (admitted (facing s input) sid req row) sid present
  have rows := (load_inventory_db data (greeted (admitted (facing s input) sid req row) sid) sid).trans (greetedDb.trans db)
  have outcomes : (loadInventory data (greeted (admitted (facing s input) sid req row) sid) sid).outcome = input.answer 4 := by
    rw [load_inventory_eq, ServerState.outcome, put_on_plan, greetedPlan, plan, Input.answer]
    simp [facing]
  have charUid : ((loadInventory data (greeted (admitted (facing s input) sid req row) sid) sid).player sid).charUid = req.charUid := by
    have same := congrArg PlayerData.charUid dressedPlayer
    rw [enter_game_greeted, load_quest_progress_player, admitted_player s sid req row input here] at same
    exact same
  have loaded := load_quest_log (loadInventory data (greeted (admitted (facing s input) sid req row) sid) sid) sid
  rw [outcomes, rows, charUid] at loaded
  rw [entered]
  exact loaded

end Selected

end MmorpgSimulator
