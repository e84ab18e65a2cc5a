import MmorpgSimulator.Frames

set_option autoImplicit false

namespace MmorpgSimulator

section Selection

variable (data : GameData) (s : ServerState) (sid : SessionId) (req : CsCharSelect)

def loginCall : Database → Option (Database × (Int32 × Int64 × Int64)) :=
  fun db => db.spCharacterLogin (s.player sid).accountUid req.charUid

def admitted (row : Int32 × Int64 × Int64) : ServerState :=
  let s' := (s.executeProc (loginCall s sid req)).1.rolled.rolled
  fetchName (s'.setPlayer sid (selectedPlayer (s'.player sid) req.charUid row s.rand s.rolled.rand)) sid req.charUid

theorem on_char_select_found (row : Int32 × Int64 × Int64) (found : (s.procReply (loginCall s sid req)).row = some row) :
    onCharSelect data s sid req = enterGame data (admitted s sid req row) sid := by
  have answered : (s.executeProc (fun db => db.spCharacterLogin (s.player sid).accountUid req.charUid)).2.row = some row := found
  simp only [onCharSelect, answered]
  rfl

theorem on_char_select_missing (missing : (s.procReply (loginCall s sid req)).row = none) :
    onCharSelect data s sid req =
      (s.executeProc (loginCall s sid req)).1.send sid (.error { errorCode := 1, message := text "Character not found" }) := by
  have answered : (s.executeProc (fun db => db.spCharacterLogin (s.player sid).accountUid req.charUid)).2.row = none := missing
  simp only [onCharSelect, answered]
  rfl

theorem login_row (row : Int32 × Int64 × Int64) (found : (s.procReply (loginCall s sid req)).row = some row) :
    ∃ entry, s.db.character req.charUid = some entry ∧ row = (entry.level, entry.exp, entry.gold) := by
  cases called : loginCall s sid req s.db with
  | none => simp [ServerState.procReply, called] at found
  | some result =>
      have read : row = result.2 := by
        cases outcome : s.outcome <;> simp [ServerState.procReply, called, outcome] at found
        exact found.symm
      cases known : s.db.character req.charUid with
      | none => simp [loginCall, Database.spCharacterLogin, known] at called
      | some entry =>
          simp only [loginCall, Database.spCharacterLogin, known, Option.ite_none_right_eq_some, Option.some.injEq] at called
          exact ⟨entry, rfl, read.trans (congrArg Prod.snd called.2).symm⟩

def selecting (s : ServerState) (input : Input) : Option (SessionId × CsCharSelect × (Int32 × Int64 × Int64)) :=
  match input.event with
  | .packet sid (.charSelect req) =>
      if s.fault.isNone ∧ sid ∈ s.sessions then
        ((facing s input).procReply (loginCall s sid req)).row.map (fun row => (sid, req, row))
      else none
  | _ => none

theorem selecting_session (input : Input) (row : Int32 × Int64 × Int64) (selects : selecting s input = some (sid, req, row)) :
    input.event = .packet sid (.charSelect req) := by
  obtain ⟨event, rolls, dbPlan⟩ := input
  cases event with
  | accept => exact absurd selects nofun
  | writeError other => exact absurd selects nofun
  | disconnect other => exact absurd selects nofun
  | packet other request =>
      cases request with
      | charSelect asked =>
          simp only [selecting, Option.ite_none_right_eq_some] at selects
          obtain ⟨_, _, same⟩ := Option.map_eq_some_iff.mp selects.2
          obtain ⟨rfl, rfl, _⟩ : other = sid ∧ asked = req ∧ _ := by simpa using same
          rfl
      | _ => exact absurd selects nofun

theorem step_selecting (input : Input) (row : Int32 × Int64 × Int64) (selects : selecting s input = some (sid, req, row)) :
    sid ∈ s.sessions ∧ s.fault = none ∧ ((facing s input).procReply (loginCall (facing s input) sid req)).row = some row ∧
      step data s input = enterGame data (admitted (facing s input) sid req row) sid := by
  have asks := selecting_session s sid req input row selects
  simp only [selecting, asks, Option.ite_none_right_eq_some] at selects
  obtain ⟨⟨living, here⟩, found⟩ := selects
  have alive : s.fault = none := Option.isNone_iff_eq_none.mp living
  obtain ⟨_, read, same⟩ := Option.map_eq_some_iff.mp found
  obtain rfl : _ = row := by simpa using same
  refine ⟨here, alive, read, ?_⟩
  rw [step_alive data s input alive, asks]
  exact (if_pos here).trans (on_char_select_found data (facing s input) sid req _ read)

theorem proc_db_reads {Row : Type} (row : Database → Row) : s.procDb (fun db => some (db, row db)) = s.db := by
  simp only [ServerState.procDb]
  cases s.outcome <;> rfl

theorem login_call_db : s.procDb (loginCall s sid req) = s.db := by
  refine proc_db_keeps s (loginCall s sid req) id (fun db result called => ?_)
  simp only [loginCall, Database.spCharacterLogin] at called
  split at called
  · split at called
    · exact congrArg Prod.fst (Option.some.inj called).symm
    · exact absurd called (by simp)
  · exact absurd called (by simp)

theorem load_inventory_others (other : SessionId) (apart : other ≠ sid) :
    (loadInventory data s sid).player other = s.player other ∧ (loadInventory data s sid).inventory other = s.inventory other := by
  have players (player : PlayerData) : (s.setPlayer sid player).player other = s.player other := player_set_other s sid other player apart
  have inventories (inv : Inventory) : ((s.setInventory sid {}).setInventory sid inv).inventory other = s.inventory other := by
    rw [inventory_set_other _ sid other _ apart, inventory_set_other _ sid other _ apart]
  rw [loadInventory]
  simp only
  split <;> exact ⟨players _, inventories _⟩

theorem load_inventory_mem (other : SessionId) : other ∈ (loadInventory data s sid).sessions ↔ other ∈ s.sessions := by
  rw [loadInventory]
  simp only
  split <;> exact mem_set_player _ sid other _

theorem load_inventory_own : (loadInventory data s sid).inventory sid =
    if s.outcome = .ok then loadedInventory (s.db.liveRows (s.player sid).charUid) (s.db.equipped (s.player sid).charUid) else {} := by
  have answered : (((s.setInventory sid {}).procReply (fun db => some (db, db.spInventoryLoad (s.player sid).charUid))).row.map
      (fun rows => loadedInventory rows.1 rows.2)).getD {} =
        if s.outcome = .ok then loadedInventory (s.db.liveRows (s.player sid).charUid) (s.db.equipped (s.player sid).charUid) else {} := by
    have same : (s.setInventory sid {}).outcome = s.outcome := rfl
    simp only [ServerState.procReply, same]
    cases s.outcome <;> rfl
  rw [loadInventory]
  simp only
  split <;> exact (inventory_set_self _ sid _).trans answered

theorem load_inventory_db : (loadInventory data s sid).db = s.db := by
  rw [loadInventory]
  simp only
  split <;> exact proc_db_reads (s.setInventory sid {}) (fun db => db.spInventoryLoad (s.player sid).charUid)

def greeted (s : ServerState) (sid : SessionId) : ServerState :=
  sendAttendanceInfo (sendOtherPlayers (sendAllNpcs (sendCharInfo s sid) sid) sid) sid

theorem greeted_state : ∃ sent, greeted s sid = { s with sent, dbPlan := s.dbPlan.tail } := by
  obtain ⟨sent, same⟩ := greeting_state s sid
  rw [proc_db_reads] at same
  exact ⟨sent, same⟩

theorem greeted_fields : (greeted s sid).db = s.db ∧ (greeted s sid).dbPlan = s.dbPlan.tail ∧ (greeted s sid).sessions = s.sessions ∧
    (greeted s sid).inventories = s.inventories := by
  obtain ⟨sent, same⟩ := greeted_state s sid
  rw [same]
  exact ⟨rfl, rfl, rfl, rfl⟩

theorem enter_game_greeted : enterGame data s sid = loadQuestProgress (loadInventory data (greeted s sid) sid) sid :=
  enter_game_loads data s sid

theorem load_quest_fields : (loadQuestProgress s sid).sessions = s.sessions ∧ (loadQuestProgress s sid).inventories = s.inventories ∧
    (loadQuestProgress s sid).db = s.db :=
  ⟨rfl, rfl, proc_db_reads s (fun db => db.spQuestLoad (s.player sid).charUid)⟩

theorem enter_game_fields : (enterGame data s sid).sessions = (loadInventory data (greeted s sid) sid).sessions ∧
    (enterGame data s sid).inventories = (loadInventory data (greeted s sid) sid).inventories ∧
      (enterGame data s sid).db = (loadInventory data (greeted s sid) sid).db :=
  load_quest_fields (loadInventory data (greeted s sid) sid) sid

theorem fetch_name_db (charUid : CharUid) : (fetchName s sid charUid).db = s.db :=
  proc_db_reads s (fun db => (db.character charUid).map CharacterRow.charName)

theorem admitted_fields (row : Int32 × Int64 × Int64) : (admitted s sid req row).db = s.db ∧
    (admitted s sid req row).dbPlan = s.dbPlan.tail.tail ∧ (admitted s sid req row).inventories = s.inventories :=
  ⟨(fetch_name_db _ sid req.charUid).trans (login_call_db s sid req), rfl, rfl⟩

theorem admitted_view {View : Type} (view : PlayerData → View) (profile : ∀ old new, ProfileWrite old new → view new = view old)
    (row : Int32 × Int64 × Int64) (here : sid ∈ s.sessions) :
    view ((admitted s sid req row).player sid) = view (selectedPlayer (s.player sid) req.charUid row s.rand s.rolled.rand) := by
  have named := (view_frame view profile).fetchName ((view_frame view profile).refl
    ((s.executeProc (loginCall s sid req)).1.rolled.rolled.setPlayer sid
      (selectedPlayer (s.player sid) req.charUid row s.rand s.rolled.rand))) sid req.charUid sid
  exact named.trans (congrArg view (player_set_self _ sid _ here))

theorem admitted_mem (row : Int32 × Int64 × Int64) (other : SessionId) : other ∈ (admitted s sid req row).sessions ↔ other ∈ s.sessions :=
  (mem_set_player _ sid other _).trans (mem_set_player _ sid other _)

theorem admitted_others (row : Int32 × Int64 × Int64) (other : SessionId) (apart : other ≠ sid) :
    (admitted s sid req row).player other = s.player other :=
  (player_set_other _ sid other _ apart).trans (player_set_other _ sid other _ apart)

theorem select_view {View : Type} (view : PlayerData → View) (profile : ∀ old new, ProfileWrite old new → view new = view old)
    (stats : ∀ old new, StatsWrite old new → view new = view old) (input : Input) (row : Int32 × Int64 × Int64)
    (selects : selecting s input = some (sid, req, row)) :
    (∃ drawX drawY, view ((step data s input).player sid) = view (selectedPlayer (s.player sid) req.charUid row drawX drawY)) ∧
      ∀ other, other ≠ sid → view ((step data s input).player other) = view (s.player other) := by
  obtain ⟨here, _, _, entered⟩ := step_selecting data s sid req input row selects
  have frame := view_frame view profile
  have game := frame.enterGame data (view_wears view stats sid) (view_loads view sid) (view_logs view) (frame.refl (admitted (facing s input) sid req row))
  rw [entered]
  refine ⟨⟨(facing s input).rand, (facing s input).rolled.rand, ?_⟩, fun other apart => ?_⟩
  · exact (game sid).trans (admitted_view (facing s input) sid req view profile row here)
  · exact (game other).trans (congrArg view (admitted_others (facing s input) sid req row other apart))

theorem load_inventory_gold : ((loadInventory data s sid).player sid).gold = (s.player sid).gold := by
  have dressed (inv : Inventory) (player : PlayerData) (same : player.gold = (s.player sid).gold) :=
    ((((Becomes.start s).setInventory sid {}).executeProc (fun db => some (db, db.spInventoryLoad (s.player sid).charUid))).setInventory
      sid inv).keepGold sid player same
  rw [loadInventory]
  simp only
  split
  · exact (((dressed _ _ (by exact rfl)).send sid _ rfl).send sid _ rfl).golds sid
  · exact ((dressed _ _ (by exact rfl)).send sid _ rfl).golds sid

theorem admitted_gold (row : Int32 × Int64 × Int64) (here : sid ∈ s.sessions) :
    ((admitted s sid req row).player sid).gold = row.2.2.toUInt64 := by
  have present : sid ∈ ((s.executeProc (loginCall s sid req)).1.rolled.rolled.setPlayer sid
      (selectedPlayer (s.player sid) req.charUid row s.rand s.rolled.rand)).sessions := (mem_set_player _ sid sid _).mpr here
  have named := congrArg PlayerData.gold (player_set_self (s.executeProc (loginCall s sid req)).1.rolled.rolled sid
    (selectedPlayer (s.player sid) req.charUid row s.rand s.rolled.rand) here)
  exact (congrArg PlayerData.gold (player_set_self _ sid _ present)).trans named

-- The inventory query is the fourth call of a selection.
def inventoryAnswer (input : Input) : DbOutcome := (input.dbPlan.drop 3).headD .ok

theorem select_gold (input : Input) (row : Int32 × Int64 × Int64) (selects : selecting s input = some (sid, req, row)) :
    ((step data s input).player sid).gold = row.2.2.toUInt64 := by
  obtain ⟨here, _, _, entered⟩ := step_selecting data s sid req input row selects
  have sessions := (enter_game_fields data (admitted (facing s input) sid req row) sid).1
  have loaded := load_inventory_gold data (greeted (admitted (facing s input) sid req row) sid) sid
  have greetedGold := player_same _ _ (greeted_fields (admitted (facing s input) sid req row) sid).2.2.1 sid
  rw [entered, player_same _ _ sessions sid, loaded, greetedGold]
  exact admitted_gold (facing s input) sid req row here

theorem select_items (input : Input) (row : Int32 × Int64 × Int64) (selects : selecting s input = some (sid, req, row)) :
    (step data s input).inventory sid = (if inventoryAnswer input = .ok then
        loadedInventory (s.db.liveRows req.charUid) (s.db.equipped req.charUid) else {}) ∧
      (step data s input).db = s.db ∧
        (∀ other, other ≠ sid → (step data s input).player other = s.player other ∧ (step data s input).inventory other = s.inventory other) ∧
          ∀ other, other ∈ (step data s input).sessions ↔ other ∈ s.sessions := by
  obtain ⟨here, _, _, entered⟩ := step_selecting data s sid req input row selects
  obtain ⟨db, plan, inventories⟩ := admitted_fields (facing s input) sid req row
  obtain ⟨greetedDb, greetedPlan, greetedSessions, greetedInventories⟩ := greeted_fields (admitted (facing s input) sid req row) sid
  obtain ⟨sessions, items, rows⟩ := enter_game_fields data (admitted (facing s input) sid req row) sid
  rw [entered]
  refine ⟨?_, ?_, fun other apart => ?_, fun other => ?_⟩
  · have charUid : ((greeted (admitted (facing s input) sid req row) sid).player sid).charUid = req.charUid := by
      rw [player_same _ _ greetedSessions sid]
      exact admitted_view (facing s input) sid req PlayerData.charUid (fun _ _ same => same.view_eq PlayerData.charUid) row here
    have answer : (greeted (admitted (facing s input) sid req row) sid).outcome = inventoryAnswer input := by
      rw [ServerState.outcome, greetedPlan, plan, inventoryAnswer]
      simp [facing]
    have loaded := load_inventory_own data (greeted (admitted (facing s input) sid req row) sid) sid
    rw [charUid, answer, greetedDb, db] at loaded
    simp only [ServerState.inventory, items]
    exact loaded
  · exact rows.trans ((load_inventory_db data _ sid).trans (greetedDb.trans db))
  · obtain ⟨player, inventory⟩ := load_inventory_others data (greeted (admitted (facing s input) sid req row) sid) sid other apart
    refine ⟨?_, ?_⟩
    · rw [player_same _ _ sessions other, player, player_same _ _ greetedSessions other]
      exact admitted_others (facing s input) sid req row other apart
    · simp only [ServerState.inventory, items]
      refine inventory.trans ?_
      simp only [ServerState.inventory, greetedInventories, inventories]
      rfl
  · rw [sessions, load_inventory_mem, greetedSessions]
    exact admitted_mem (facing s input) sid req row other

end Selection

section Steps

variable (data : GameData) {R : ServerState → ServerState → Prop} {Paid : SessionId → ServerState → ServerState → Prop}

-- A property that the relation keeps survives a step that selects no character, if
-- the handlers stay inside the relation and departures keep the property too.
theorem Frame.step_keeps_of (frame : Frame R) (property : ServerState → Prop) (kept : ∀ s t, R s t → property s → property t)
    (s : ServerState) (input : Input) (stays : selecting s input = none)
    (works : ∀ sid request, input.event = .packet sid request → (∀ req, request ≠ .charSelect req) → sid ∈ s.sessions →
      s.fault = none → R (facing s input) (MmorpgSimulator.handle data (facing s input) sid request))
    (departs : ∀ sid, input.event = .disconnect sid → property (facing s input) →
      property (onDisconnect (setUnconnected (facing s input) sid) sid))
    (faces : property s → property (facing s input)) (holds : property s) : property (step data s input) := by
  have start := faces holds
  cases condition : s.fault with
  | some fault => rwa [step_dead data s input fault condition]
  | none =>
      rw [step_alive data s input condition]
      cases happens : input.event with
      | accept => exact kept _ _ (frame.idle (idle_do_accept _)) start
      | writeError sid => exact kept _ _ (frame.idle (idle_set_unconnected _ sid)) start
      | disconnect sid =>
          by_cases here : sid ∈ s.sessions
          · rw [disconnect_here data (facing s input) sid here]
            exact departs sid happens start
          · rwa [disconnect_absent data (facing s input) sid here]
      | packet sid request =>
          by_cases here : sid ∈ s.sessions
          · rw [handle_event_here data (facing s input) sid request here]
            refine kept _ _ ?_ start
            by_cases selects : ∃ req, request = .charSelect req
            · obtain ⟨req, rfl⟩ := selects
              have missing : ((facing s input).procReply (loginCall s sid req)).row = none := by
                simpa [selecting, happens, condition, here] using stays
              change R _ (onCharSelect data _ sid req)
              rw [on_char_select_missing data (facing s input) sid req missing]
              exact frame.send (frame.call _ _ (character_login_stock _ _)) _ _
            · exact works sid request happens (fun req same => selects ⟨req, same⟩) here condition
          · rwa [handle_event_absent data (facing s input) sid request here]

theorem Frame.step_keeps (frame : Frame R) (fills : ∀ sid, Fills R sid) (wears : ∀ sid, Wears R sid) (logs : Logs R) (grows : Grows R Paid)
    (property : ServerState → Prop) (kept : ∀ s t, R s t → property s → property t)
    (faces : ∀ s input, property s → property (facing s input))
    (departs : ∀ s sid, property s → property (onDisconnect (setUnconnected s sid) sid))
    (s : ServerState) (input : Input) (stays : selecting s input = none) (holds : property s) : property (step data s input) :=
  frame.step_keeps_of data property kept s input stays
    (fun sid request _ unselected _ _ => frame.handle data (fills sid) (wears sid) logs grows request unselected)
    (fun sid _ => departs _ sid) (faces s input) holds

section Weaker

variable {R' : ServerState → ServerState → Prop} (weaker : ∀ s t, R s t → R' s t)
include weaker

theorem Frame.weaken (frame : Frame R) (trans : ∀ {s t u}, R' s t → R' t u → R' s u) : Frame R' where
  trans := trans
  idle := fun idle => weaker _ _ (frame.idle idle)
  profile := fun s sid player same => weaker _ _ (frame.profile s sid player same)
  call := fun s _ proc keeps => weaker _ _ (frame.call s proc keeps)

theorem Fills.weaken {sid : SessionId} (fills : Fills R sid) : Fills R' sid :=
  ⟨fun s slot charUid itemTid => weaker _ _ (fills.fill s slot charUid itemTid), fun s slot => weaker _ _ (fills.clear s slot),
    fun s itemUid => weaker _ _ (fills.remove s itemUid)⟩

theorem Wears.weaken {sid : SessionId} (wears : Wears R sid) : Wears R' sid :=
  ⟨fun s slot item => weaker _ _ (wears.swap s slot item), fun s player same => weaker _ _ (wears.stats s player same),
    fun s charUid slot itemUid => weaker _ _ (wears.equip s charUid slot itemUid)⟩

theorem Logs.weaken (logs : Logs R) : Logs R' :=
  ⟨fun s sid qp => weaker _ _ (logs.note s sid qp), fun s charUid questId state => weaker _ _ (logs.save s charUid questId state)⟩

end Weaker

def Stays (s t : ServerState) : Prop := ∀ sid, sid ∈ s.sessions → sid ∈ t.sessions

theorem stays_player (s : ServerState) (sid : SessionId) (player : PlayerData) : Stays s (s.setPlayer sid player) :=
  fun other => (mem_set_player s sid other player).mpr

theorem stays_frame : Frame Stays where
  trans := fun first second sid present => second sid (first sid present)
  idle := Idle.here
  profile := fun s sid player _ => stays_player s sid player
  call := fun _ _ _ _ _ => id

theorem stays_fills (sid : SessionId) : Fills Stays sid := ⟨fun _ _ _ _ _ => id, fun _ _ _ => id, fun _ _ _ => id⟩

theorem stays_wears (sid : SessionId) : Wears Stays sid :=
  ⟨fun _ _ _ _ => id, fun s player _ => stays_player s sid player, fun _ _ _ _ _ => id⟩

theorem stays_logs : Logs Stays := ⟨fun _ _ _ _ => id, fun _ _ _ _ _ => id⟩

theorem stays_grows : Grows Stays (fun _ => Stays) := grows_of_progress stays_frame (fun s sid player _ => stays_player s sid player)

theorem packet_stays (s : ServerState) (input : Input) (sid : SessionId) (request : Request) (asks : input.event = .packet sid request) :
    Stays s (step data s input) := by
  cases selects : selecting s input with
  | some selection =>
      obtain ⟨owner, req, row⟩ := selection
      exact fun other => ((select_items data s owner req input row selects).2.2.2 other).mpr
  | none =>
      refine fun other => stays_frame.step_keeps_of data (fun t => other ∈ t.sessions) (fun _ _ stays => stays other) s input selects ?_ ?_ id
      · exact fun sid request _ unselected _ _ => stays_frame.handle data (stays_fills sid) (stays_wears sid) stays_logs stays_grows request unselected
      · exact fun leaver leaves => absurd (asks.symm.trans leaves) nofun

end Steps

end MmorpgSimulator
