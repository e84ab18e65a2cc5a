import MmorpgSimulator.QuestBoard
import MmorpgSimulator.QuestRuns
import MmorpgSimulator.NpcMirrors

set_option autoImplicit false

namespace MmorpgSimulator

def Questless : Message → Prop
  | .questList _ | .questAcceptResult _ | .questProgress _ | .questReward _ => False
  | _ => True

theorem questless_hushed (message : Message) (questless : Questless message) : Hushed Client.questEntries message := by
  intro client
  cases message with
  | questList list => exact absurd questless id
  | questAcceptResult result => exact absurd questless id
  | questProgress prog => exact absurd questless id
  | questReward reward => exact absurd questless id
  | charInfo info =>
      rw [Client.receive, Client.onCharInfo]
      split
      · rfl
      · split <;> rfl
  | moveResult result =>
      rw [Client.receive, Client.onMoveResult]
      split <;> rfl
  | attackResult result =>
      rw [Client.receive, Client.onAttackResult]
      split <;> rfl
  | attendanceResult result =>
      rw [Client.receive, Client.onAttendanceResult]
      split <;> rfl
  | equipResult result =>
      rw [Client.receive, Client.onEquipResult]
      split <;> rfl
  | inventoryList list =>
      rw [Client.receive, Client.onInventoryList]
      exact Machine.foldl_frame Client.onInventoryUpdate Client.questEntries (fun _ _ => rfl) _ _
  | partyLeave leave =>
      rw [Client.receive, Client.onPartyLeaveRecv]
      split <;> rfl
  | _ => rfl

def Request.aboutQuests : Request → Bool
  | .attack _ | .questList | .questAccept _ | .questComplete _ => true
  | _ => false

section Requests

variable (data : GameData) {clients : SessionId → Client} {other : SessionId} (s : ServerState) (sid : SessionId)

theorem other_request_unseen (request : Request) (quiet : request.aboutQuests = false) :
    Unseen Client.questEntries clients other s (handle data s sid request) := by
  refine ((handle_speaks data s sid request).weaken (fun message answers => questless_hushed message ?_)).unseen clients other
  cases request with
  | attack _ => exact absurd quiet nofun
  | questList => exact absurd quiet nofun
  | questAccept _ => exact absurd quiet nofun
  | questComplete _ => exact absurd quiet nofun
  | _ => cases message <;> trivial

theorem on_char_select_log (req : CsCharSelect) (apart : other ≠ sid) :
    (onCharSelect data s sid req).questLog other = s.questLog other := by
  have called := (SameQuests.refl s).executeProc _ (character_login_keeps (s.player sid).accountUid req.charUid)
  rw [onCharSelect]
  simp only
  split
  · exact (called.send sid _).logs other
  · have drawn := called.rolled.rolled
    refine (load_quest_progress_other _ sid other apart).trans (Eq.trans ?_ (drawn.logs other))
    exact (load_inventory_same data (send_attendance_info_same
      (((send_char_info_same (fetch_name_same (SameQuests.refl _) sid req.charUid) sid).sendAll _ _).sendAll _ _
        |>.broadcastExcept _ _) sid) sid).logs other

theorem on_char_select_board (indexed : s.party.Indexed) (req : CsCharSelect)
    (fresh : other = sid → (shown clients s other).questEntries = []) (board : Board data clients other s) :
    Board data clients other (onCharSelect data s sid req) := by
  have quiet : Unseen Client.questEntries clients other s (onCharSelect data s sid req) :=
    other_request_unseen data s sid (.charSelect req) rfl
  have line := handle_line data s indexed sid (.charSelect req) other
  by_cases own : other = sid
  · exact ⟨line.trans board.open_, .inl (Eq.trans quiet (fresh own))⟩
  · exact board.unseen quiet line (by rw [on_char_select_log data s sid req own])

theorem on_quest_list_board (board : Board data clients other s) : Board data clients other (onQuestList data s sid) := by
  rw [onQuestList]
  split
  · exact board.same ((unseen_same rfl).send sid _ (questless_hushed _ trivial)) rfl ((SameQuests.refl s).send sid _)
  · by_cases own : other = sid
    · subst own
      refine ⟨board.open_, .inr ?_⟩
      rw [shown_send clients _ (show (s.touchQuestLog other).line other = some true from board.open_)]
      rw [show ((s.touchQuestLog other).send other _).questLog other = (s.touchQuestLog other).questLog other from rfl, quest_log_touch]
      rfl
    · exact board.unseen ((unseen_same (by rfl)).trans (send_unseen sid _ own)) rfl (by
        rw [show ((s.touchQuestLog sid).send sid _).questLog other = (s.touchQuestLog sid).questLog other from rfl, quest_log_touch])

theorem quest_entry_touched (log : QuestLog) (questId : UInt16) (quest : QuestData) :
    questEntryOf (log.insertIfNew questId {}) quest = questEntryOf log quest := by
  have same : ((log.insertIfNew questId {})[quest.id]?).getD {} = (log[quest.id]?).getD {} := by
    rw [Std.ExtTreeMap.getElem?_insertIfNew]
    split
    · rename_i fresh
      obtain rfl := Std.compare_eq_iff_eq.mp fresh.1
      rw [Std.ExtTreeMap.getElem?_eq_none fresh.2]
      rfl
    · rfl
  rw [questEntryOf, same]
  rfl

theorem board_touched (log : QuestLog) (questId : UInt16) : boardOf data (log.insertIfNew questId {}) = boardOf data log :=
  List.map_congr_left (fun quest _ => quest_entry_touched log questId quest)

theorem on_quest_accept_board (distinct : (data.quests.map QuestData.id).Nodup) (req : CsQuestAccept) (board : Board data clients other s) :
    Board data clients other (onQuestAccept data s sid req) := by
  have elsewhere (qp : QuestLog) (unlike : boardOf data qp = boardOf data (s.questLog sid)) :
      Board data clients other (s.setQuestLog sid qp) := by
    refine board.unseen (unseen_same rfl) rfl ?_
    by_cases own : other = sid
    · rw [own, quest_log_set_self, unlike]
    · rw [quest_log_set_other s sid other qp own]
  have touched := elsewhere _ (board_touched data (s.questLog sid) req.questId)
  have refused (t : ServerState) (still : Board data clients other t) (reason : String) :
      Board data clients other (t.send sid (.questAcceptResult { questId := req.questId, message := text reason })) :=
    still.same ((unseen_same rfl).send sid _ (fun _ => rfl)) rfl ((SameQuests.refl t).send sid _)
  rw [onQuestAccept]
  simp only
  split
  · exact refused s board _
  · split
    · exact refused s board _
    · split
      · exact refused _ touched _
      · split
        · exact refused _ touched _
        · by_cases own : other = sid
          · subst own
            refine touched.written distinct (unseen_same (by rfl)) (by rfl) req.questId ⟨1, 0⟩ ?_ _
              (fun entry => { entry with status := 1, progress := 0 }) (fun _ => rfl) (fun quest _ same => ?_)
            · exact quest_log_set_self _ other _
            · rw [quest_entry_self _ _ _ quest same]
              rfl
          · refine touched.unseen ((unseen_same (by rfl)).trans (send_unseen sid _ own)) (by rfl) ?_
            exact congrArg (boardOf data) (quest_log_set_other _ sid other _ own)

def rewardTold (t : ServerState) (quest : QuestData) : ServerState :=
  let paid := questPaid data sid t quest
  sendCharInfo (checkLevelUp (paid.send sid (.expUpdate { exp := (paid.player sid).exp.toUInt32, maxExp := (paid.player sid).maxExp })) sid) sid

theorem reward_told_same (t : ServerState) (quest : QuestData) : SameQuests t (rewardTold data sid t quest) := by
  have paid : SameQuests t (questPaid data sid t quest) := by
    refine SameQuests.perhaps ?_ (give_item_same data (SameQuests.refl _) _ _)
    exact (SameQuests.refl t).setPlayer sid _ rfl rfl
  exact send_char_info_same (check_level_up_same (paid.send sid _) sid) sid

theorem reward_told_speaks (t : ServerState) (quest : QuestData) : Speaks Questless t (rewardTold data sid t quest) := by
  have paid : Speaks Questless t (questPaid data sid t quest) := by
    have credited : Speaks Questless t (t.setPlayer sid (payQuest (t.player sid) quest)) := (Speaks.refl t).same rfl
    rw [questPaid]
    exact .ite (fun _ => give_item_speaks data credited sid _ (fun _ => trivial)) (fun _ => credited)
  exact send_char_info_speaks (check_level_up_speaks (paid.send sid (.expUpdate _) trivial) sid (fun _ => trivial)) sid (fun _ => trivial)

theorem on_quest_complete_board (distinct : (data.quests.map QuestData.id).Nodup) (req : CsQuestComplete)
    (board : Board data clients other s) : Board data clients other (onQuestComplete data s sid req) := by
  have refused (t : ServerState) (same : SameQuests s t) (sessions : t.sessions = s.sessions) (sent : t.sent = s.sent) (reason : String) :
      Board data clients other (t.send sid (.questReward { questId := req.questId, message := text reason })) :=
    board.same ((unseen_same sent).send sid _ (fun _ => rfl)) (line_same s t sessions other) (same.send sid _)
  have touched := (SameQuests.refl s).touchQuestLog sid
  have line := on_quest_complete_line data s sid req other
  revert line
  rw [onQuestComplete]
  simp only
  split
  · exact fun _ => refused s (SameQuests.refl s) rfl rfl _
  · split
    · exact fun _ => refused s (SameQuests.refl s) rfl rfl _
    · rename_i quest _
      split
      · exact fun _ => refused _ touched rfl rfl _
      · rename_i state accepted
        split
        · exact fun _ => refused _ touched rfl rfl _
        · rw [quest_log_touch] at accepted ⊢
          let saved : ServerState := saveQuestProgress
            ((s.touchQuestLog sid).setQuestLog sid ((s.questLog sid).insert req.questId { state with status := 3 }))
            (s.player sid).charUid req.questId { state with status := 3 }
          intro line
          change Board data clients other ((rewardTold data sid saved quest).send sid _)
          have same := reward_told_same data sid saved quest
          have told : Speaks Questless s saved := (Speaks.refl s).same rfl
          have quiet := ((told.trans (reward_told_speaks data sid saved quest)).weaken questless_hushed).unseen clients other
          by_cases own : other = sid
          · subst own
            refine board.written distinct quiet line req.questId { state with status := 3 } ?_ _
              (fun entry => { entry with status := 3 }) (fun _ => rfl) (fun quest _ listed => ?_)
            · exact (same.logs other).trans (quest_log_set_self _ other _)
            · rw [quest_entry_self _ _ _ quest listed, questEntryOf, listed, accepted]
              rfl
          · refine board.unseen (quiet.trans (send_unseen sid _ own)) line (congrArg (boardOf data) ?_)
            exact (same.logs other).trans ((quest_log_set_other _ sid other _ own).trans (quest_log_touch s sid other))

theorem kill_npc_board (distinct : (data.quests.map QuestData.id).Nodup) (index : Fin maxNpc) (board : Board data clients other s) :
    Board data clients other (killNpc data s sid index) := by
  have announced : Board data clients other (announceDeath s index) :=
    board.same ((unseen_same (by rfl)).broadcast _ (questless_hushed _ trivial)) rfl (announce_death_same (SameQuests.refl s) index)
  have shared := share_kill_board distinct (announceDeath s index) sid s.npcs[index] announced
  have counted := update_quest_progress_board distinct _ sid shared
  have dropped (t : ServerState) (before : Board data clients other t) : Board data clients other (dropItem data t sid) :=
    before.same ((drop_item_speaks data (Speaks.refl t) sid (fun _ => questless_hushed _ trivial)).unseen clients other)
      (line_same t _ (drop_item_sessions data t sid) other) (drop_item_same data (SameQuests.refl t) sid)
  have respawned (t : ServerState) (before : Board data clients other t) : Board data clients other (respawn t) :=
    before.same ((respawn_speaks (Speaks.refl t) (fun _ => questless_hushed _ trivial)).unseen clients other)
      (line_same t _ (respawn_sessions t) other) (respawn_same (SameQuests.refl t))
  exact respawned _ (dropped _ counted)

theorem on_attack_board (distinct : (data.quests.map QuestData.id).Nodup) (atk : CsAttack) (board : Board data clients other s) :
    Board data clients other (onAttack data s sid atk) := by
  have blow (index : Fin maxNpc) : Board data clients other (strike s sid index) :=
    board.same (Unseen.send (t := setNpc s index (struck (s.player sid) s.npcs[index])) (unseen_same rfl) sid _ (questless_hushed _ trivial))
      rfl (strike_same sid index)
  cases slew : slain s sid atk with
  | none =>
      rcases slain_none data s sid atk slew with missed | ⟨index, hit⟩
      · rw [missed]
        exact board.same ((unseen_same rfl).send sid _ (questless_hushed _ trivial)) rfl ((SameQuests.refl s).send sid _)
      · rw [hit]
        exact blow index
  | some npc =>
      obtain ⟨index, target, dies, _⟩ := slain_some s sid atk npc slew
      rw [on_attack_kills data s sid atk index target dies]
      exact kill_npc_board data _ sid distinct index (blow index)

theorem handle_board (distinct : (data.quests.map QuestData.id).Nodup) (indexed : s.party.Indexed) (request : Request)
    (fresh : ∀ req, request = .charSelect req → other = sid → (shown clients s other).questEntries = [])
    (board : Board data clients other s) : Board data clients other (handle data s sid request) := by
  have quiet (rest : Request) (silent : rest.aboutQuests = false) (same : SameQuests s (handle data s sid rest)) :
      Board data clients other (handle data s sid rest) :=
    board.same (other_request_unseen data s sid rest silent) (handle_line data s indexed sid rest other) same
  cases request with
  | charSelect req => exact on_char_select_board data s sid indexed req (fresh req rfl) board
  | attack req => exact on_attack_board data s sid distinct req board
  | questList => exact on_quest_list_board data s sid board
  | questAccept req => exact on_quest_accept_board data s sid distinct req board
  | questComplete req => exact on_quest_complete_board data s sid distinct req board
  | login req => exact quiet (.login req) rfl (on_login_same data sid req)
  | charList => exact quiet .charList rfl (send_char_list_same (SameQuests.refl s) sid)
  | charCreate req => exact quiet (.charCreate req) rfl (on_char_create_same data sid req)
  | attendanceCheck => exact quiet .attendanceCheck rfl (on_attendance_check_same sid)
  | heartbeat => exact quiet .heartbeat rfl ((SameQuests.refl s).send sid _)
  | move req => exact quiet (.move req) rfl (on_move_same sid req)
  | chat req => exact quiet (.chat req) rfl (on_chat_same sid req)
  | itemUse req => exact quiet (.itemUse req) rfl (on_item_use_same data sid req)
  | itemEquip req => exact quiet (.itemEquip req) rfl (on_item_equip_same data sid req)
  | shopOpen => exact quiet .shopOpen rfl ((SameQuests.refl s).send sid _)
  | shopBuy req => exact quiet (.shopBuy req) rfl (on_shop_buy_same data sid req)
  | shopSell req => exact quiet (.shopSell req) rfl (on_shop_sell_same data sid req)
  | partyInvite req => exact quiet (.partyInvite req) rfl (on_party_invite_same sid req)
  | partyAccept req => exact quiet (.partyAccept req) rfl (on_party_accept_same sid req)
  | partyLeave => exact quiet .partyLeave rfl (remove_from_party_same (SameQuests.refl s) sid)

end Requests

section Runs

variable (data : GameData)

structure BoardsKept (scene : Scene) : Prop where
  party : PartyInvariant scene.server
  boards : ∀ sid, scene.server.line sid = some true →
    (scene.clients sid).questEntries = [] ∨ (scene.clients sid).questEntries = boardOf data (scene.server.questLog sid)

def selector (input : Input) : Option SessionId :=
  match input.event with
  | .packet sid (.charSelect _) => some sid
  | _ => none

-- A client that has its quests listed selects no character any more.
def Relay.selectsUnlisted (relay : Relay) (turn : Turn) : Prop :=
  ∀ input ∈ turn.served, ∀ sid ∈ selector input, (relay.feeds sid).drained.questEntries = []

theorem step_board (distinct : (data.quests.map QuestData.id).Nodup) (clients : SessionId → Client) (s : ServerState) (input : Input)
    (indexed : s.party.Indexed) (sid : SessionId)
    (unlisted : selector input = some sid → (shown clients s sid).questEntries = []) (board : Board data clients sid s)
    (open_ : (step data s input).line sid = some true) : Board data clients sid (step data s input) := by
  cases dead : s.fault with
  | some fault => rwa [step_dead data s input fault dead]
  | none =>
      have started : Board data clients sid (facing s input) := ⟨board.open_, board.current⟩
      rw [step_alive data s input dead] at open_ ⊢
      cases happens : input.event with
      | accept =>
          rw [happens] at open_
          have sent : (doAccept (facing s input)).sent = (facing s input).sent := by
            rw [doAccept]
            split <;> rfl
          exact started.same (unseen_same sent) (open_.trans board.open_.symm) do_accept_same
      | writeError other =>
          rw [happens] at open_
          exact started.same (unseen_same rfl) (open_.trans board.open_.symm) (set_unconnected_same other)
      | disconnect other =>
          rw [happens] at open_
          by_cases here : other ∈ s.sessions
          · rw [disconnect_here data (facing s input) other here] at open_ ⊢
            have said := (on_disconnect_speaks (setUnconnected (facing s input) other) other).weaken (fun message answers =>
              questless_hushed message (by cases message <;> trivial))
            have apart : sid ≠ other := by
              rintro rfl
              exact on_disconnect_gone (facing s input) sid ((mem_line _ sid).mpr (by rw [open_]; rfl))
            have quiet : Unseen Client.questEntries clients sid (facing s input) (setUnconnected (facing s input) other) := unseen_same rfl
            refine started.unseen (quiet.trans (said.unseen clients sid)) (open_.trans board.open_.symm) (congrArg (boardOf data) ?_)
            obtain ⟨_, logs, _⟩ := on_disconnect_fields (setUnconnected (facing s input) other) other
            have left : (onDisconnect (setUnconnected (facing s input) other) other).questLog sid =
                (removeFromParty (setUnconnected (facing s input) other) other).questLog sid := by
              simp [ServerState.questLog, logs, Std.ExtTreeMap.getElem?_erase, Ne.symm apart]
            exact left.trans ((remove_from_party_same (set_unconnected_same other) other).logs sid)
          · rwa [disconnect_absent data (facing s input) other here]
      | packet other request =>
          by_cases here : other ∈ s.sessions
          · rw [handle_event_here data (facing s input) other request here]
            refine handle_board data (facing s input) other distinct indexed request ?_ started
            rintro req rfl rfl
            exact unlisted (by rw [selector, happens])
          · rwa [handle_event_absent data (facing s input) other request here]

theorem stage_boards (distinct : (data.quests.map QuestData.id).Nodup) (scene : Scene) (input : Input) (kept : BoardsKept data scene)
    (unlisted : ∀ sid ∈ selector input, (scene.clients sid).questEntries = []) : BoardsKept data (stageStep data scene input) := by
  let s : ServerState := { scene.server with sent := [] }
  let clients := seat {} scene.clients (newcomer scene.server input)
  have party : PartyInvariant s := ⟨kept.party.indexed, kept.party.honest, kept.party.attended⟩
  refine ⟨step_party_invariant data s input party, fun sid open_ => ?_⟩
  rcases step_line_opens data s input party.indexed sid open_ with was | enters
  · have here : sid ∈ scene.server.sessions := (mem_line scene.server sid).mpr (by
      rw [show scene.server.line sid = some true from was]
      rfl)
    have seated : shown clients s sid = scene.clients sid := by
      rw [shown, show s.sent = [] from rfl]
      exact seat_present {} scene.clients scene.server input sid here
    have board : Board data clients sid s := ⟨was, by
      rw [seated]
      exact kept.boards sid was⟩
    exact (step_board data distinct clients s input party.indexed sid (fun selects => seated ▸ unlisted sid selects) board open_).current
  · obtain ⟨accepted, _, _⟩ := step_newcomer data s input sid enters
    have sent : (step data s input).sent = [] := by
      rw [accepted, doAccept]
      split <;> rfl
    have taken : newcomer scene.server input = some sid := enters
    have fresh : (stageStep data scene input).clients sid = {} := by
      change (inbox (step data s input).sent sid).foldl Client.receive (clients sid) = {}
      rw [sent, show clients = Function.update scene.clients sid {} from congrArg (seat {} scene.clients) taken]
      exact Function.update_self sid {} scene.clients
    exact .inl (by rw [fresh])

theorem relay_boards (distinct : (data.quests.map QuestData.id).Nodup) (relay : Relay) (turn : Turn) (kept : BoardsKept data relay.drained)
    (unlisted : relay.selectsUnlisted turn) : BoardsKept data (relayStep data relay turn).drained := by
  cases turn with
  | deliver sid =>
      rw [(relay_simulates data).rests relay (.deliver sid) rfl]
      exact kept
  | serve input =>
      rw [(relay_simulates data).acts relay (.serve input) input rfl]
      exact stage_boards data distinct relay.drained input kept (unlisted input rfl)

-- A connected client to which nothing is under way shows no quests, or every quest
-- with the status and the progress that the server holds for it.
def Relay.QuestsListed (relay : Relay) : Prop :=
  ∀ sid, relay.server.line sid = some true → (relay.feeds sid).pending = [] →
    (relay.feeds sid).client.questEntries = [] ∨ (relay.feeds sid).client.questEntries = boardOf data (relay.server.questLog sid)

theorem quests_listed (distinct : (data.quests.map QuestData.id).Nodup) (db : Database) (draw : Nat → Nat) (turns : List Turn)
    (unlisted : Machine.Guarded (relayStep data) Relay.selectsUnlisted (Relay.boot db draw) turns) :
    Machine.Throughout (relayStep data) (Relay.QuestsListed data) (Relay.boot db draw) turns := by
  apply Machine.throughout_of_guarded (relayStep data) Relay.selectsUnlisted (fun relay => BoardsKept data relay.drained) _ _
    (relay_boards data distinct) (Relay.boot db draw) turns _ unlisted
  · intro relay kept sid open_ quiet
    have drained : relay.drained.clients sid = (relay.feeds sid).client := Feed.drained_quiet (relay.feeds sid) quiet
    exact drained ▸ kept.boards sid open_
  · refine ⟨boot_party_invariant db draw, fun sid open_ => ?_⟩
    simp [Relay.drained, Relay.boot, boot, ServerState.line] at open_

theorem unselected_guarded (turns : List Turn) (others : ∀ turn ∈ turns, ∀ input ∈ turn.served, selector input = none) (relay : Relay) :
    Machine.Guarded (relayStep data) Relay.selectsUnlisted relay turns := by
  induction turns generalizing relay with
  | nil => trivial
  | cons turn rest ih =>
      refine ⟨fun input served sid selects => ?_, ih (fun later member => others later (List.mem_cons_of_mem turn member)) _⟩
      rw [others turn List.mem_cons_self input served] at selects
      exact absurd selects nofun

def hunterComes : List Turn := [.serve ⟨.accept, [], []⟩, .serve ⟨.packet 1 (.login ⟨[49]⟩), [], []⟩]

def listedHunt : List Turn :=
  .serve ⟨.packet 1 (.move ⟨-3, -3⟩), [], []⟩ :: .serve ⟨.packet 1 .questList, [], []⟩ :: ((questHunt.drop 4).take 5).map Turn.serve

theorem hunt_listed : Machine.Throughout (relayStep questData) (Relay.QuestsListed questData) (Relay.boot twoCharacters (fun _ => 3))
    (hunterComes ++ .serve ⟨.packet 1 (.charSelect ⟨1⟩), [], []⟩ :: listedHunt) := by
  have unlisted : ((Machine.run (relayStep questData) (Relay.boot twoCharacters (fun _ => 3)) hunterComes).feeds 1).drained.questEntries.length =
      0 := by decide +kernel
  have comes := unselected_guarded questData hunterComes (by simp [hunterComes, Turn.served, selector])
  have hunts := unselected_guarded questData listedHunt (by simp [listedHunt, questHunt, Turn.served, selector])
  refine quests_listed questData (by decide) twoCharacters (fun _ => 3) _
    ((Machine.guarded_append _ _ _ _ _).mpr ⟨comes _, fun input served sid selects => ?_, hunts _⟩)
  obtain rfl := Option.some.inj served
  obtain rfl := Option.some.inj selects
  exact List.length_eq_zero_iff.mp unlisted

end Runs

end MmorpgSimulator
