import MmorpgSimulator.QuestMirrors

set_option autoImplicit false

namespace MmorpgSimulator

section Steps

variable (data : GameData)

theorem request_follows (s : ServerState) (mirrored : Mirrored s) (plan : s.dbPlan = []) (sid : SessionId)
    (kept : Journal.Kept data s.db.questProgress) (request : Request) (other : ∀ req, request ≠ .charSelect req)
    (inGame : ∀ req, request = .questAccept req → (s.player sid).loggedIn = true) :
    Follows data (requestEvents data s sid request) s (handle data s sid request) := by
  cases request with
  | login req => exact (on_login_same data sid req).follows data mirrored plan
  | charList => exact (send_char_list_same (SameQuests.refl s) sid).follows data mirrored plan
  | charCreate req => exact (on_char_create_same data sid req).follows data mirrored plan
  | charSelect req => exact absurd rfl (other req)
  | attendanceCheck => exact (on_attendance_check_same sid).follows data mirrored plan
  | heartbeat => exact ((SameQuests.refl s).send sid _).follows data mirrored plan
  | move req => exact (on_move_same sid req).follows data mirrored plan
  | attack req => exact on_attack_follows data s mirrored plan sid req
  | chat req => exact (on_chat_same sid req).follows data mirrored plan
  | itemUse req => exact (on_item_use_same data sid req).follows data mirrored plan
  | itemEquip req => exact (on_item_equip_same data sid req).follows data mirrored plan
  | shopOpen => exact ((SameQuests.refl s).send sid _).follows data mirrored plan
  | shopBuy req => exact (on_shop_buy_same data sid req).follows data mirrored plan
  | shopSell req => exact (on_shop_sell_same data sid req).follows data mirrored plan
  | questList => exact (on_quest_list_same data sid).follows data mirrored plan
  | questAccept req => exact on_quest_accept_follows data s mirrored plan sid kept req (inGame req rfl)
  | questComplete req => exact on_quest_complete_follows data s mirrored plan sid req
  | partyInvite req => exact (on_party_invite_same sid req).follows data mirrored plan
  | partyAccept req => exact (on_party_accept_same sid req).follows data mirrored plan
  | partyLeave => exact (remove_from_party_same (SameQuests.refl s) sid).follows data mirrored plan

theorem steps_allowed (charUids : List CharUid) (journal : Journal) :
    Machine.Guarded (record data) (Allowed data) journal (charUids.map QuestEvent.stepped) := by
  induction charUids generalizing journal with
  | nil => trivial
  | cons charUid rest ih => exact ⟨trivial, ih _⟩

theorem request_allowed (s : ServerState) (mirrored : Mirrored s) (sid : SessionId) (kept : Journal.Kept data s.db.questProgress)
    (request : Request) (inGame : ∀ req, request = .questAccept req → (s.player sid).loggedIn = true) :
    Machine.Guarded (record data) (Allowed data) s.db.questProgress (requestEvents data s sid request) := by
  cases request with
  | questAccept req =>
      rw [requestEvents]
      split
      · rename_i taken
        have playing := inGame req rfl
        simp only [accepts, Bool.and_eq_true, Bool.not_eq_true', decide_eq_false_iff_not] at taken
        refine ⟨⟨taken.1.2, ?_⟩, trivial⟩
        rw [← mirrored.loaded sid playing]
        cases entry : (s.questLog sid)[req.questId]? with
        | none => rfl
        | some state =>
            rw [entry] at taken
            exact absurd (status_known data s sid kept mirrored req.questId state playing entry) taken.2
      · trivial
  | questComplete req =>
      rw [requestEvents]
      split
      · rename_i paid
        simp only [completes, Bool.and_eq_true, decide_eq_true_eq] at paid
        cases entry : (s.questLog sid)[req.questId]? with
        | none =>
            rw [entry] at paid
            exact absurd paid.2 (by decide)
        | some state =>
            rw [entry] at paid
            have playing : (s.player sid).loggedIn = true := by
              by_contra outside
              rw [mirrored.blank sid (Bool.eq_false_iff.mpr outside)] at entry
              simp at entry
            rw [mirrored.loaded sid playing] at entry
            exact ⟨⟨state, entry, paid.2⟩, trivial⟩
      · trivial
  | attack req => exact steps_allowed data _ _
  | _ => trivial

theorem request_moves (s : ServerState) (sid : SessionId) (request : Request) (journal : Journal)
    (allowed : Machine.Guarded (record data) (Allowed data) journal (requestEvents data s sid request)) (charUid : CharUid)
    (questId : UInt16) :
    StatusMove (statusOf (journal charUid)[questId]?)
      (statusOf (Machine.run (record data) journal (requestEvents data s sid request) charUid)[questId]?) := by
  cases request with
  | questAccept req =>
      revert allowed
      rw [requestEvents]
      split
      · intro allowed
        exact record_moves data journal _ allowed.1 charUid questId
      · intro _
        exact .stay _
  | questComplete req =>
      revert allowed
      rw [requestEvents]
      split
      · intro allowed
        exact record_moves data journal _ allowed.1 charUid questId
      · intro _
        exact .stay _
  | attack req => exact steps_move data _ journal charUid questId
  | _ => exact .stay _

structure Chronicled (s : ServerState) (events : List QuestEvent) : Prop where
  mirrored : Mirrored s
  journal : s.db.questProgress = book data events
  allowed : Machine.Guarded (record data) (Allowed data) (fun _ => ∅) events

theorem chronicled_nothing (s s' : ServerState) (events : List QuestEvent) (before : Chronicled data s events)
    (mirrored : Mirrored s') (journal : s'.db.questProgress = s.db.questProgress) : Chronicled data s' (events ++ []) := by
  rw [List.append_nil]
  exact ⟨mirrored, journal.trans before.journal, before.allowed⟩

theorem chronicled_request (targets : ∀ quest ∈ data.quests, 1 ≤ quest.target) (s : ServerState) (events : List QuestEvent)
    (before : Chronicled data s events) (plan : s.dbPlan = []) (sid : SessionId) (here : sid ∈ s.sessions) (request : Request)
    (accepting : ∀ req, request = .questAccept req → (s.player sid).loggedIn = true)
    (free : ∀ req, request = .charSelect req → ∀ other ∈ s.inGame, other ≠ sid → (s.player other).charUid ≠ req.charUid) :
    Chronicled data (handle data s sid request) (events ++ requestEvents data s sid request) := by
  have kept : Journal.Kept data s.db.questProgress := before.journal ▸ book_kept data targets events before.allowed
  by_cases selecting : ∃ req, request = .charSelect req
  · obtain ⟨req, rfl⟩ := selecting
    obtain ⟨mirrored, journal⟩ := on_char_select_mirrored data s before.mirrored plan sid here req (free req rfl)
    exact chronicled_nothing data s _ events before mirrored journal
  · have follows := request_follows data s before.mirrored plan sid kept request (fun req same => selecting ⟨req, same⟩) accepting
    have permitted := request_allowed data s before.mirrored sid kept request accepting
    refine ⟨follows.mirrored, ?_, ?_⟩
    · rw [follows.journal, before.journal, book, book, Machine.run_append]
    · rw [before.journal] at permitted
      exact (Machine.guarded_append _ _ _ _ _).mpr ⟨before.allowed, permitted⟩

theorem facing_chronicled (s : ServerState) (input : Input) (events : List QuestEvent) (before : Chronicled data s events) :
    Chronicled data (facing s input) events :=
  ⟨⟨before.mirrored.loaded, before.mirrored.blank, before.mirrored.apart⟩, before.journal, before.allowed⟩

theorem quest_events_alive (s : ServerState) (rolls : List Nat) (dbPlan : List DbOutcome) (sid : SessionId) (request : Request)
    (alive : s.fault = none) (here : sid ∈ s.sessions) :
    questEvents data s ⟨.packet sid request, rolls, dbPlan⟩ = requestEvents data s sid request := by
  rw [questEvents, alive]
  exact if_pos here

theorem chronicled_step (targets : ∀ quest ∈ data.quests, 1 ≤ quest.target) (s : ServerState) (events : List QuestEvent)
    (before : Chronicled data s events) (input : Input) (plays : playsQuests s input) :
    Chronicled data (step data s input) (events ++ questEvents data s input) := by
  cases alive : s.fault with
  | some fault =>
      have silent : questEvents data s input = [] := by simp only [questEvents, alive]
      rw [step_dead data s input fault alive, silent]
      exact chronicled_nothing data s s events before before.mirrored rfl
  | none =>
      have started := facing_chronicled data s input events before
      rw [step_alive data s input alive]
      obtain ⟨event, rolls, dbPlan⟩ := input
      obtain ⟨plan, guard⟩ := plays
      cases event with
      | accept =>
          have same := do_accept_same (s := facing s ⟨.accept, rolls, dbPlan⟩)
          have silent : questEvents data s ⟨.accept, rolls, dbPlan⟩ = [] := by simp only [questEvents, alive]
          rw [silent]
          exact chronicled_nothing data _ _ events started (same.mirrored started.mirrored) same.journal
      | writeError sid =>
          have same := set_unconnected_same (s := facing s ⟨.writeError sid, rolls, dbPlan⟩) sid
          have silent : questEvents data s ⟨.writeError sid, rolls, dbPlan⟩ = [] := by simp only [questEvents, alive]
          rw [silent]
          exact chronicled_nothing data _ _ events started (same.mirrored started.mirrored) same.journal
      | disconnect sid =>
          have silent : questEvents data s ⟨.disconnect sid, rolls, dbPlan⟩ = [] := by simp only [questEvents, alive]
          rw [silent]
          by_cases here : sid ∈ s.sessions
          · have same := set_unconnected_same (s := facing s ⟨.disconnect sid, rolls, dbPlan⟩) sid
            obtain ⟨mirrored, journal⟩ := on_disconnect_mirrored _ (same.mirrored started.mirrored) sid
            rw [disconnect_here data (facing s _) sid here]
            exact chronicled_nothing data _ _ events started mirrored (journal.trans same.journal)
          · rw [disconnect_absent data (facing s _) sid here]
            exact chronicled_nothing data _ _ events started started.mirrored rfl
      | packet sid request =>
          by_cases here : sid ∈ s.sessions
          · rw [quest_events_alive data s rolls dbPlan sid request alive here, handle_event_here data (facing s _) sid request here]
            refine chronicled_request data targets (facing s ⟨.packet sid request, rolls, dbPlan⟩) events started plan sid here request ?_ ?_
            · rintro req rfl
              exact guard
            · rintro req rfl other playing apart
              exact selects_free s sid other req guard playing apart
          · have silent : questEvents data s ⟨.packet sid request, rolls, dbPlan⟩ = [] := by
              simp only [questEvents, alive]
              exact if_neg here
            rw [silent, handle_event_absent data (facing s _) sid request here]
            exact chronicled_nothing data _ _ events started started.mirrored rfl

end Steps

section Runs

variable (data : GameData)

structure QuestLife (s : ServerState) : Prop where
  kept : ∀ charUid questId, KeptEntry data questId (s.db.questProgress charUid)[questId]?
  stored : ∀ sid, (s.player sid).loggedIn = true → ∀ questId : UInt16,
    (s.questLog sid)[questId]? = (s.db.questProgress (s.player sid).charUid)[questId]?
  restored : ∀ sid, (s.player sid).loggedIn = true → s.dbPlan = [] → (loadQuestProgress s sid).questLog sid = s.questLog sid

theorem chronicled_life (targets : ∀ quest ∈ data.quests, 1 ≤ quest.target) (s : ServerState) (events : List QuestEvent)
    (chronicled : Chronicled data s events) : QuestLife data s where
  kept := chronicled.journal ▸ book_kept data targets events chronicled.allowed
  stored := by
    intro sid playing questId
    rw [chronicled.mirrored.loaded sid playing]
  restored := by
    intro sid playing plan
    rw [load_quest_progress_log s plan sid, chronicled.mirrored.loaded sid playing]

theorem chronicled_run (targets : ∀ quest ∈ data.quests, 1 ≤ quest.target) (s : ServerState) (events : List QuestEvent)
    (before : Chronicled data s events) (inputs : List Input) (plays : Machine.Guarded (step data) playsQuests s inputs) :
    Chronicled data (Machine.run (step data) s inputs) (events ++ eventsOf data s inputs) := by
  induction inputs generalizing s events with
  | nil =>
      rw [eventsOf, List.append_nil]
      exact before
  | cons input rest ih =>
      have next := chronicled_step data targets s events before input plays.1
      have later := ih (step data s input) _ next plays.2
      rwa [List.append_assoc] at later

theorem boot_chronicled (db : Database) (draw : Nat → Nat) (fresh : ∀ charUid, db.questProgress charUid = ∅) :
    Chronicled data (boot db draw) [] := by
  have nobody (sid : SessionId) : (boot db draw).player sid = {} ∧ (boot db draw).questLog sid = ∅ := by
    simp [ServerState.player, ServerState.questLog, boot]
  refine ⟨⟨?_, ?_, ?_⟩, funext fresh, trivial⟩
  · intro sid playing
    rw [(nobody sid).1] at playing
    exact absurd playing (by decide)
  · intro sid _
    exact (nobody sid).2
  · intro sid _ _ playing
    rw [(nobody sid).1] at playing
    exact absurd playing (by decide)

theorem quest_events_request (s : ServerState) (input : Input) :
    questEvents data s input = [] ∨ ∃ sid request, questEvents data s input = requestEvents data s sid request := by
  rw [questEvents]
  split
  · rename_i sid request _ _
    split
    · exact .inr ⟨sid, request, rfl⟩
    · exact .inl rfl
  · exact .inl rfl

theorem step_moves (targets : ∀ quest ∈ data.quests, 1 ≤ quest.target) (s : ServerState) (events : List QuestEvent)
    (before : Chronicled data s events) (input : Input) (plays : playsQuests s input) (charUid : CharUid) (questId : UInt16) :
    StatusMove (statusOf (s.db.questProgress charUid)[questId]?) (statusOf ((step data s input).db.questProgress charUid)[questId]?) := by
  have after := chronicled_step data targets s events before input plays
  have permitted := ((Machine.guarded_append _ _ _ _ _).mp after.allowed).2
  rw [after.journal, before.journal, book, book, Machine.run_append]
  rcases quest_events_request data s input with silent | ⟨sid, request, loud⟩
  · rw [silent]
    exact .stay _
  · rw [loud] at permitted ⊢
    exact request_moves data s sid request _ permitted charUid questId

section Lives

variable (targets : ∀ quest ∈ data.quests, 1 ≤ quest.target) (db : Database) (draw : Nat → Nat)
  (fresh : ∀ charUid, db.questProgress charUid = ∅) (inputs : List Input) (plays : Machine.Guarded (step data) playsQuests (boot db draw) inputs)
include targets fresh plays

theorem run_chronicled : Chronicled data (Machine.run (step data) (boot db draw) inputs) (eventsOf data (boot db draw) inputs) :=
  chronicled_run data targets _ [] (boot_chronicled data db draw fresh) inputs plays

theorem run_life : Machine.Throughout (step data) (QuestLife data) (boot db draw) inputs := by
  refine Machine.throughout_of_guarded (step data) playsQuests (fun s => ∃ events, Chronicled data s events) (QuestLife data)
    ?_ ?_ _ inputs ⟨[], boot_chronicled data db draw fresh⟩ plays
  · rintro s ⟨events, chronicled⟩
    exact chronicled_life data targets s events chronicled
  · rintro s input ⟨events, chronicled⟩ playing
    exact ⟨_, chronicled_step data targets s events chronicled input playing⟩

theorem run_moves (first : List Input) (input : Input) (rest : List Input) (split : inputs = first ++ input :: rest) (charUid : CharUid)
    (questId : UInt16) :
    StatusMove (statusOf ((Machine.run (step data) (boot db draw) first).db.questProgress charUid)[questId]?)
      (statusOf ((Machine.run (step data) (boot db draw) (first ++ [input])).db.questProgress charUid)[questId]?) := by
  subst split
  obtain ⟨playsFirst, playsInput, _⟩ := (Machine.guarded_append _ _ _ _ _).mp plays
  have reached := run_chronicled data targets db draw fresh first playsFirst
  rw [Machine.run_append]
  exact step_moves data targets _ _ reached input playsInput charUid questId

end Lives

def questData : GameData := { emptyData with quests := [⟨1, [81], 1, 50, 20, 0⟩] }

-- One quest, one kill, the reward, and another try at it after coming back.
def questHunt : List Input :=
  [⟨.accept, [], []⟩, ⟨.packet 1 (.login ⟨[49]⟩), [], []⟩, ⟨.packet 1 (.charSelect ⟨1⟩), [], []⟩,
    ⟨.packet 1 (.move ⟨-3, -3⟩), [], []⟩, ⟨.packet 1 (.questAccept ⟨1⟩), [], []⟩, ⟨.packet 1 (.attack ⟨1⟩), [], []⟩,
    ⟨.packet 1 (.attack ⟨1⟩), [], []⟩, ⟨.packet 1 (.attack ⟨1⟩), [], []⟩, ⟨.packet 1 (.questComplete ⟨1⟩), [], []⟩,
    ⟨.disconnect 1, [], []⟩, ⟨.accept, [], []⟩, ⟨.packet 2 (.login ⟨[49]⟩), [], []⟩, ⟨.packet 2 (.charSelect ⟨1⟩), [], []⟩,
    ⟨.packet 2 (.move ⟨-3, -3⟩), [], []⟩, ⟨.packet 2 (.questComplete ⟨1⟩), [], []⟩]

end Runs

end MmorpgSimulator
