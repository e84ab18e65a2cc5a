import MmorpgSimulator.KillSharing

set_option autoImplicit false

namespace MmorpgSimulator

-- The life of the quests as the players see it, whatever session plays whom.
inductive QuestEvent where
  | accepted (charUid : CharUid) (questId : UInt16)
  | stepped (charUid : CharUid)
  | paid (charUid : CharUid) (questId : UInt16)
deriving DecidableEq, Repr

abbrev Journal := CharUid → QuestLog

def record (data : GameData) (journal : Journal) : QuestEvent → Journal
  | .accepted charUid questId => Function.update journal charUid ((journal charUid).insert questId ⟨1, 0⟩)
  | .stepped charUid => Function.update journal charUid (progressedLog data (journal charUid))
  | .paid charUid questId =>
      Function.update journal charUid
        ((journal charUid).insert questId { ((journal charUid)[questId]?).getD {} with status := 3 })

-- A quest is accepted when there is nothing recorded of it, and paid when it is completable.
def Allowed (data : GameData) (journal : Journal) : QuestEvent → Prop
  | .accepted charUid questId => (data.findQuest questId).isSome ∧ (journal charUid)[questId]? = none
  | .stepped _ => True
  | .paid charUid questId => ∃ state, (journal charUid)[questId]? = some state ∧ state.status = 2

def statusOf (entry : Option QuestProgress) : UInt8 := (entry.map QuestProgress.status).getD 0

inductive StatusMove : UInt8 → UInt8 → Prop where
  | stay (status : UInt8) : StatusMove status status
  | accept : StatusMove 0 1
  | finish : StatusMove 1 2
  | reward : StatusMove 2 3

structure Kept (quest : QuestData) (state : QuestProgress) : Prop where
  known : state.status = 1 ∨ state.status = 2 ∨ state.status = 3
  underWay : state.status = 1 → state.progress < quest.target
  reached : state.status = 2 ∨ state.status = 3 → state.progress = quest.target

def KeptEntry (data : GameData) (questId : UInt16) (entry : Option QuestProgress) : Prop :=
  ∀ state, entry = some state → ∃ quest, data.findQuest questId = some quest ∧ Kept quest state

def Journal.Kept (data : GameData) (journal : Journal) : Prop :=
  ∀ charUid questId, KeptEntry data questId (journal charUid)[questId]?

section OneEntry

variable (data : GameData)

def entryAfter (charUid : CharUid) (questId : UInt16) (entry : Option QuestProgress) : QuestEvent → Option QuestProgress
  | .accepted owner id => if owner = charUid ∧ id = questId then some ⟨1, 0⟩ else entry
  | .stepped owner => if owner = charUid then entry.map (progressed data questId) else entry
  | .paid owner id => if owner = charUid ∧ id = questId then some { entry.getD {} with status := 3 } else entry

theorem updated_entry (journal : Journal) (owner charUid : CharUid) (questId id : UInt16) (state : QuestProgress) :
    (Function.update journal owner ((journal owner).insert id state) charUid)[questId]? =
      if owner = charUid ∧ id = questId then some state else (journal charUid)[questId]? := by
  by_cases same : owner = charUid
  · subst same
    simp [Std.ExtTreeMap.getElem?_insert]
  · simp [same, Function.update_of_ne (Ne.symm same)]

theorem record_entry (journal : Journal) (event : QuestEvent) (charUid : CharUid) (questId : UInt16) :
    (record data journal event charUid)[questId]? = entryAfter data charUid questId (journal charUid)[questId]? event := by
  cases event with
  | accepted owner id => exact updated_entry journal owner charUid questId id ⟨1, 0⟩
  | stepped owner =>
      rw [record, entryAfter]
      by_cases same : owner = charUid
      · subst same
        rw [if_pos rfl, Function.update_self, progressedLog, Std.ExtTreeMap.getElem?_map]
      · rw [if_neg same, Function.update_of_ne (Ne.symm same)]
  | paid owner id =>
      rw [record, entryAfter, updated_entry]
      by_cases same : owner = charUid ∧ id = questId
      · obtain ⟨rfl, rfl⟩ := same
        rfl
      · rw [if_neg same, if_neg same]

theorem progressed_kept (quest : QuestData) (questId : UInt16) (known : data.findQuest questId = some quest)
    (state : QuestProgress) (kept : Kept quest state) : Kept quest (progressed data questId state) := by
  by_cases moving : state.status = 1
  · have below := kept.underWay moving
    rw [UInt16.lt_iff_toNat_lt] at below
    have bound := quest.target.toNat_lt
    have next : (state.progress + 1).toNat = state.progress.toNat + 1 := by
      rw [UInt16.toNat_add]
      exact Nat.mod_eq_of_lt (by simp only [UInt16.toNat_ofNat]; omega)
    have same : progressed data questId state = ⟨if quest.target ≤ state.progress + 1 then 2 else 1, state.progress + 1⟩ := by
      simp only [progressed, known, moving]
      rfl
    rw [same]
    by_cases last : quest.target ≤ state.progress + 1
    · rw [if_pos last]
      rw [UInt16.le_iff_toNat_le] at last
      have equal : state.progress + 1 = quest.target := UInt16.toNat_inj.mp (by omega)
      exact ⟨.inr (.inl rfl), by simp, fun _ => equal⟩
    · rw [if_neg last]
      exact ⟨.inl rfl, fun _ => UInt16.not_le.mp last, by simp⟩
  · have still : progressed data questId state = state := by
      simp only [progressed, known]
      exact if_pos moving
    rw [still]
    exact kept

theorem progressed_status (questId : UInt16) (state : QuestProgress) :
    (progressed data questId state).status = state.status ∨
      state.status = 1 ∧ (progressed data questId state).status = 2 := by
  cases known : data.findQuest questId with
  | none => exact .inl (by simp only [progressed, known])
  | some quest =>
      simp only [progressed, known]
      by_cases moving : state.status = 1
      · rw [if_neg (not_not.mpr moving)]
        by_cases last : quest.target ≤ state.progress + 1
        · exact .inr ⟨moving, if_pos last⟩
        · exact .inl ((if_neg last).trans moving.symm)
      · rw [if_pos moving]
        exact .inl rfl

theorem progressed_progress (questId : UInt16) (state : QuestProgress) :
    (progressed data questId state).progress.toNat ≤ state.progress.toNat + 1 := by
  cases known : data.findQuest questId with
  | none => simp only [progressed, known]; omega
  | some quest =>
      simp only [progressed, known]
      split
      · omega
      · simp only [UInt16.toNat_add, UInt16.toNat_ofNat]
        omega

theorem entry_after_kept (targets : ∀ quest ∈ data.quests, 1 ≤ quest.target) (journal : Journal) (event : QuestEvent)
    (allowed : Allowed data journal event) (charUid : CharUid) (questId : UInt16)
    (kept : KeptEntry data questId (journal charUid)[questId]?) :
    KeptEntry data questId (entryAfter data charUid questId (journal charUid)[questId]? event) := by
  intro state after
  cases event with
  | accepted owner id =>
      rw [entryAfter] at after
      split at after
      · rename_i same
        obtain ⟨rfl, rfl⟩ := same
        obtain ⟨quest, known⟩ := Option.isSome_iff_exists.mp allowed.1
        obtain rfl := Option.some.inj after
        have positive := targets quest (find_quest_mem data id quest known)
        refine ⟨quest, known, .inl rfl, fun _ => ?_, by simp⟩
        rw [UInt16.lt_iff_toNat_lt]
        rw [UInt16.le_iff_toNat_le] at positive
        exact positive
      · exact kept state after
  | stepped owner =>
      rw [entryAfter] at after
      split at after
      · obtain ⟨before, found, rfl⟩ := Option.map_eq_some_iff.mp after
        obtain ⟨quest, known, keeps⟩ := kept before found
        exact ⟨quest, known, progressed_kept data quest questId known before keeps⟩
      · exact kept state after
  | paid owner id =>
      rw [entryAfter] at after
      split at after
      · rename_i same
        obtain ⟨rfl, rfl⟩ := same
        obtain ⟨before, found, completable⟩ := allowed
        rw [found] at after
        obtain rfl := Option.some.inj after
        obtain ⟨quest, known, keeps⟩ := kept before found
        exact ⟨quest, known, .inr (.inr rfl), by simp, fun _ => keeps.reached (.inl completable)⟩
      · exact kept state after

theorem stepped_moves (charUid owner : CharUid) (questId : UInt16) (entry : Option QuestProgress) :
    statusOf (entryAfter data charUid questId entry (.stepped owner)) = statusOf entry ∨
      statusOf entry = 1 ∧ statusOf (entryAfter data charUid questId entry (.stepped owner)) = 2 := by
  rw [entryAfter]
  split
  · cases entry with
    | none => exact .inl rfl
    | some state => exact progressed_status data questId state
  · exact .inl rfl

theorem entry_after_moves (journal : Journal) (event : QuestEvent) (allowed : Allowed data journal event)
    (charUid : CharUid) (questId : UInt16) :
    StatusMove (statusOf (journal charUid)[questId]?) (statusOf (entryAfter data charUid questId (journal charUid)[questId]? event)) := by
  cases event with
  | accepted owner id =>
      rw [entryAfter]
      split
      · rename_i same
        obtain ⟨rfl, rfl⟩ := same
        rw [allowed.2]
        exact .accept
      · exact .stay _
  | stepped owner =>
      rcases stepped_moves data charUid owner questId (journal charUid)[questId]? with same | ⟨one, two⟩
      · rw [same]
        exact .stay _
      · rw [one, two]
        exact .finish
  | paid owner id =>
      rw [entryAfter]
      split
      · rename_i same
        obtain ⟨rfl, rfl⟩ := same
        obtain ⟨before, found, completable⟩ := allowed
        rw [found]
        change StatusMove before.status 3
        rw [completable]
        exact .reward
      · exact .stay _

end OneEntry

section Histories

variable (data : GameData)

theorem record_kept (targets : ∀ quest ∈ data.quests, 1 ≤ quest.target) (journal : Journal) (event : QuestEvent)
    (kept : journal.Kept data) (allowed : Allowed data journal event) : Journal.Kept data (record data journal event) := by
  intro charUid questId
  rw [record_entry]
  exact entry_after_kept data targets journal event allowed charUid questId (kept charUid questId)

theorem record_moves (journal : Journal) (event : QuestEvent) (allowed : Allowed data journal event) (charUid : CharUid)
    (questId : UInt16) :
    StatusMove (statusOf (journal charUid)[questId]?) (statusOf (record data journal event charUid)[questId]?) := by
  rw [record_entry]
  exact entry_after_moves data journal event allowed charUid questId

theorem steps_move (charUids : List CharUid) (journal : Journal) (charUid : CharUid) (questId : UInt16) :
    StatusMove (statusOf (journal charUid)[questId]?)
      (statusOf (Machine.run (record data) journal (charUids.map QuestEvent.stepped) charUid)[questId]?) := by
  have steps : statusOf (Machine.run (record data) journal (charUids.map QuestEvent.stepped) charUid)[questId]? =
        statusOf (journal charUid)[questId]? ∨
      statusOf (journal charUid)[questId]? = 1 ∧
        statusOf (Machine.run (record data) journal (charUids.map QuestEvent.stepped) charUid)[questId]? = 2 := by
    induction charUids generalizing journal with
    | nil => exact .inl rfl
    | cons owner rest ih =>
        have later := ih (record data journal (.stepped owner))
        have first := stepped_moves data charUid owner questId (journal charUid)[questId]?
        rw [← record_entry] at first
        rw [List.map_cons, Machine.run_cons]
        rcases first with same | ⟨one, two⟩
        · rwa [same] at later
        · refine .inr ⟨one, ?_⟩
          rcases later with still | ⟨absurdOne, _⟩
          · exact still.trans two
          · rw [two] at absurdOne
            exact absurd absurdOne (by decide)
  rcases steps with same | ⟨one, two⟩
  · rw [same]
    exact .stay _
  · rw [one, two]
    exact .finish

def book (events : List QuestEvent) : Journal := Machine.run (record data) (fun _ => ∅) events

theorem book_append (events : List QuestEvent) (event : QuestEvent) : book data (events ++ [event]) = record data (book data events) event := by
  rw [book, Machine.run_append]
  rfl

structure Earned (events : List QuestEvent) (charUid : CharUid) (questId : UInt16) (entry : Option QuestProgress) : Prop where
  once : events.count (.paid charUid questId) = if statusOf entry = 3 then 1 else 0
  steps : ∀ state, entry = some state → ∃ start rest, events = start ++ .accepted charUid questId :: rest ∧
    state.progress.toNat ≤ rest.count (.stepped charUid)

theorem count_other (events : List QuestEvent) (event : QuestEvent) (charUid : CharUid) (questId : UInt16)
    (other : event ≠ .paid charUid questId) : (events ++ [event]).count (.paid charUid questId) = events.count (.paid charUid questId) := by
  rw [List.count_append, List.count_singleton, if_neg (by simpa using other), Nat.add_zero]

theorem earned_longer (events : List QuestEvent) (event : QuestEvent) (charUid : CharUid) (questId : UInt16)
    (other : event ≠ .paid charUid questId) (entry : Option QuestProgress) (earned : Earned events charUid questId entry) :
    Earned (events ++ [event]) charUid questId entry where
  once := (count_other events event charUid questId other).trans earned.once
  steps := by
    intro state found
    obtain ⟨start, rest, split, enough⟩ := earned.steps state found
    refine ⟨start, rest ++ [event], ?_, ?_⟩
    · rw [split, List.append_assoc, List.cons_append]
    · rw [List.count_append]
      exact le_trans enough (Nat.le_add_right _ _)

theorem earned_accepted (events : List QuestEvent) (charUid : CharUid) (questId : UInt16) (earned : Earned events charUid questId none) :
    Earned (events ++ [.accepted charUid questId]) charUid questId (some ⟨1, 0⟩) where
  once := (count_other events _ charUid questId (by simp)).trans earned.once
  steps := by
    intro state fresh
    obtain rfl := Option.some.inj fresh
    exact ⟨events, [], rfl, Nat.zero_le _⟩

theorem earned_stepped (events : List QuestEvent) (charUid : CharUid) (questId : UInt16) (entry : Option QuestProgress)
    (earned : Earned events charUid questId entry) :
    Earned (events ++ [.stepped charUid]) charUid questId (entry.map (progressed data questId)) := by
  cases entry with
  | none => exact earned_longer events _ charUid questId (by simp) none earned
  | some state =>
      refine ⟨?_, ?_⟩
      · have still : statusOf ((some state).map (progressed data questId)) = 3 ↔ statusOf (some state) = 3 := by
          change (progressed data questId state).status = 3 ↔ state.status = 3
          rcases progressed_status data questId state with same | ⟨one, two⟩
          · rw [same]
          · rw [one, two]
            decide
        simp only [still]
        exact (count_other events _ charUid questId (by simp)).trans earned.once
      · intro next stepped
        obtain rfl := Option.some.inj stepped
        obtain ⟨start, rest, split, enough⟩ := earned.steps state rfl
        have one := progressed_progress data questId state
        refine ⟨start, rest ++ [.stepped charUid], ?_, ?_⟩
        · rw [split, List.append_assoc, List.cons_append]
        · rw [List.count_append, List.count_singleton_self]
          omega

theorem earned_paid (events : List QuestEvent) (charUid : CharUid) (questId : UInt16) (state : QuestProgress)
    (completable : state.status = 2) (earned : Earned events charUid questId (some state)) :
    Earned (events ++ [.paid charUid questId]) charUid questId (some { state with status := 3 }) := by
  have unpaid : events.count (.paid charUid questId) = 0 := by
    have before := earned.once
    rwa [statusOf, Option.map_some, Option.getD_some, completable, if_neg (by decide)] at before
  refine ⟨?_, ?_⟩
  · rw [List.count_append, unpaid, List.count_singleton_self]
    rfl
  · intro next paid
    obtain rfl := Option.some.inj paid
    obtain ⟨start, rest, split, enough⟩ := earned.steps state rfl
    refine ⟨start, rest ++ [.paid charUid questId], ?_, ?_⟩
    · rw [split, List.append_assoc, List.cons_append]
    · rw [List.count_append]
      exact le_trans enough (Nat.le_add_right _ _)

theorem earned_event (events : List QuestEvent) (event : QuestEvent) (charUid : CharUid) (questId : UInt16)
    (allowed : Allowed data (book data events) event) (earned : Earned events charUid questId (book data events charUid)[questId]?) :
    Earned (events ++ [event]) charUid questId (book data (events ++ [event]) charUid)[questId]? := by
  rw [book_append, record_entry]
  cases event with
  | accepted owner id =>
      rw [entryAfter]
      split
      · rename_i same
        obtain ⟨rfl, rfl⟩ := same
        rw [allowed.2] at earned
        exact earned_accepted events owner id earned
      · exact earned_longer events _ charUid questId (by simp) _ earned
  | stepped owner =>
      rw [entryAfter]
      split
      · rename_i same
        subst same
        exact earned_stepped data events owner questId _ earned
      · exact earned_longer events _ charUid questId (by simp) _ earned
  | paid owner id =>
      rw [entryAfter]
      split
      · rename_i same
        obtain ⟨rfl, rfl⟩ := same
        obtain ⟨state, found, completable⟩ := allowed
        rw [found] at earned ⊢
        exact earned_paid events owner id state completable earned
      · rename_i apart
        refine earned_longer events _ charUid questId ?_ _ earned
        intro same
        injection same with sameOwner sameId
        exact apart ⟨sameOwner, sameId⟩

theorem book_earned (events : List QuestEvent) (allowed : Machine.Guarded (record data) (Allowed data) (fun _ => ∅) events)
    (charUid : CharUid) (questId : UInt16) : Earned events charUid questId (book data events charUid)[questId]? := by
  induction events using List.reverseRecOn with
  | nil => exact ⟨rfl, by simp [book]⟩
  | append_singleton events event ih =>
      obtain ⟨before, last⟩ := (Machine.guarded_append _ _ _ _ _).mp allowed
      exact earned_event data events event charUid questId last.1 (ih before)

theorem book_kept (targets : ∀ quest ∈ data.quests, 1 ≤ quest.target) (events : List QuestEvent)
    (allowed : Machine.Guarded (record data) (Allowed data) (fun _ => ∅) events) : (book data events).Kept data :=
  Machine.run_invariant (record data) (Allowed data) (Journal.Kept data)
    (fun journal event kept permitted => record_kept data targets journal event kept permitted) _ events
    (fun _ _ => by simp [KeptEntry]) allowed

theorem paid_at_most_once (events : List QuestEvent) (allowed : Machine.Guarded (record data) (Allowed data) (fun _ => ∅) events)
    (charUid : CharUid) (questId : UInt16) : events.count (.paid charUid questId) ≤ 1 := by
  rw [(book_earned data events allowed charUid questId).once]
  split <;> omega

theorem paid_is_earned (targets : ∀ quest ∈ data.quests, 1 ≤ quest.target) (before after : List QuestEvent) (charUid : CharUid)
    (questId : UInt16)
    (allowed : Machine.Guarded (record data) (Allowed data) (fun _ => ∅) (before ++ .paid charUid questId :: after)) :
    ∃ quest, data.findQuest questId = some quest ∧ ∃ start rest, before = start ++ .accepted charUid questId :: rest ∧
      quest.target.toNat ≤ rest.count (.stepped charUid) := by
  obtain ⟨first, ⟨state, found, completable⟩, _⟩ := (Machine.guarded_append _ _ _ _ _).mp allowed
  obtain ⟨quest, known, kept⟩ := book_kept data targets before first charUid questId state found
  obtain ⟨start, rest, split, enough⟩ := (book_earned data before first charUid questId).steps state found
  refine ⟨quest, known, start, rest, split, ?_⟩
  rwa [kept.reached (.inl completable)] at enough

end Histories

end MmorpgSimulator
