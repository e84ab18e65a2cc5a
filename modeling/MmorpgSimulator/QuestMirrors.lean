import MmorpgSimulator.QuestFrame

set_option autoImplicit false

namespace MmorpgSimulator

section Events

variable (data : GameData) (s : ServerState) (sid : SessionId)

-- The conditions under which OnQuestAccept takes its accepting branch.
def accepts (questId : UInt16) : Bool :=
  isNearQuestNpc (s.player sid) && (data.findQuest questId).isSome &&
    !decide (statusOf (s.questLog sid)[questId]? = 1 ∨ statusOf (s.questLog sid)[questId]? = 2 ∨ statusOf (s.questLog sid)[questId]? = 3)

-- The conditions under which OnQuestComplete pays.
def completes (questId : UInt16) : Bool :=
  isNearQuestNpc (s.player sid) && (data.findQuest questId).isSome && decide (statusOf (s.questLog sid)[questId]? = 2)

theorem on_quest_complete_unpaid (req : CsQuestComplete) (unpaid : completes data s sid req.questId = false) :
    (onQuestComplete data s sid req).sessions = s.sessions ∧ (onQuestComplete data s sid req).inventories = s.inventories := by
  rw [onQuestComplete]
  cases near : isNearQuestNpc (s.player sid) with
  | false => exact ⟨rfl, rfl⟩
  | true =>
      cases known : data.findQuest req.questId with
      | none => exact ⟨rfl, rfl⟩
      | some quest =>
          have same := quest_log_touch s sid sid
          rw [completes, near, known] at unpaid
          cases entry : (s.questLog sid)[req.questId]? with
          | none =>
              simp only [Bool.not_true, Bool.false_eq_true, if_false, same, entry]
              exact ⟨rfl, rfl⟩
          | some state =>
              rw [entry] at unpaid
              have unready : state.status ≠ 2 := of_decide_eq_false unpaid
              simp only [Bool.not_true, Bool.false_eq_true, if_false, same, entry]
              rw [if_pos unready]
              exact ⟨rfl, rfl⟩

-- The other members that the loop in OnAttack credits, one for each entry of the list.
def creditedOthers : List SessionId :=
  match s.party.playerParty[sid]? with
  | some partyId => (s.party.membersOf partyId).filter (fun mid => mid ∈ s.sessions ∧ mid ≠ sid)
  | none => []

-- The sessions UpdateQuestProgress is called for in a CS_ATTACK, call by call.
def questCalls (atk : CsAttack) : List SessionId :=
  match findTarget s (s.player sid) atk.targetUid with
  | none => []
  | some index => if (struck (s.player sid) (getElem s.npcs index index.isLt)).hp = 0 then creditedOthers s sid ++ [sid] else []

def steppedBy (calls : List SessionId) : List CharUid :=
  (calls.filter (fun mid => (s.player mid).loggedIn)).map (fun mid => (s.player mid).charUid)

def requestEvents : Request → List QuestEvent
  | .questAccept req => if accepts data s sid req.questId then [.accepted (s.player sid).charUid req.questId] else []
  | .questComplete req => if completes data s sid req.questId then [.paid (s.player sid).charUid req.questId] else []
  | .attack atk => (steppedBy s (questCalls s sid atk)).map QuestEvent.stepped
  | _ => []

def questEvents (input : Input) : List QuestEvent :=
  match s.fault, input.event with
  | none, .packet sid request => if sid ∈ s.sessions then requestEvents data s sid request else []
  | _, _ => []

def eventsOf (data : GameData) : ServerState → List Input → List QuestEvent
  | _, [] => []
  | s, input :: rest => questEvents data s input ++ eventsOf data (step data s input) rest

-- Quests are accepted in the game, and nobody selects a character that another session plays.
def playsAlone (s : ServerState) : Event → Bool
  | .packet sid (.questAccept _) => (s.player sid).loggedIn
  | .packet sid (.charSelect req) => s.inGame.all (fun other => other = sid ∨ (s.player other).charUid ≠ req.charUid)
  | _ => true

def playsQuests (s : ServerState) (input : Input) : Prop := input.dbPlan = [] ∧ playsAlone s input.event = true

instance (s : ServerState) (input : Input) : Decidable (playsQuests s input) := inferInstanceAs (Decidable (_ ∧ _))

theorem selects_free (other : SessionId) (req : CsCharSelect) (alone : playsAlone s (.packet sid (.charSelect req)) = true)
    (playing : other ∈ s.inGame) (apart : other ≠ sid) : (s.player other).charUid ≠ req.charUid := by
  have free := List.all_eq_true.mp alone other playing
  simpa [apart] using free

end Events

structure Mirrored (s : ServerState) : Prop where
  loaded : ∀ sid, (s.player sid).loggedIn = true → s.questLog sid = s.db.questProgress (s.player sid).charUid
  blank : ∀ sid, (s.player sid).loggedIn = false → s.questLog sid = ∅
  apart : ∀ sid other, sid ≠ other → (s.player sid).loggedIn = true → (s.player other).loggedIn = true →
    (s.player sid).charUid ≠ (s.player other).charUid

-- A transition during which these events happen and everybody goes on playing whom they played.
structure Follows (data : GameData) (events : List QuestEvent) (s s' : ServerState) : Prop where
  journal : s'.db.questProgress = Machine.run (record data) s.db.questProgress events
  mirrored : Mirrored s'
  playing : ∀ sid, (s'.player sid).loggedIn = (s.player sid).loggedIn ∧ (s'.player sid).charUid = (s.player sid).charUid
  plan : s'.dbPlan = []

section Mirrors

variable {s s' : ServerState} (data : GameData)

theorem SameQuests.mirrored (same : SameQuests s s') (mirrored : Mirrored s) : Mirrored s' where
  loaded := by
    intro sid inGame
    rw [(same.playing sid).1] at inGame
    rw [same.logs, same.journal, (same.playing sid).2]
    exact mirrored.loaded sid inGame
  blank := by
    intro sid outside
    rw [(same.playing sid).1] at outside
    rw [same.logs]
    exact mirrored.blank sid outside
  apart := by
    intro sid other different inGame inGame'
    rw [(same.playing sid).1] at inGame
    rw [(same.playing other).1] at inGame'
    rw [(same.playing sid).2, (same.playing other).2]
    exact mirrored.apart sid other different inGame inGame'

theorem SameQuests.follows (same : SameQuests s s') (mirrored : Mirrored s) (plan : s.dbPlan = []) : Follows data [] s s' :=
  ⟨same.journal, same.mirrored mirrored, same.playing, same.plan plan⟩

theorem Follows.trans {t : ServerState} (events later : List QuestEvent) (first : Follows data events s s')
    (second : Follows data later s' t) : Follows data (events ++ later) s t where
  journal := by rw [second.journal, first.journal, Machine.run_append]
  mirrored := second.mirrored
  playing := fun sid => ⟨(second.playing sid).1.trans (first.playing sid).1, (second.playing sid).2.trans (first.playing sid).2⟩
  plan := second.plan

theorem Follows.same {t : ServerState} (events : List QuestEvent) (first : Follows data events s s') (second : SameQuests s' t) :
    Follows data events s t := by
  have both := first.trans data events [] (second.follows data first.mirrored first.plan)
  rwa [List.append_nil] at both

theorem save_quest_progress_db (s : ServerState) (plan : s.dbPlan = []) (charUid : CharUid) (questId : UInt16) (state : QuestProgress) :
    (saveQuestProgress s charUid questId state).db.questProgress =
      Function.update s.db.questProgress charUid ((s.db.questProgress charUid).insert questId state) := by
  simp [saveQuestProgress, ServerState.executeProc, ServerState.procDb, ServerState.outcome, plan, Database.spQuestSave]

theorem written_mirrored (mirrored : Mirrored s) (sid : SessionId) (inGame : (s.player sid).loggedIn = true) (qp : QuestLog)
    (journal : s'.db.questProgress = Function.update s.db.questProgress (s.player sid).charUid qp)
    (log : s'.questLog sid = qp) (others : ∀ other, other ≠ sid → s'.questLog other = s.questLog other)
    (playing : ∀ sid, (s'.player sid).loggedIn = (s.player sid).loggedIn ∧ (s'.player sid).charUid = (s.player sid).charUid) :
    Mirrored s' where
  loaded := by
    intro other inGame'
    rw [(playing other).1] at inGame'
    rw [journal, (playing other).2]
    by_cases same : other = sid
    · rw [same, log, Function.update_self]
    · rw [others other same, Function.update_of_ne (mirrored.apart other sid same inGame' inGame)]
      exact mirrored.loaded other inGame'
  blank := by
    intro other outside
    rw [(playing other).1] at outside
    have same : other ≠ sid := by
      rintro rfl
      rw [inGame] at outside
      exact absurd outside (by decide)
    rw [others other same]
    exact mirrored.blank other outside
  apart := by
    intro other third different inGame' inGame''
    rw [(playing other).1] at inGame'
    rw [(playing third).1] at inGame''
    rw [(playing other).2, (playing third).2]
    exact mirrored.apart other third different inGame' inGame''

end Mirrors

section Progress

variable (data : GameData) (sid : SessionId)

theorem update_quest_player (s : ServerState) (entry : UInt16 × QuestProgress) (other : SessionId) :
    (updateQuest data sid s entry).player other = s.player other :=
  player_same s _ (update_quest_sessions data sid s entry) other

structure Turned (charUid : CharUid) (s s' : ServerState) : Prop where
  here : s'.db.questProgress charUid = s'.questLog sid
  elsewhere : ∀ other, other ≠ charUid → s'.db.questProgress other = s.db.questProgress other
  plan : s'.dbPlan = []
  player : ∀ other, s'.player other = s.player other

theorem update_quest_turned (s : ServerState) (entry : UInt16 × QuestProgress) (plan : s.dbPlan = [])
    (same : s.db.questProgress (s.player sid).charUid = s.questLog sid) :
    Turned sid (s.player sid).charUid s (updateQuest data sid s entry) := by
  have player := update_quest_player data sid s entry
  rw [updateQuest] at player ⊢
  by_cases moves : advances data entry
  · rw [if_pos moves] at player ⊢
    have saved := save_quest_progress_db (s.setQuestLog sid ((s.questLog sid).insert entry.1 (progressed data entry.1 entry.2))) plan
      (s.player sid).charUid entry.1 (progressed data entry.1 entry.2)
    have log := quest_log_set_self s sid ((s.questLog sid).insert entry.1 (progressed data entry.1 entry.2))
    refine ⟨?_, ?_, ?_, player⟩
    · refine (congrFun saved _).trans ?_
      rw [Function.update_self]
      exact (congrArg (fun qp : QuestLog => qp.insert entry.1 (progressed data entry.1 entry.2)) same).trans log.symm
    · intro other apart
      exact (congrFun saved other).trans (Function.update_of_ne apart _ _)
    · exact congrArg List.tail plan
  · rw [if_neg moves] at player ⊢
    exact ⟨same, fun _ _ => rfl, plan, player⟩

theorem update_quests_turned (entries : List (UInt16 × QuestProgress)) (s : ServerState) (plan : s.dbPlan = [])
    (same : s.db.questProgress (s.player sid).charUid = s.questLog sid) :
    Turned sid (s.player sid).charUid s (entries.foldl (updateQuest data sid) s) := by
  induction entries generalizing s with
  | nil => exact ⟨same, fun _ _ => rfl, plan, fun _ => rfl⟩
  | cons entry rest ih =>
      have turn := update_quest_turned data sid s entry plan same
      have player := turn.player sid
      have later := ih (updateQuest data sid s entry) turn.plan (by rw [player]; exact turn.here)
      rw [player] at later
      refine ⟨later.here, fun other apart => (later.elsewhere other apart).trans (turn.elsewhere other apart), later.plan,
        fun other => (later.player other).trans (turn.player other)⟩

theorem update_quest_progress_follows (s : ServerState) (mirrored : Mirrored s) (plan : s.dbPlan = []) :
    Follows data ((steppedBy s [sid]).map QuestEvent.stepped) s (updateQuestProgress data s sid) := by
  have touched : SameQuests s (s.touchQuestLog sid) := (SameQuests.refl s).touchQuestLog sid
  cases inGame : (s.player sid).loggedIn with
  | false =>
      have nobody : steppedBy s [sid] = [] := by simp [steppedBy, inGame]
      have nothing : ((s.touchQuestLog sid).questLog sid).toList = [] := by
        rw [touched.logs, mirrored.blank sid inGame]
        rfl
      have same : updateQuestProgress data s sid = s.touchQuestLog sid := by
        simp only [updateQuestProgress, nothing, List.foldl_nil]
      rw [nobody, same]
      exact touched.follows data mirrored plan
  | true =>
      have somebody : steppedBy s [sid] = [(s.player sid).charUid] := by simp [steppedBy, inGame]
      have before : (s.touchQuestLog sid).db.questProgress ((s.touchQuestLog sid).player sid).charUid = (s.touchQuestLog sid).questLog sid := by
        rw [touched.logs]
        exact (mirrored.loaded sid inGame).symm
      have turned := update_quests_turned data sid ((s.touchQuestLog sid).questLog sid).toList (s.touchQuestLog sid) plan before
      have log := update_quest_progress_self data sid s
      have playing (other : SessionId) : (updateQuestProgress data s sid).player other = s.player other := turned.player other
      have journal : (updateQuestProgress data s sid).db.questProgress =
          Function.update s.db.questProgress (s.player sid).charUid (progressedLog data (s.questLog sid)) := by
        funext other
        by_cases same : other = (s.player sid).charUid
        · rw [same, Function.update_self, ← log]
          exact turned.here
        · rw [Function.update_of_ne same]
          exact turned.elsewhere other same
      refine ⟨?_, ?_, ?_, turned.plan⟩
      · rw [somebody, journal, mirrored.loaded sid inGame]
        rfl
      · exact written_mirrored mirrored sid inGame _ journal log
          (fun other apart => update_quest_progress_other data sid s other apart) (fun other => by rw [playing]; exact ⟨rfl, rfl⟩)
      · intro other
        rw [playing]
        exact ⟨rfl, rfl⟩

end Progress

section Kills

variable (data : GameData)

theorem stepped_by_same (s s' : ServerState) (calls : List SessionId)
    (playing : ∀ sid, (s'.player sid).loggedIn = (s.player sid).loggedIn ∧ (s'.player sid).charUid = (s.player sid).charUid) :
    steppedBy s' calls = steppedBy s calls := by
  have inGame : (fun mid => (s'.player mid).loggedIn) = (fun mid => (s.player mid).loggedIn) := funext fun mid => (playing mid).1
  have charUid : (fun mid => (s'.player mid).charUid) = (fun mid => (s.player mid).charUid) := funext fun mid => (playing mid).2
  rw [steppedBy, steppedBy, inGame, charUid]

theorem stepped_by_append (s : ServerState) (first second : List SessionId) :
    (steppedBy s (first ++ second)).map QuestEvent.stepped =
      (steppedBy s first).map QuestEvent.stepped ++ (steppedBy s second).map QuestEvent.stepped := by
  rw [steppedBy, List.filter_append, List.map_append, List.map_append]
  rfl

theorem Follows.step {s s' : ServerState} (calls : List SessionId) (before : Follows data ((steppedBy s calls).map QuestEvent.stepped) s s')
    (sid : SessionId) : Follows data ((steppedBy s (calls ++ [sid])).map QuestEvent.stepped) s (updateQuestProgress data s' sid) := by
  have next := update_quest_progress_follows data sid s' before.mirrored before.plan
  rw [stepped_by_same s s' [sid] before.playing] at next
  rw [stepped_by_append]
  exact before.trans data _ _ next

theorem credit_member_follows (s s' : ServerState) (calls : List SessionId) (sid mid : SessionId) (exp gold : UInt32)
    (sessions : ∀ other, other ∈ s'.sessions ↔ other ∈ s.sessions)
    (before : Follows data ((steppedBy s calls).map QuestEvent.stepped) s s') :
    Follows data ((steppedBy s (calls ++ [mid].filter (fun mid => mid ∈ s.sessions ∧ mid ≠ sid))).map QuestEvent.stepped) s
      (creditMember data sid exp gold s' mid) := by
  rw [creditMember]
  by_cases here : mid ∈ s.sessions
  · rw [if_neg (not_not.mpr ((sessions mid).mpr here))]
    have credited := before.same data _ (credit_kill_same (SameQuests.refl s') mid exp gold)
    by_cases attacker : mid = sid
    · simpa [attacker] using credited
    · simpa [attacker, here] using credited.step data calls mid
  · rw [if_pos (fun present => here ((sessions mid).mp present))]
    simpa [here] using before

theorem mem_credit_member (s : ServerState) (sid mid other : SessionId) (exp gold : UInt32) :
    other ∈ (creditMember data sid exp gold s mid).sessions ↔ other ∈ s.sessions := by
  by_cases here : mid ∈ s.sessions
  · exact (credit_member_credited data s sid mid exp gold here).online other
  · rw [creditMember, if_pos here]

theorem credit_members_follow (s s' : ServerState) (calls members : List SessionId) (sid : SessionId) (exp gold : UInt32)
    (sessions : ∀ other, other ∈ s'.sessions ↔ other ∈ s.sessions)
    (before : Follows data ((steppedBy s calls).map QuestEvent.stepped) s s') :
    Follows data ((steppedBy s (calls ++ members.filter (fun mid => mid ∈ s.sessions ∧ mid ≠ sid))).map QuestEvent.stepped) s
      (members.foldl (creditMember data sid exp gold) s') := by
  induction members generalizing s' calls with
  | nil => simpa using before
  | cons mid rest ih =>
      have turn := credit_member_follows data s s' calls sid mid exp gold sessions before
      have later := ih (creditMember data sid exp gold s' mid) _
        (fun other => (mem_credit_member data s' sid mid other exp gold).trans (sessions other)) turn
      rwa [List.append_assoc, ← List.filter_append] at later

theorem share_kill_follows (s : ServerState) (mirrored : Mirrored s) (plan : s.dbPlan = []) (sid : SessionId) (npc : Npc) :
    Follows data ((steppedBy s (creditedOthers s sid)).map QuestEvent.stepped) s (shareKill data s sid npc) := by
  rw [shareKill, creditedOthers]
  cases placed : s.party.playerParty[sid]? with
  | none => exact (credit_kill_same (SameQuests.refl s) sid _ _).follows data mirrored plan
  | some partyId =>
      have members : (s.touchParty partyId).party.membersOf partyId = s.party.membersOf partyId := by
        simp only [ServerState.touchParty, PartyState.membersOf, Std.ExtTreeMap.getElem?_insertIfNew]
        split
        · rename_i new
          rw [Std.ExtTreeMap.getElem?_eq_none new.2]
          rfl
        · rfl
      simp only [members]
      have started : SameQuests s ((s.touchParty partyId).fail (UInt32.ofNat (s.party.membersOf partyId).length = 0) .divideByZero) :=
        ((SameQuests.refl s).touchParty partyId).fail _ _
      exact credit_members_follow data s _ [] (s.party.membersOf partyId) sid _ _ (fun _ => Iff.rfl) (started.follows data mirrored plan)

theorem kill_npc_follows (s s' : ServerState) (mirrored : Mirrored s) (plan : s.dbPlan = []) (same : SameQuests s s')
    (party : s'.party = s.party) (sessions : s'.sessions = s.sessions) (sid : SessionId) (index : Fin maxNpc) :
    Follows data ((steppedBy s (creditedOthers s sid ++ [sid])).map QuestEvent.stepped) s (killNpc data s' sid index) := by
  have announced := announce_death_same same index
  have others : creditedOthers (announceDeath s' index) sid = creditedOthers s sid := by
    change creditedOthers s' sid = creditedOthers s sid
    rw [creditedOthers, creditedOthers, party, sessions]
  have shared := share_kill_follows data (announceDeath s' index) (announced.mirrored mirrored) (announced.plan plan) sid s'.npcs[index]
  rw [others, stepped_by_same s _ _ announced.playing] at shared
  have credited : Follows data ((steppedBy s (creditedOthers s sid)).map QuestEvent.stepped) s
      (shareKill data (announceDeath s' index) sid s'.npcs[index]) :=
    (announced.follows data mirrored plan).trans data [] _ shared
  have stepped := credited.step data (creditedOthers s sid) sid
  exact stepped.same data _ (respawn_same (drop_item_same data (SameQuests.refl _) sid))

theorem on_attack_follows (s : ServerState) (mirrored : Mirrored s) (plan : s.dbPlan = []) (sid : SessionId) (atk : CsAttack) :
    Follows data ((steppedBy s (questCalls s sid atk)).map QuestEvent.stepped) s (onAttack data s sid atk) := by
  rw [onAttack, questCalls]
  cases target : findTarget s (s.player sid) atk.targetUid with
  | none => exact ((SameQuests.refl s).send _ _).follows data mirrored plan
  | some index =>
      simp only
      have blow := strike_same (s := s) sid index
      by_cases dies : (struck (s.player sid) s.npcs[index]).hp = 0
      · rw [if_pos dies, if_pos dies]
        exact kill_npc_follows data s _ mirrored plan blow rfl rfl sid index
      · rw [if_neg dies, if_neg dies]
        exact blow.follows data mirrored plan

end Kills

section Requests

variable (data : GameData) (s : ServerState) (mirrored : Mirrored s) (plan : s.dbPlan = []) (sid : SessionId)

theorem status_known (kept : Journal.Kept data s.db.questProgress) (mirrored : Mirrored s) (questId : UInt16)
    (state : QuestProgress) (inGame : (s.player sid).loggedIn = true) (found : (s.questLog sid)[questId]? = some state) :
    state.status = 1 ∨ state.status = 2 ∨ state.status = 3 := by
  rw [mirrored.loaded sid inGame] at found
  obtain ⟨_, _, keeps⟩ := kept _ questId state found
  exact keeps.known

theorem quest_log_insert_known (s : ServerState) (sid : SessionId) (questId : UInt16) (state : QuestProgress)
    (found : (s.questLog sid)[questId]? = some state) :
    SameQuests s (s.setQuestLog sid ((s.questLog sid).insertIfNew questId {})) := by
  refine ⟨rfl, fun other => ?_, fun _ => ⟨rfl, rfl⟩, id⟩
  by_cases same : other = sid
  · rw [same, quest_log_set_self]
    apply Std.ExtTreeMap.ext_getElem?
    intro id
    rw [Std.ExtTreeMap.getElem?_insertIfNew]
    split
    · rename_i new
      have missing := Std.ExtTreeMap.getElem?_eq_none new.2
      rw [found] at missing
      exact absurd missing nofun
    · rfl
  · exact quest_log_set_other s sid other _ same

include mirrored plan in
theorem accepted_follows (questId : UInt16) (inGame : (s.player sid).loggedIn = true) :
    Follows data [.accepted (s.player sid).charUid questId] s
      (saveQuestProgress ((s.setQuestLog sid ((s.questLog sid).insertIfNew questId {})).setQuestLog sid
        (((s.setQuestLog sid ((s.questLog sid).insertIfNew questId {})).questLog sid).insert questId ⟨1, 0⟩))
        (s.player sid).charUid questId ⟨1, 0⟩) := by
  have log : ((s.setQuestLog sid ((s.questLog sid).insertIfNew questId {})).questLog sid).insert questId ⟨1, 0⟩ =
      (s.questLog sid).insert questId ⟨1, 0⟩ := by
    rw [quest_log_set_self]
    apply Std.ExtTreeMap.ext_getElem?
    intro id
    rw [Std.ExtTreeMap.getElem?_insert, Std.ExtTreeMap.getElem?_insert, Std.ExtTreeMap.getElem?_insertIfNew]
    split
    · rfl
    · rename_i other
      rw [if_neg (fun new => other new.1)]
  rw [log]
  have journal := save_quest_progress_db ((s.setQuestLog sid ((s.questLog sid).insertIfNew questId {})).setQuestLog sid
    ((s.questLog sid).insert questId ⟨1, 0⟩)) plan (s.player sid).charUid questId ⟨1, 0⟩
  refine ⟨journal, ?_, fun _ => ⟨rfl, rfl⟩, congrArg List.tail plan⟩
  have table : (s.db.questProgress (s.player sid).charUid).insert questId ⟨1, 0⟩ = (s.questLog sid).insert questId ⟨1, 0⟩ := by
    rw [mirrored.loaded sid inGame]
  refine written_mirrored mirrored sid inGame ((s.questLog sid).insert questId ⟨1, 0⟩) ?_ ?_ ?_ (fun _ => ⟨rfl, rfl⟩)
  · exact journal.trans (congrArg (Function.update s.db.questProgress (s.player sid).charUid) table)
  · exact quest_log_set_self _ sid _
  · intro other apart
    exact (quest_log_set_other _ sid other _ apart).trans (quest_log_set_other s sid other _ apart)

include mirrored plan in
theorem on_quest_accept_follows (kept : Journal.Kept data s.db.questProgress) (req : CsQuestAccept)
    (inGame : (s.player sid).loggedIn = true) :
    Follows data (requestEvents data s sid (.questAccept req)) s (onQuestAccept data s sid req) := by
  rw [requestEvents, onQuestAccept]
  cases near : isNearQuestNpc (s.player sid) with
  | false => simpa [accepts, near] using SameQuests.follows data ((SameQuests.refl s).send _ _) mirrored plan
  | true =>
      cases known : data.findQuest req.questId with
      | none => simpa [accepts, near, known] using SameQuests.follows data ((SameQuests.refl s).send _ _) mirrored plan
      | some quest =>
          cases entry : (s.questLog sid)[req.questId]? with
          | none =>
              have taken : accepts data s sid req.questId = true := by
                rw [accepts, near, known, entry]
                rfl
              rw [if_pos taken]
              exact (accepted_follows data s mirrored plan sid req.questId inGame).same data _ ((SameQuests.refl _).send _ _)
          | some state =>
              have status := status_known data s sid kept mirrored req.questId state inGame entry
              have untaken : accepts data s sid req.questId = false := by
                have settled : decide (statusOf (some state) = 1 ∨ statusOf (some state) = 2 ∨ statusOf (some state) = 3) = true :=
                  decide_eq_true status
                rw [accepts, near, known, entry, settled]
                rfl
              have same := (quest_log_insert_known s sid req.questId state entry)
              rw [untaken]
              simp only [Bool.not_true, Bool.false_eq_true, if_false, Option.getD_some]
              by_cases early : state.status = 1 ∨ state.status = 2
              · rw [if_pos early]
                exact (same.send _ _).follows data mirrored plan
              · have last : state.status = 3 := by
                  rcases status with one | two | three
                  · exact absurd (.inl one) early
                  · exact absurd (.inr two) early
                  · exact three
                rw [if_neg early, if_pos last]
                exact (same.send _ _).follows data mirrored plan

include mirrored plan in
theorem paid_follows (questId : UInt16) (state : QuestProgress) (inGame : (s.player sid).loggedIn = true)
    (found : (s.questLog sid)[questId]? = some state) :
    Follows data [.paid (s.player sid).charUid questId] s
      (saveQuestProgress ((s.touchQuestLog sid).setQuestLog sid ((s.questLog sid).insert questId { state with status := 3 }))
        (s.player sid).charUid questId { state with status := 3 }) := by
  have journal := save_quest_progress_db ((s.touchQuestLog sid).setQuestLog sid ((s.questLog sid).insert questId { state with status := 3 }))
    plan (s.player sid).charUid questId { state with status := 3 }
  have stored : (s.db.questProgress (s.player sid).charUid)[questId]? = some state := by
    rw [← mirrored.loaded sid inGame]
    exact found
  refine ⟨?_, ?_, fun _ => ⟨rfl, rfl⟩, congrArg List.tail plan⟩
  · rw [Machine.run_cons, Machine.run_nil, record, stored]
    exact journal
  · have table : (s.db.questProgress (s.player sid).charUid).insert questId { state with status := 3 } =
        (s.questLog sid).insert questId { state with status := 3 } := by rw [mirrored.loaded sid inGame]
    refine written_mirrored mirrored sid inGame ((s.questLog sid).insert questId { state with status := 3 }) ?_ ?_ ?_ (fun _ => ⟨rfl, rfl⟩)
    · exact journal.trans (congrArg (Function.update s.db.questProgress (s.player sid).charUid) table)
    · exact quest_log_set_self _ sid _
    · intro other apart
      exact (quest_log_set_other _ sid other _ apart).trans (quest_log_touch s sid other)

include mirrored plan in
theorem on_quest_complete_follows (req : CsQuestComplete) :
    Follows data (requestEvents data s sid (.questComplete req)) s (onQuestComplete data s sid req) := by
  rw [requestEvents, onQuestComplete]
  cases near : isNearQuestNpc (s.player sid) with
  | false => simpa [completes, near] using SameQuests.follows data ((SameQuests.refl s).send _ _) mirrored plan
  | true =>
      cases known : data.findQuest req.questId with
      | none => simpa [completes, near, known] using SameQuests.follows data ((SameQuests.refl s).send _ _) mirrored plan
      | some quest =>
          have touched := (SameQuests.refl s).touchQuestLog sid
          have same := touched.logs sid
          cases entry : (s.questLog sid)[req.questId]? with
          | none =>
              have unpaid : completes data s sid req.questId = false := by
                rw [completes, near, known, entry]
                rfl
              rw [unpaid]
              simp only [Bool.not_true, Bool.false_eq_true, if_false, same, entry]
              exact (touched.send _ _).follows data mirrored plan
          | some state =>
              simp only [Bool.not_true, Bool.false_eq_true, if_false, same, entry]
              by_cases ready : state.status = 2
              · have paid : completes data s sid req.questId = true := by
                  rw [completes, near, known, entry]
                  exact decide_eq_true ready
                have inGame : (s.player sid).loggedIn = true := by
                  by_contra outside
                  rw [mirrored.blank sid (Bool.eq_false_iff.mpr outside)] at entry
                  simp at entry
                rw [if_pos paid, if_neg (not_not.mpr ready)]
                refine (paid_follows data s mirrored plan sid req.questId state inGame entry).same data _ ?_
                refine SameQuests.send (send_char_info_same (check_level_up_same (SameQuests.send ?given _ _) _) _) _ _
                refine SameQuests.perhaps ?credited (give_item_same data (SameQuests.refl _) _ _)
                exact (SameQuests.refl _).setPlayer _ _ (by rfl) (by rfl)
              · have unpaid : completes data s sid req.questId = false := by
                  rw [completes, near, known, entry]
                  exact decide_eq_false ready
                rw [unpaid, if_pos ready]
                exact (touched.send _ _).follows data mirrored plan

end Requests

section Selections

variable (data : GameData) (s : ServerState)

theorem load_quest_progress_log (plan : s.dbPlan = []) (sid : SessionId) :
    (loadQuestProgress s sid).questLog sid = s.db.questProgress (s.player sid).charUid := by
  have reply : s.procReply (fun db => some (db, db.spQuestLoad (s.player sid).charUid)) =
      ⟨true, some (s.db.questProgress (s.player sid).charUid)⟩ := by
    simp [ServerState.procReply, ServerState.outcome, plan, Database.spQuestLoad]
  refine (quest_log_set_self _ sid _).trans ?_
  change ((s.procReply (fun db => some (db, db.spQuestLoad (s.player sid).charUid))).row.getD ∅) = _
  rw [reply]
  rfl

theorem load_quest_progress_other (sid other : SessionId) (apart : other ≠ sid) :
    (loadQuestProgress s sid).questLog other = s.questLog other :=
  quest_log_set_other _ sid other _ apart

theorem load_quest_progress_journal (sid : SessionId) : (loadQuestProgress s sid).db.questProgress = s.db.questProgress :=
  ((SameQuests.refl s).executeProc _ (reads_keep (fun db => db.spQuestLoad (s.player sid).charUid))).journal

theorem loaded_mirrored (mirrored : Mirrored s) (plan : s.dbPlan = []) (sid : SessionId) (here : sid ∈ s.sessions)
    (player : PlayerData) (inGame : player.loggedIn = true)
    (alone : ∀ other, other ≠ sid → (s.player other).loggedIn = true → (s.player other).charUid ≠ player.charUid)
    (t : ServerState) (entered : SameQuests (s.setPlayer sid player) t) : Mirrored (loadQuestProgress t sid) := by
  have self : (t.player sid).loggedIn = true ∧ (t.player sid).charUid = player.charUid := by
    have now := player_set_self s sid player here
    rw [(entered.playing sid).1, (entered.playing sid).2, now]
    exact ⟨inGame, rfl⟩
  have others (other : SessionId) (apart : other ≠ sid) :
      (t.player other).loggedIn = (s.player other).loggedIn ∧ (t.player other).charUid = (s.player other).charUid := by
    have now := player_set_other s sid other player apart
    rw [(entered.playing other).1, (entered.playing other).2, now]
    exact ⟨rfl, rfl⟩
  have logs (other : SessionId) (apart : other ≠ sid) : (loadQuestProgress t sid).questLog other = s.questLog other :=
    (load_quest_progress_other t sid other apart).trans (entered.logs other)
  refine ⟨?_, ?_, ?_⟩
  · intro other playing
    rw [load_quest_progress_journal]
    by_cases same : other = sid
    · rw [same]
      exact load_quest_progress_log t (entered.plan plan) sid
    · change (t.player other).loggedIn = true at playing
      change _ = t.db.questProgress (t.player other).charUid
      rw [(others other same).1] at playing
      rw [logs other same, (others other same).2, entered.journal]
      exact mirrored.loaded other playing
  · intro other outside
    change (t.player other).loggedIn = false at outside
    have apart : other ≠ sid := by
      rintro rfl
      rw [self.1] at outside
      exact absurd outside (by decide)
    rw [(others other apart).1] at outside
    rw [logs other apart]
    exact mirrored.blank other outside
  · intro first second different playing playing'
    change (t.player first).loggedIn = true at playing
    change (t.player second).loggedIn = true at playing'
    change (t.player first).charUid ≠ (t.player second).charUid
    by_cases one : first = sid
    · have two : second ≠ sid := fun same => different (one.trans same.symm)
      rw [(others second two).1] at playing'
      rw [one, self.2, (others second two).2]
      exact (alone second two playing').symm
    · rw [(others first one).1] at playing
      by_cases two : second = sid
      · rw [two, self.2, (others first one).2]
        exact alone first one playing
      · rw [(others second two).1] at playing'
        rw [(others first one).2, (others second two).2]
        exact mirrored.apart first second different playing playing'

theorem character_login_keeps (accountUid : AccountUid) (charUid : CharUid) :
    KeepsQuests (fun db => db.spCharacterLogin accountUid charUid) := by
  intro db result called
  simp only [Database.spCharacterLogin] at called
  split at called
  · split at called
    · obtain rfl := Option.some.inj called
      rfl
    · exact absurd called nofun
  · exact absurd called nofun

theorem on_char_select_mirrored (mirrored : Mirrored s) (plan : s.dbPlan = []) (sid : SessionId) (here : sid ∈ s.sessions)
    (req : CsCharSelect) (free : ∀ other ∈ s.inGame, other ≠ sid → (s.player other).charUid ≠ req.charUid) :
    Mirrored (onCharSelect data s sid req) ∧ (onCharSelect data s sid req).db.questProgress = s.db.questProgress := by
  have called := (SameQuests.refl s).executeProc _ (character_login_keeps (s.player sid).accountUid req.charUid)
  rw [onCharSelect]
  simp only
  split
  · have refused := called.send sid (.error { errorCode := 1, message := text "Character not found" })
    exact ⟨refused.mirrored mirrored, refused.journal⟩
  · rename_i row _
    have drawn := called.rolled.rolled
    have inGame : (selectedPlayer (s.player sid) req.charUid row s.rand s.rolled.rand).loggedIn = true := rfl
    have alone (other : SessionId) (apart : other ≠ sid) (playing : (s.player other).loggedIn = true) :
        (s.player other).charUid ≠ req.charUid := free other ((mem_in_game s other).mpr playing) apart
    have entered {u t : ServerState} (h : SameQuests u t) : SameQuests u
        (loadInventory data (sendAttendanceInfo (sendOtherPlayers (sendAllNpcs (sendCharInfo (fetchName t sid req.charUid) sid) sid) sid) sid) sid) :=
      load_inventory_same data (send_attendance_info_same
        (((send_char_info_same (fetch_name_same h sid req.charUid) sid).sendAll _ _).sendAll _ _ |>.broadcastExcept _ _) sid) sid
    constructor
    · exact loaded_mirrored _ (drawn.mirrored mirrored) (drawn.plan plan) sid here _ inGame alone _ (entered (SameQuests.refl _))
    · refine (load_quest_progress_journal _ sid).trans ((entered (SameQuests.refl _)).journal.trans ?_)
      exact drawn.journal

theorem on_disconnect_fields (sid : SessionId) :
    (onDisconnect s sid).sessions = (removeFromParty s sid).sessions.erase sid ∧
      (onDisconnect s sid).questProgress = (removeFromParty s sid).questProgress.erase sid ∧
        (onDisconnect s sid).db = (removeFromParty s sid).db := by
  rw [onDisconnect]
  simp only
  split
  · exact ⟨rfl, rfl, rfl⟩
  · split <;> exact ⟨rfl, rfl, rfl⟩

theorem on_disconnect_mirrored (mirrored : Mirrored s) (sid : SessionId) :
    Mirrored (onDisconnect s sid) ∧ (onDisconnect s sid).db.questProgress = s.db.questProgress := by
  have removed := remove_from_party_same (SameQuests.refl s) sid
  have before := removed.mirrored mirrored
  obtain ⟨sessions, logs, db⟩ := on_disconnect_fields s sid
  have gone : (onDisconnect s sid).player sid = {} ∧ (onDisconnect s sid).questLog sid = ∅ := by
    simp [ServerState.player, ServerState.questLog, sessions, logs]
  have others (other : SessionId) (apart : other ≠ sid) : (onDisconnect s sid).player other = (removeFromParty s sid).player other ∧
      (onDisconnect s sid).questLog other = (removeFromParty s sid).questLog other := by
    simp [ServerState.player, ServerState.questLog, sessions, logs, Std.ExtTreeMap.getElem?_erase, Ne.symm apart]
  have stays (other : SessionId) (playing : ((onDisconnect s sid).player other).loggedIn = true) : other ≠ sid := by
    rintro rfl
    rw [gone.1] at playing
    exact absurd playing (by decide)
  refine ⟨⟨?_, ?_, ?_⟩, (congrArg Database.questProgress db).trans removed.journal⟩
  · intro other playing
    have same := others other (stays other playing)
    rw [same.1] at playing ⊢
    rw [same.2, db]
    exact before.loaded other playing
  · intro other outside
    by_cases leaver : other = sid
    · rw [leaver]
      exact gone.2
    · have same := others other leaver
      rw [same.1] at outside
      rw [same.2]
      exact before.blank other outside
  · intro first second different playing playing'
    have one := (others first (stays first playing)).1
    have two := (others second (stays second playing')).1
    rw [one] at playing ⊢
    rw [two] at playing' ⊢
    exact before.apart first second different playing playing'

end Selections

end MmorpgSimulator
