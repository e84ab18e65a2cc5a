import MmorpgSimulator.Relay
import MmorpgSimulator.Entrance

set_option autoImplicit false

namespace MmorpgSimulator

abbrev Place := Int16 × Int16

-- gameState, the uid of myPlayer, and the places in otherPlayers.
structure OthersView where
  state : GameState
  self : AccountUid
  others : AccountUid → Option Place

def othersView (client : Client) : OthersView :=
  ⟨client.gameState, client.myPlayer.uid, fun uid => (client.otherPlayers[uid]?).map (fun other => (other.posX, other.posY))⟩

def OthersView.seeing (view : OthersView) (others : AccountUid → Option Place) : OthersView := ⟨view.state, view.self, others⟩

-- OnCharInfo: in the character menu whoever is announced is the player itself.
def OthersView.meet (view : OthersView) (uid : AccountUid) (place : Place) : OthersView :=
  if view.state = .charSelect then ⟨.inGame, uid, view.others⟩
  else if uid = view.self then view
  else view.seeing (Function.update view.others uid (some place))

section Messages

def SaysPresence : Message → Prop
  | .charInfo _ => True
  | .charList _ => True
  | .charLeave _ => True
  | _ => False

theorem hushed_presence (message : Message) (silent : ¬ SaysPresence message) : Hushed othersView message := by
  intro client
  cases message with
  | charInfo info => exact absurd trivial silent
  | charList list => exact absurd trivial silent
  | charLeave leave => exact absurd trivial silent
  | moveResult result =>
      rw [Client.receive, Client.onMoveResult]
      split <;> rfl
  | attackResult result =>
      rw [Client.receive, Client.onAttackResult]
      split <;> rfl
  | attendanceResult result =>
      rw [Client.receive, Client.onAttendanceResult]
      split <;> rfl
  | equipResult result =>
      rw [Client.receive, Client.onEquipResult]
      split <;> rfl
  | inventoryList list =>
      rw [Client.receive, Client.onInventoryList]
      exact Machine.foldl_frame Client.onInventoryUpdate othersView (fun _ _ => rfl) _ _
  | questAcceptResult result =>
      rw [Client.receive, Client.onQuestAcceptResult]
      split <;> rfl
  | questReward reward =>
      rw [Client.receive, Client.onQuestRewardResult]
      split <;> rfl
  | partyLeave leave =>
      rw [Client.receive, Client.onPartyLeaveRecv]
      split <;> rfl
  | _ => rfl

theorem char_info_meets (client : Client) (info : ScCharInfo) :
    othersView (client.receive (.charInfo info)) = (othersView client).meet info.charUid (info.posX, info.posY) := by
  rw [Client.receive, Client.onCharInfo, OthersView.meet]
  split
  · rename_i menu
    exact (if_pos menu).symm
  · rename_i playing
    rw [if_neg (show ¬ (othersView client).state = .charSelect from playing)]
    split
    · rename_i own
      exact (if_pos own).symm
    · rename_i foreign
      rw [if_neg (show ¬ info.charUid = (othersView client).self from foreign), othersView, othersView, OthersView.seeing]
      congr 1
      funext uid
      change ((client.otherPlayers.insert info.charUid _)[uid]?).map _ = _
      rw [Std.ExtTreeMap.getElem?_insert]
      by_cases same : uid = info.charUid
      · rw [same, Function.update_self, if_pos Std.ReflCmp.compare_self]
        rfl
      · rw [Function.update_of_ne same, if_neg (fun equal => same (Std.compare_eq_iff_eq.mp equal).symm)]

theorem char_leave_forgets (client : Client) (leave : ScCharLeave) : othersView (client.receive (.charLeave leave)) =
    (othersView client).seeing (Function.update (othersView client).others leave.charUid none) := by
  rw [othersView, othersView, OthersView.seeing]
  congr 1
  funext uid
  change ((client.otherPlayers.erase leave.charUid)[uid]?).map _ = _
  rw [Std.ExtTreeMap.getElem?_erase]
  by_cases same : uid = leave.charUid
  · rw [same, Function.update_self, if_pos Std.ReflCmp.compare_self]
    rfl
  · rw [Function.update_of_ne same, if_neg (fun equal => same (Std.compare_eq_iff_eq.mp equal).symm)]

theorem meets_all (infos : List ScCharInfo) (distinct : infos.Pairwise (fun one other => one.charUid ≠ other.charUid)) (client : Client)
    (playing : (othersView client).state ≠ .charSelect) (foreign : ∀ info ∈ infos, info.charUid ≠ (othersView client).self) :
    othersView ((infos.map Message.charInfo).foldl Client.receive client) = (othersView client).seeing (fun uid =>
      ((infos.find? (fun info => info.charUid = uid)).map (fun info => (info.posX, info.posY))).or ((othersView client).others uid)) := by
  induction infos generalizing client with
  | nil => rfl
  | cons info rest ih =>
      obtain ⟨apart, later⟩ := List.pairwise_cons.mp distinct
      have met : othersView (client.receive (.charInfo info)) =
          (othersView client).seeing (Function.update (othersView client).others info.charUid (some (info.posX, info.posY))) := by
        rw [char_info_meets, OthersView.meet, if_neg playing, if_neg (foreign info List.mem_cons_self)]
      rw [List.map_cons, List.foldl_cons, ih later _ (by rw [met]; exact playing)
        (fun other member => by rw [met]; exact foreign other (List.mem_cons_of_mem info member)), met]
      refine congrArg (OthersView.mk _ _) (funext (fun uid => ?_))
      simp only [OthersView.seeing]
      by_cases same : info.charUid = uid
      · have none : rest.find? (fun other => other.charUid = uid) = none :=
          List.find?_eq_none.mpr (fun other member => by simpa [same] using (apart other member).symm)
        rw [none, List.find?_cons_of_pos (by simpa using same), ← same, Function.update_self]
        rfl
      · rw [List.find?_cons_of_neg (by simpa using same), Function.update_of_ne (Ne.symm same)]

end Messages

def sightOf (player : PlayerData) : Option (AccountUid × Place) :=
  if player.loggedIn = true then some (player.accountUid, (player.posX, player.posY)) else none

def DistinctAccounts (s : ServerState) : Prop :=
  ∀ (one other : SessionId) (uid : AccountUid) (place place' : Place), sightOf (s.player one) = some (uid, place) →
    sightOf (s.player other) = some (uid, place') → one = other

def othersInGame (s : ServerState) (sid : SessionId) (uid : AccountUid) : Option Place :=
  ((neighbours s sid).find? (fun other => (s.player other).accountUid = uid)).map
    (fun other => ((s.player other).posX, (s.player other).posY))

section Others

variable {s t : ServerState} (sid : SessionId)

theorem sight_in_game (player : PlayerData) (playing : player.loggedIn = true) :
    sightOf player = some (player.accountUid, (player.posX, player.posY)) := if_pos playing

theorem mem_neighbours (other : SessionId) : other ∈ neighbours s sid ↔ (s.player other).loggedIn = true ∧ other ≠ sid := by
  rw [neighbours, List.mem_filter, mem_in_game, decide_eq_true_iff]

theorem others_in_game_iff (distinct : DistinctAccounts s) (uid : AccountUid) (place : Place) :
    othersInGame s sid uid = some place ↔ ∃ other, other ≠ sid ∧ sightOf (s.player other) = some (uid, place) := by
  rw [othersInGame, Option.map_eq_some_iff]
  constructor
  · rintro ⟨other, found, rfl⟩
    obtain ⟨playing, apart⟩ := (mem_neighbours sid other).mp (List.mem_of_find?_eq_some found)
    have own : (s.player other).accountUid = uid := by simpa using List.find?_some found
    exact ⟨other, apart, by rw [sight_in_game _ playing, own]⟩
  · rintro ⟨other, apart, seen⟩
    have playing : (s.player other).loggedIn = true := by
      by_contra outside
      rw [sightOf, if_neg outside] at seen
      exact absurd seen nofun
    rw [sight_in_game _ playing] at seen
    obtain ⟨rfl, rfl⟩ : (s.player other).accountUid = uid ∧ ((s.player other).posX, (s.player other).posY) = place := by
      simpa using seen
    have listed := (mem_neighbours sid other).mpr ⟨playing, apart⟩
    cases found : (neighbours s sid).find? (fun mid => (s.player mid).accountUid = (s.player other).accountUid) with
    | none => exact absurd (decide_eq_true rfl) (List.find?_eq_none.mp found other listed)
    | some mid =>
        obtain ⟨seenToo, _⟩ := (mem_neighbours sid mid).mp (List.mem_of_find?_eq_some found)
        have same : (s.player mid).accountUid = (s.player other).accountUid := by simpa using List.find?_some found
        have equal := distinct mid other (s.player other).accountUid _ _ (by rw [sight_in_game _ seenToo, same]) (sight_in_game _ playing)
        exact ⟨mid, rfl, by rw [equal]⟩

theorem others_in_game_same (distinct : DistinctAccounts s) (after : DistinctAccounts t)
    (still : ∀ other, other ≠ sid → sightOf (t.player other) = sightOf (s.player other)) : othersInGame t sid = othersInGame s sid := by
  funext uid
  refine Option.ext (fun place => ?_)
  rw [others_in_game_iff sid after, others_in_game_iff sid distinct]
  exact exists_congr (fun other => and_congr_right (fun apart => by rw [still other apart]))

theorem others_in_game_changed (distinct : DistinctAccounts s) (after : DistinctAccounts t) (mover : SessionId) (apart : mover ≠ sid)
    (still : ∀ other, other ≠ mover → sightOf (t.player other) = sightOf (s.player other)) (uid : AccountUid) (place : Option Place)
    (was : ∀ account old, sightOf (s.player mover) = some (account, old) → account = uid)
    (now : sightOf (t.player mover) = place.map (fun new => (uid, new))) (alone : ∀ other old, other ≠ mover → sightOf (s.player other) ≠ some (uid, old)) :
    othersInGame t sid = Function.update (othersInGame s sid) uid place := by
  funext account
  refine Option.ext (fun new => ?_)
  by_cases own : account = uid
  · rw [own, Function.update_self, others_in_game_iff sid after]
    constructor
    · rintro ⟨other, _, seen⟩
      by_cases same : other = mover
      · rw [same, now] at seen
        obtain ⟨found, present, equal⟩ := Option.map_eq_some_iff.mp seen
        rw [present, ← (Prod.mk.inj equal).2]
      · rw [still other same] at seen
        exact absurd seen (alone other new same)
    · intro present
      exact ⟨mover, apart, by rw [now, present]; rfl⟩
  · rw [Function.update_of_ne own, others_in_game_iff sid after, others_in_game_iff sid distinct]
    refine exists_congr (fun other => and_congr_right (fun _ => ?_))
    by_cases same : other = mover
    · rw [same, now]
      constructor
      · intro seen
        obtain ⟨_, _, equal⟩ := Option.map_eq_some_iff.mp seen
        exact absurd (Prod.mk.inj equal).1.symm own
      · intro seen
        exact absurd (was account new seen) own
    · rw [still other same]

end Others

end MmorpgSimulator
