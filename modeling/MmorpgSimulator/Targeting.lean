import MmorpgSimulator.NpcMirrors
import MmorpgSimulator.Progression
import MmorpgSimulator.Library.Ascending

set_option autoImplicit false

namespace MmorpgSimulator

-- How far apart two cells are on either axis, the differences taken in int.
def offset (here there : Int16 × Int16) : Nat × Nat :=
  ((there.1.toInt - here.1.toInt).natAbs, (there.2.toInt - here.2.toInt).natAbs)

theorem offset_bound (here there : Int16 × Int16) : (offset here there).1 + (offset here there).2 < 2 ^ 31 - 1 := by
  have lowest (coordinate : Int16) := coordinate.le_toInt
  have highest (coordinate : Int16) := coordinate.toInt_lt
  have bounds := And.intro (And.intro (lowest here.1) (highest here.1)) (And.intro (lowest here.2) (highest here.2))
  have others := And.intro (And.intro (lowest there.1) (highest there.1)) (And.intro (lowest there.2) (highest there.2))
  simp only [offset]
  omega

def MyPlayer.place (player : MyPlayer) : Int16 × Int16 := (player.posX, player.posY)

def ShownNpc.place (npc : ShownNpc) : Int16 × Int16 := (npc.posX, npc.posY)

namespace Client

variable (client : Client)

def distanceTo (npc : ShownNpc) : Nat :=
  (offset client.myPlayer.place npc.place).1 + (offset client.myPlayer.place npc.place).2

-- One turn of FindNearestNpc's loop on (nearest, minDist).
def nearer (best : NpcUid × Nat) (entry : NpcUid × ShownNpc) : NpcUid × Nat :=
  if client.distanceTo entry.2 < best.2 then (entry.1, client.distanceTo entry.2) else best

-- The map is walked in the order of the uids, from INT_MAX down.
def findNearestNpc : NpcUid := (client.npcs.toList.foldl client.nearer (0, 2 ^ 31 - 1)).1

def best : Option (NpcUid × ShownNpc) → NpcUid × Nat
  | none => (0, 2 ^ 31 - 1)
  | some entry => (entry.1, client.distanceTo entry.2)

theorem nearer_argmin (entries : List (NpcUid × ShownNpc)) (found : Option (NpcUid × ShownNpc)) :
    entries.foldl client.nearer (client.best found) =
      client.best (entries.foldl (List.argAux (fun one other => client.distanceTo one.2 < client.distanceTo other.2)) found) := by
  induction entries generalizing found with
  | nil => rfl
  | cons entry rest ih =>
      have turn : client.nearer (client.best found) entry =
          client.best (List.argAux (fun one other => client.distanceTo one.2 < client.distanceTo other.2) found entry) := by
        cases found with
        | none => exact if_pos (offset_bound _ _)
        | some held =>
            by_cases closer : client.distanceTo entry.2 < client.distanceTo held.2
            · simp [nearer, best, List.argAux, closer]
            · simp [nearer, best, List.argAux, closer]
      rw [List.foldl_cons, turn, ih, List.foldl_cons]

theorem nearest_argmin :
    client.findNearestNpc = (client.best (client.npcs.toList.argmin (fun entry => client.distanceTo entry.2))).1 :=
  congrArg Prod.fst (client.nearer_argmin client.npcs.toList none)

-- What FindNearestNpc returns: no NPC is nearer, and of those as near none has a smaller uid.
theorem nearest_spec (uid : NpcUid) (npc : ShownNpc) (shown : client.npcs[uid]? = some npc) :
    ∃ chosen, client.npcs[client.findNearestNpc]? = some chosen ∧ ∀ other rest, client.npcs[other]? = some rest →
      client.distanceTo chosen ≤ client.distanceTo rest ∧
        (client.distanceTo rest = client.distanceTo chosen → client.findNearestNpc ≤ other) := by
  have listed (uid : NpcUid) (npc : ShownNpc) : (uid, npc) ∈ client.npcs.toList ↔ client.npcs[uid]? = some npc :=
    Std.ExtTreeMap.mem_toList_iff_getElem?_eq_some
  cases found : client.npcs.toList.argmin (fun entry => client.distanceTo entry.2) with
  | none =>
      have nobody := List.argmin_eq_none.mp found
      have member := (listed uid npc).mpr shown
      rw [nobody] at member
      exact absurd member List.not_mem_nil
  | some chosen =>
      have member := List.argmin_mem found
      have least (entry : NpcUid × ShownNpc) (also : entry ∈ client.npcs.toList) := List.le_of_mem_argmin also found
      have nearest : client.findNearestNpc = chosen.1 := by rw [nearest_argmin, found]; rfl
      refine ⟨chosen.2, nearest ▸ (listed chosen.1 chosen.2).mp member, fun other rest held => ?_⟩
      have also := (listed other rest).mpr held
      refine ⟨least (other, rest) also, fun tie => ?_⟩
      rw [nearest]
      rcases Ascending.earlier Std.ExtTreeMap.ordered_keys_toList member also (List.index_of_argmin found also tie.le) with same | rises
      · exact UInt64.le_of_eq (congrArg Prod.fst same)
      · exact UInt64.le_of_lt (Std.compare_eq_lt.mp rises)

end Client

section Reach

variable (s : ServerState)

theorem find_target_standing (player : PlayerData) (uid : NpcUid) : (findTarget s player uid).isSome ↔
    ∃ place, standing s uid = some place ∧ (offset (player.posX, player.posY) place).1 ≤ 1 ∧
      (offset (player.posX, player.posY) place).2 ≤ 1 := by
  have entries : s.npcs.toList = (List.finRange maxNpc).map (fun index => s.npcs[index]) := by
    refine List.ext_getElem (by simp) (fun index _ _ => ?_)
    simp
  have found : standing s uid = (((List.finRange maxNpc).find? (fun index => s.npcs[index].alive ∧ s.npcs[index].uid = uid)).map
      (fun index => placeOf s.npcs[index])) := by
    rw [standing, entries, List.find?_filter, List.find?_map, Option.map_map]
    simp only [Function.comp_def, Bool.decide_and, Bool.decide_eq_true]
  rw [found, findTarget]
  cases (List.finRange maxNpc).find? (fun index => s.npcs[index].alive ∧ s.npcs[index].uid = uid) with
  | none => simp
  | some index =>
      simp only [Option.map_some, Option.some.injEq, exists_eq_left', Option.isSome_filter, Option.any_some, decide_eq_true_eq]
      exact Iff.rfl

variable (client : Client) (sid : SessionId)

def offsetOf (uid : NpcUid) : Option (Nat × Nat) :=
  (standing s uid).map (offset ((s.player sid).posX, (s.player sid).posY))

-- Two cells away along one axis: as near as a diagonal neighbour, and out of reach.
def Straight (away : Nat × Nat) : Prop := away = (2, 0) ∨ away = (0, 2)

structure Sees : Prop where
  npcs : shownHerd client = standing s
  place : client.myPlayer.place = ((s.player sid).posX, (s.player sid).posY)

variable {s client sid}

theorem Sees.offset_shown (sees : Sees s client sid) (uid : NpcUid) :
    offsetOf s sid uid = (client.npcs[uid]?).map (fun npc => offset client.myPlayer.place npc.place) := by
  rw [offsetOf, ← sees.npcs, shownHerd, Option.map_map, sees.place]
  rfl

theorem target_iff (uid : NpcUid) :
    (findTarget s (s.player sid) uid).isSome ↔ ∃ away, offsetOf s sid uid = some away ∧ away.1 ≤ 1 ∧ away.2 ≤ 1 := by
  rw [find_target_standing]
  constructor
  · rintro ⟨place, stands, near⟩
    exact ⟨_, congrArg (Option.map _) stands, near⟩
  · rintro ⟨away, seen, near⟩
    obtain ⟨place, stands, rfl⟩ := Option.map_eq_some_iff.mp seen
    exact ⟨place, stands, near⟩

theorem Sees.nearest (sees : Sees s client sid) (uid : NpcUid) (seen : (offsetOf s sid uid).isSome) :
    ∃ chosen, offsetOf s sid client.findNearestNpc = some chosen ∧ ∀ other away, offsetOf s sid other = some away →
      chosen.1 + chosen.2 ≤ away.1 + away.2 ∧ (away.1 + away.2 = chosen.1 + chosen.2 → client.findNearestNpc ≤ other) := by
  rw [sees.offset_shown, Option.isSome_map] at seen
  obtain ⟨npc, shown⟩ := Option.isSome_iff_exists.mp seen
  obtain ⟨chosen, held, least⟩ := client.nearest_spec uid npc shown
  refine ⟨offset client.myPlayer.place chosen.place, by rw [sees.offset_shown, held]; rfl, fun other away apart => ?_⟩
  rw [sees.offset_shown] at apart
  obtain ⟨rest, found, rfl⟩ := Option.map_eq_some_iff.mp apart
  exact least other rest found

-- The attack key asks for an NPC in reach exactly where one shares the player's cell
-- or a side with it, or a diagonal neighbour has a smaller uid than each NPC two
-- cells away in a straight line.
theorem attack_key_reaches_iff (sees : Sees s client sid) (reachable : ∃ uid, (findTarget s (s.player sid) uid).isSome) :
    (findTarget s (s.player sid) client.findNearestNpc).isSome ↔
      (∃ uid away, offsetOf s sid uid = some away ∧ away.1 + away.2 ≤ 1) ∨
        ∃ uid, offsetOf s sid uid = some (1, 1) ∧ ∀ other away, offsetOf s sid other = some away → Straight away → uid < other := by
  obtain ⟨someone, near⟩ := reachable
  obtain ⟨away, seen, _⟩ := (target_iff someone).mp near
  obtain ⟨chosen, stands, least⟩ := sees.nearest someone (by rw [seen]; rfl)
  have accepted : (findTarget s (s.player sid) client.findNearestNpc).isSome ↔ chosen.1 ≤ 1 ∧ chosen.2 ≤ 1 := by
    rw [target_iff, stands]
    simp
  rw [accepted]
  constructor
  · intro within
    by_cases close : chosen.1 + chosen.2 ≤ 1
    · exact .inl ⟨_, chosen, stands, close⟩
    · have diagonal : chosen = (1, 1) := Prod.ext (by simp only; omega) (by simp only; omega)
      refine .inr ⟨client.findNearestNpc, diagonal ▸ stands, fun other away apart straight => ?_⟩
      have tie : away.1 + away.2 = chosen.1 + chosen.2 := by
        rw [diagonal]
        rcases straight with rfl | rfl <;> rfl
      refine UInt64.lt_of_le_of_ne ((least other away apart).2 tie) ?_
      rintro rfl
      rw [stands, diagonal] at apart
      rcases straight with rfl | rfl <;> simp at apart
  · rintro (⟨uid, away, apart, close⟩ | ⟨uid, apart, first⟩)
    · have bound := (least uid away apart).1
      omega
    · have bound := (least uid (1, 1) apart).1
      by_contra far
      have straight : Straight chosen := by
        rcases Nat.lt_or_ge chosen.1 2 with small | large
        · exact .inr (Prod.ext (by simp only; omega) (by simp only; omega))
        · exact .inl (Prod.ext (by simp only; omega) (by simp only; omega))
      have tie : 1 + 1 = chosen.1 + chosen.2 := by rcases straight with rfl | rfl <;> rfl
      exact absurd ((least uid (1, 1) apart).2 tie) (UInt64.not_le.mpr (first _ chosen stands straight))

def arrived (draw : Nat → Nat) : Scene := Machine.run (stageStep emptyData) (Scene.boot twoCharacters draw) returning

theorem arrived_sees (draw : Nat → Nat) (open_ : (arrived draw).server.line 1 = some true)
    (inGame : ((arrived draw).server.player 1).loggedIn = true)
    (place : ((arrived draw).clients 1).myPlayer.place = (((arrived draw).server.player 1).posX, ((arrived draw).server.player 1).posY)) :
    Sees (arrived draw).server ((arrived draw).clients 1) 1 := by
  have few : sceneKills emptyData (Scene.boot twoCharacters draw) returning ≤ returning.length := Machine.count_le_length _ _ _ _
  have unspent : maxNpc + 1 + sceneKills emptyData (Scene.boot twoCharacters draw) returning < 2 ^ 64 :=
    Nat.lt_of_le_of_lt (Nat.add_le_add_left few _) (by decide)
  have watching : Watching (arrived draw) :=
    (stage_run_onward emptyData (Scene.boot twoCharacters draw) returning (boot_watching twoCharacters draw) unspent).watching
  have shows := watching.watching 1 open_
  rw [if_pos inGame] at shows
  exact ⟨shows, place⟩

-- The player enters at (5, 5); NPC 2 stands on (6, 6), NPC 1 beyond it or at the player's side.
def diagonalDraw (first : Nat) : Nat → Nat
  | 0 => first
  | 1 => 5
  | 2 => 6
  | 3 => 6
  | _ => 15

theorem side_by_side_reached :
    (findTarget (arrived (diagonalDraw 6)).server ((arrived (diagonalDraw 6)).server.player 1)
      ((arrived (diagonalDraw 6)).clients 1).findNearestNpc).isSome := by
  have sees := arrived_sees (diagonalDraw 6) (by decide +kernel) (by decide +kernel) (by decide +kernel)
  have reachable : (findTarget (arrived (diagonalDraw 6)).server ((arrived (diagonalDraw 6)).server.player 1) 2).isSome := by
    decide +kernel
  exact (attack_key_reaches_iff sees ⟨2, reachable⟩).mpr (.inl ⟨1, (1, 0), by decide +kernel, by decide⟩)

theorem straight_neighbour_chosen :
    Sees (arrived (diagonalDraw 7)).server ((arrived (diagonalDraw 7)).clients 1) 1 ∧
      (findTarget (arrived (diagonalDraw 7)).server ((arrived (diagonalDraw 7)).server.player 1) 2).isSome ∧
        ((arrived (diagonalDraw 7)).clients 1).findNearestNpc = 1 ∧
          ¬ (findTarget (arrived (diagonalDraw 7)).server ((arrived (diagonalDraw 7)).server.player 1)
            ((arrived (diagonalDraw 7)).clients 1).findNearestNpc).isSome :=
  ⟨arrived_sees (diagonalDraw 7) (by decide +kernel) (by decide +kernel) (by decide +kernel), by decide +kernel, by decide +kernel,
    by decide +kernel⟩

end Reach

end MmorpgSimulator
