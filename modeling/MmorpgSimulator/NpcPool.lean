import MmorpgSimulator.Herd

set_option autoImplicit false

namespace MmorpgSimulator

structure Npc.Fit (npc : Npc) : Prop where
  alive : npc.alive = true
  lives : 1 ≤ npc.hp
  whole : npc.hp ≤ npc.maxHp
  column : 0 ≤ npc.posX.toInt ∧ npc.posX.toInt < mapSize
  row : 0 ≤ npc.posY.toInt ∧ npc.posY.toInt < mapSize

def Fitted (s : ServerState) : Prop := ∀ index : Fin maxNpc, (getElem s.npcs index index.isLt).Fit

structure Stocked (s : ServerState) : Prop where
  fit : Fitted s
  issued : ∀ index : Fin maxNpc, (getElem s.npcs index index.isLt).uid < s.nextNpcUid
  distinct : ∀ index other : Fin maxNpc, (getElem s.npcs index index.isLt).uid = (getElem s.npcs other other.isLt).uid → index = other

-- A kill gives the entry the next uid; every other entry keeps its own.
def Reissues (s t : ServerState) : Option (Fin maxNpc) → Prop
  | none => t.nextNpcUid = s.nextNpcUid ∧
      ∀ index : Fin maxNpc, (getElem t.npcs index index.isLt).uid = (getElem s.npcs index index.isLt).uid
  | some killed => t.nextNpcUid = s.nextNpcUid + 1 ∧ (getElem t.npcs killed killed.isLt).uid = s.nextNpcUid ∧
      ∀ index : Fin maxNpc, index ≠ killed → (getElem t.npcs index index.isLt).uid = (getElem s.npcs index index.isLt).uid

-- An entry keeps its uid or has one that nobody bore before.
def Renews (s t : ServerState) : Prop :=
  s.nextNpcUid ≤ t.nextNpcUid ∧ ∀ index : Fin maxNpc,
    (getElem t.npcs index index.isLt).uid = (getElem s.npcs index index.isLt).uid ∨ s.nextNpcUid ≤ (getElem t.npcs index index.isLt).uid

def uidsOf (s : ServerState) : List NpcUid := s.npcs.toList.map Npc.uid

section Moves

variable {s t u : ServerState} {killed : Option (Fin maxNpc)}

theorem hatched_fit (uid : NpcUid) (npc : Npc) (hatched : Hatched uid npc) : npc.Fit where
  alive := hatched.alive
  lives := by
    rw [hatched.hp]
    decide
  whole := by
    rw [hatched.hp, hatched.maxHp]
    exact UInt16.le_refl _
  column := hatched.column
  row := hatched.row

theorem fitted_populated (fitted : Fitted s) : Populated s := fun index =>
  ⟨(fitted index).alive, UInt16.pos_iff_ne_zero.mpr (fun none => absurd (none ▸ (fitted index).lives) (by decide))⟩

theorem fitted_same (same : herd t = herd s) (fitted : Fitted s) : Fitted t := by
  intro index
  rw [(Prod.mk.inj same).1]
  exact fitted index

theorem stocked_same (same : herd t = herd s) (stocked : Stocked s) : Stocked t := by
  obtain ⟨npcs, counter⟩ := Prod.mk.inj same
  refine ⟨fitted_same same stocked.fit, fun index => ?_, fun index other => ?_⟩
  · rw [npcs, counter]
    exact stocked.issued index
  · rw [npcs]
    exact stocked.distinct index other

section Entries

variable (index : Fin maxNpc) (npc : Npc) (npcs : t.npcs = s.npcs.set index npc index.isLt)
include npcs

theorem entry_own : getElem t.npcs index index.isLt = npc := by rw [npcs, entry_set]

theorem entry_rest (other : Fin maxNpc) (apart : other ≠ index) : getElem t.npcs other other.isLt = getElem s.npcs other other.isLt := by
  have away : index.val ≠ other.val := fun same => apart (Fin.ext same.symm)
  simp [npcs, away]

theorem replaced_fitted (fitted : Fitted s) (fit : npc.Fit) : Fitted t := by
  intro other
  by_cases own : other = index
  · rw [own, entry_own index npc npcs]
    exact fit
  · rw [entry_rest index npc npcs other own]
    exact fitted other

end Entries

theorem move_fitted (move : HerdMove killed (herd s) (herd t)) (fitted : Fitted s) : Fitted t := by
  generalize reached : herd t = after at move
  generalize started : herd s = before at move
  cases move with
  | rest npcs counter => exact fitted_same (reached.trans started.symm) fitted
  | hurt npcs counter index hp lives weaker =>
      obtain ⟨rfl, rfl⟩ := Prod.mk.inj started
      have fit := fitted index
      exact replaced_fitted index { s.npcs[index] with hp } (Prod.mk.inj reached).1 fitted
        ⟨fit.alive, UInt16.lt_iff_toNat_lt.mp lives, UInt16.le_trans (UInt16.le_of_lt weaker) fit.whole, fit.column, fit.row⟩
  | renew npcs counter index npc hatched =>
      obtain ⟨rfl, rfl⟩ := Prod.mk.inj started
      exact replaced_fitted index npc (Prod.mk.inj reached).1 fitted (hatched_fit _ npc hatched)

theorem move_reissues (move : HerdMove killed (herd s) (herd t)) : Reissues s t killed := by
  generalize reached : herd t = after at move
  generalize started : herd s = before at move
  cases move with
  | rest npcs counter =>
      obtain ⟨npcs, counter⟩ := Prod.mk.inj (reached.trans started.symm)
      exact ⟨counter, fun index => by rw [npcs]⟩
  | hurt npcs counter index hp lives weaker =>
      obtain ⟨rfl, rfl⟩ := Prod.mk.inj started
      obtain ⟨npcs, counter⟩ := Prod.mk.inj reached
      refine ⟨counter, fun other => ?_⟩
      by_cases own : other = index
      · rw [own, entry_own index { s.npcs[index] with hp } npcs]
      · rw [entry_rest index _ npcs other own]
  | renew npcs counter index npc hatched =>
      obtain ⟨rfl, rfl⟩ := Prod.mk.inj started
      obtain ⟨npcs, counter⟩ := Prod.mk.inj reached
      exact ⟨counter, by rw [entry_own index npc npcs, hatched.uid], fun other apart => by rw [entry_rest index npc npcs other apart]⟩

theorem next_uid (uid : NpcUid) (lasts : uid.toNat + 1 < 2 ^ 64) : (uid + 1).toNat = uid.toNat + 1 := by
  rw [UInt64.toNat_add]
  exact Nat.mod_eq_of_lt lasts

theorem reissues_counter (reissues : Reissues s t killed) (lasts : s.nextNpcUid.toNat + killed.isSome.toNat < 2 ^ 64) :
    t.nextNpcUid.toNat = s.nextNpcUid.toNat + killed.isSome.toNat := by
  cases killed with
  | none => exact congrArg UInt64.toNat reissues.1
  | some index =>
      rw [reissues.1]
      exact next_uid s.nextNpcUid lasts

theorem reissues_renews (reissues : Reissues s t killed) (lasts : s.nextNpcUid.toNat + killed.isSome.toNat < 2 ^ 64) : Renews s t := by
  have later : s.nextNpcUid ≤ t.nextNpcUid := by
    rw [UInt64.le_iff_toNat_le, reissues_counter reissues lasts]
    exact Nat.le_add_right _ _
  refine ⟨later, fun other => ?_⟩
  cases killed with
  | none => exact .inl (reissues.2 other)
  | some index =>
      by_cases own : other = index
      · rw [own]
        exact .inr (UInt64.le_of_eq reissues.2.1.symm)
      · exact .inl (reissues.2.2 other own)

theorem reissues_stocked (reissues : Reissues s t killed) (lasts : s.nextNpcUid.toNat + killed.isSome.toNat < 2 ^ 64) (stocked : Stocked s)
    (fitted : Fitted t) : Stocked t := by
  have counter := reissues_counter reissues lasts
  cases killed with
  | none =>
      obtain ⟨same, kept⟩ := reissues
      refine ⟨fitted, fun index => ?_, fun index other => ?_⟩
      · rw [kept, same]
        exact stocked.issued index
      · rw [kept, kept]
        exact stocked.distinct index other
  | some killed =>
      obtain ⟨_, fresh, kept⟩ := reissues
      have alone (other : Fin maxNpc) (apart : other ≠ killed) : t.npcs[killed].uid ≠ t.npcs[other].uid := by
        rw [fresh, kept other apart]
        exact (UInt64.ne_of_lt (stocked.issued other)).symm
      refine ⟨fitted, fun index => ?_, fun first second same => ?_⟩
      · rw [UInt64.lt_iff_toNat_lt, counter]
        by_cases own : index = killed
        · rw [own, fresh]
          exact Nat.lt_succ_self _
        · rw [kept index own]
          exact Nat.lt_succ_of_lt (UInt64.lt_iff_toNat_lt.mp (stocked.issued index))
      · by_cases one : first = killed
        · by_cases two : second = killed
          · exact one.trans two.symm
          · rw [one] at same
            exact absurd same (alone second two)
        · by_cases two : second = killed
          · rw [two] at same
            exact absurd same.symm (alone first one)
          · rw [kept first one, kept second two] at same
            exact stocked.distinct first second same

theorem Renews.refl (s : ServerState) : Renews s s := ⟨UInt64.le_refl _, fun _ => .inl rfl⟩

theorem Renews.trans (first : Renews s t) (second : Renews t u) : Renews s u := by
  refine ⟨UInt64.le_trans first.1 second.1, fun index => ?_⟩
  rcases second.2 index with kept | fresh
  · rcases first.2 index with old | new
    · exact .inl (kept.trans old)
    · exact .inr (kept ▸ new)
  · exact .inr (UInt64.le_trans first.1 fresh)

theorem mem_uids (s : ServerState) (uid : NpcUid) : uid ∈ uidsOf s ↔ ∃ index : Fin maxNpc, (getElem s.npcs index index.isLt).uid = uid := by
  rw [uidsOf, List.mem_map]
  constructor
  · rintro ⟨npc, listed, rfl⟩
    obtain ⟨index, bound, rfl⟩ := Vector.mem_iff_getElem.mp (Vector.mem_toList_iff.mp listed)
    exact ⟨⟨index, bound⟩, rfl⟩
  · rintro ⟨index, rfl⟩
    exact ⟨s.npcs[index], Vector.mem_toList_iff.mpr (Vector.getElem_mem index.isLt), rfl⟩

theorem retired (stocked : Stocked s) (first : Renews s t) (second : Renews t u) (uid : NpcUid) (was : uid ∈ uidsOf s) (gone : uid ∉ uidsOf t) :
    uid ∉ uidsOf u := by
  intro back
  obtain ⟨origin, rfl⟩ := (mem_uids s uid).mp was
  obtain ⟨index, same⟩ := (mem_uids u _).mp back
  rcases second.2 index with kept | fresh
  · exact gone ((mem_uids t _).mpr ⟨index, kept.symm.trans same⟩)
  · have old := stocked.issued origin
    rw [← same] at old
    exact UInt64.lt_irrefl _ (UInt64.lt_of_lt_of_le old (UInt64.le_trans first.1 fresh))

end Moves

section Runs

variable (data : GameData)

theorem boot_fitted (db : Database) (draw : Nat → Nat) : Fitted (boot db draw) := by
  intro index
  rw [boot_npc]
  exact ⟨rfl, show (1 : UInt16) ≤ 30 by decide, UInt16.le_refl _, draw_inside _, draw_inside _⟩

theorem boot_uid (draw : Nat → Nat) (index : Fin maxNpc) : (bootNpc draw index).uid.toNat = index.val + 1 :=
  UInt64.toNat_ofNat_of_lt' (Nat.lt_of_le_of_lt index.isLt (by decide))

theorem boot_stocked (db : Database) (draw : Nat → Nat) : Stocked (boot db draw) where
  fit := boot_fitted db draw
  issued := by
    intro index
    rw [boot_npc, UInt64.lt_iff_toNat_lt, boot_uid]
    exact Nat.succ_lt_succ index.isLt
  distinct := by
    intro index other same
    rw [boot_npc, boot_npc] at same
    have equal := congrArg UInt64.toNat same
    rw [boot_uid, boot_uid] at equal
    exact Fin.ext (Nat.succ.inj equal)

theorem step_fitted (s : ServerState) (input : Input) (fitted : Fitted s) : Fitted (step data s input) :=
  move_fitted (step_herd data s input (fitted_populated fitted)) fitted

theorem step_reissues (s : ServerState) (input : Input) (fitted : Fitted s) : Reissues s (step data s input) (stepKill s input) :=
  move_reissues (step_herd data s input (fitted_populated fitted))

theorem step_stocked (s : ServerState) (input : Input) (lasts : s.nextNpcUid.toNat + (stepKill s input).isSome.toNat < 2 ^ 64)
    (stocked : Stocked s) : Stocked (step data s input) :=
  reissues_stocked (step_reissues data s input stocked.fit) lasts stocked (step_fitted data s input stocked.fit)

end Runs

end MmorpgSimulator
