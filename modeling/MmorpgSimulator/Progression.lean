import MmorpgSimulator.Selections

set_option autoImplicit false

namespace MmorpgSimulator

section Levels

theorem levelled_keeps (property : PlayerData → Prop) (keeps : ∀ player, levelDue player → property player → property (levelOnce player))
    (player : PlayerData) (holds : property player) : property (levelled player) := by
  rw [levelled]
  induction player using levelUps.induct with
  | case1 player due ih =>
      rw [levelUps, dif_pos due]
      exact ih (keeps player due holds)
  | case2 player rest =>
      rw [levelUps, dif_neg rest]
      exact holds

theorem levelled_settled (player : PlayerData) : ¬ levelDue (levelled player) := by
  rw [levelled]
  induction player using levelUps.induct with
  | case1 player due ih =>
      rw [levelUps, dif_pos due]
      exact ih
  | case2 player rest =>
      rw [levelUps, dif_neg rest]
      exact rest

-- What CheckLevelUp keeps between level, maxExp and maxHp, in the arithmetic of
-- the fields' types.
structure Tuned (player : PlayerData) : Prop where
  maxExp : player.maxExp = player.level.toUInt32 * 100
  maxHp : player.maxHp = 100 + 20 * (player.level - 1)

structure Aligned (player : PlayerData) : Prop extends Tuned player where
  exp : ¬ levelDue player

theorem level_once_tuned (player : PlayerData) (tuned : Tuned player) : Tuned (levelOnce player) where
  maxExp := rfl
  maxHp := by
    change player.maxHp + 20 = 100 + 20 * (player.level + 1 - 1)
    rw [tuned.maxHp]
    grind

theorem levelled_aligned (player : PlayerData) (tuned : Tuned player) : Aligned (levelled player) where
  toTuned := levelled_keeps Tuned (fun player _ => level_once_tuned player) player tuned
  exp := levelled_settled player

structure Coherent (player : PlayerData) : Prop where
  maxExp : player.maxExp.toNat = 100 * player.level.toNat
  exp : player.exp.toNat < player.maxExp.toNat
  maxHp : 100 + 20 * (player.level.toNat - 1) < 2 ^ 16 → player.maxHp.toNat = 100 + 20 * (player.level.toNat - 1)
  shown : player.exp.toUInt32.toNat = player.exp.toNat

theorem level_due_iff (player : PlayerData) : levelDue player ↔ player.maxExp.toNat ≤ player.exp.toNat := by
  rw [levelDue, UInt64.le_iff_toNat_le, UInt32.toNat_toUInt64]

theorem max_exp_value (level : UInt16) : (level.toUInt32 * 100).toNat = 100 * level.toNat := by
  have bound := level.toNat_lt
  simp only [UInt32.toNat_mul, UInt16.toNat_toUInt32, UInt32.toNat_ofNat]
  omega

theorem max_hp_value (level : UInt16) (started : 0 < level.toNat) (fits : 100 + 20 * (level.toNat - 1) < 2 ^ 16) :
    (100 + 20 * (level - 1)).toNat = 100 + 20 * (level.toNat - 1) := by
  have bound := level.toNat_lt
  have one : (1 : UInt16) ≤ level := UInt16.le_iff_toNat_le.mpr started
  simp only [UInt16.toNat_add, UInt16.toNat_mul, UInt16.toNat_sub_of_le _ _ one, UInt16.toNat_ofNat]
  omega

theorem aligned_coherent (player : PlayerData) (aligned : Aligned player) : Coherent player := by
  have maxExp : player.maxExp.toNat = 100 * player.level.toNat := by rw [aligned.maxExp, max_exp_value]
  have below : player.exp.toNat < player.maxExp.toNat := Nat.lt_of_not_le (fun due => aligned.exp ((level_due_iff player).mpr due))
  refine ⟨maxExp, below, fun fits => ?_, ?_⟩
  · rw [aligned.maxHp]
    exact max_hp_value player.level (by omega) fits
  · have bound := player.maxExp.toNat_lt
    rw [UInt64.toNat_toUInt32]
    omega

end Levels

section Alignment

def progressOf (player : PlayerData) : UInt16 × UInt64 × UInt32 × UInt16 := (player.level, player.exp, player.maxExp, player.maxHp)

theorem tuned_view (first second : PlayerData) (same : progressOf second = progressOf first) (tuned : Tuned first) : Tuned second := by
  simp only [progressOf, Prod.mk.injEq] at same
  exact ⟨by rw [same.2.2.1, same.1, tuned.maxExp], by rw [same.2.2.2, same.1, tuned.maxHp]⟩

theorem aligned_view (first second : PlayerData) (same : progressOf second = progressOf first) (aligned : Aligned first) : Aligned second := by
  refine ⟨tuned_view first second same aligned.toTuned, ?_⟩
  simp only [progressOf, Prod.mk.injEq] at same
  rw [levelDue, same.2.1, same.2.2.1]
  exact aligned.exp

theorem default_aligned : Aligned {} := ⟨⟨by decide, by decide⟩, by decide⟩

structure KeepsAlignment (s t : ServerState) : Prop where
  tuned : ∀ sid, Tuned (s.player sid) → Tuned (t.player sid)
  aligned : ∀ sid, Aligned (s.player sid) → Aligned (t.player sid)

-- The stretch between a payment to a session and its CheckLevelUp.
structure PaysAlignment (paid : SessionId) (s t : ServerState) : Prop where
  tuned : ∀ sid, Tuned (s.player sid) → Tuned (t.player sid)
  aligned : ∀ sid, sid ≠ paid → Aligned (s.player sid) → Aligned (t.player sid)

theorem view_keeps_alignment (s t : ServerState) (same : SameView progressOf s t) : KeepsAlignment s t :=
  ⟨fun sid => tuned_view _ _ (same sid), fun sid => aligned_view _ _ (same sid)⟩

theorem profile_progress (old new : PlayerData) (same : ProfileWrite old new) : progressOf new = progressOf old :=
  same.view_eq progressOf

theorem stats_progress (old new : PlayerData) (same : StatsWrite old new) : progressOf new = progressOf old :=
  same.view_eq progressOf

theorem progress_frame : Frame (SameView progressOf) := view_frame progressOf profile_progress

theorem alignment_frame : Frame KeepsAlignment :=
  progress_frame.weaken view_keeps_alignment (fun first second =>
    ⟨fun sid tuned => second.tuned sid (first.tuned sid tuned), fun sid aligned => second.aligned sid (first.aligned sid aligned)⟩)

theorem alignment_fills (sid : SessionId) : Fills KeepsAlignment sid := (view_fills progressOf sid).weaken view_keeps_alignment

theorem alignment_wears (sid : SessionId) : Wears KeepsAlignment sid := (view_wears progressOf stats_progress sid).weaken view_keeps_alignment

theorem alignment_logs : Logs KeepsAlignment := (view_logs progressOf).weaken view_keeps_alignment

theorem alignment_grows : Grows KeepsAlignment PaysAlignment where
  pay := by
    intro s t paid exp gold before
    have written (sid : SessionId) (tuned : Tuned (s.player sid)) : Tuned (rewarded (t.player sid) exp gold) :=
      ⟨(before.tuned sid tuned).maxExp, (before.tuned sid tuned).maxHp⟩
    refine ⟨fun sid tuned => ?_, fun sid apart aligned => ?_⟩
    · rcases player_set_or t paid sid (rewarded (t.player paid) exp gold) with ⟨_, still⟩ | ⟨rfl, _, now⟩
      · rw [still]
        exact before.tuned sid tuned
      · rw [now]
        exact written sid tuned
    · rw [player_set_other t paid sid _ apart]
      exact before.aligned sid aligned
  wait := fun first second =>
    ⟨fun sid tuned => second.tuned sid (first.tuned sid tuned),
      fun sid apart aligned => second.aligned sid (first.aligned sid apart aligned)⟩
  level := by
    intro s t paid before
    have set := player_set_or t paid
    refine ⟨fun sid tuned => ?_, fun sid aligned => ?_⟩
    · rcases set sid (levelled (t.player paid)) with ⟨_, still⟩ | ⟨rfl, _, now⟩
      · exact still ▸ before.tuned sid tuned
      · exact now ▸ (levelled_aligned _ (before.tuned sid tuned)).toTuned
    · rcases set sid (levelled (t.player paid)) with ⟨untouched, still⟩ | ⟨rfl, _, now⟩
      · by_cases same : sid = paid
        · have absent : paid ∉ t.sessions := untouched.resolve_left (fun apart => apart same)
          have nobody : (checkLevelUp t paid).player sid = {} := still.trans (same ▸ player_absent t paid absent)
          rw [nobody]
          exact default_aligned
        · exact still ▸ before.aligned sid same aligned
      · exact now ▸ levelled_aligned _ (before.tuned sid aligned.toTuned)

end Alignment

section Runs

variable (data : GameData) (db : Database) (draw : Nat → Nat)

def LevelsCoherent (s : ServerState) : Prop := ∀ sid, (s.player sid).loggedIn = true → Coherent (s.player sid)

-- A selection reads the level the session's player already has, and experience
-- below what that level asks for.
def resumesLevel (s : ServerState) (input : Input) : Prop :=
  ∀ sid req row, selecting s input = some (sid, req, row) →
    row.1.toUInt32.toUInt16 = (s.player sid).level ∧ row.2.1.toUInt64 < (s.player sid).maxExp.toUInt64

instance (s : ServerState) (input : Input) : Decidable (resumesLevel s input) :=
  match selects : selecting s input with
  | none => .isTrue (by simp [resumesLevel, selects])
  | some (sid, req, row) =>
      decidable_of_iff (row.1.toUInt32.toUInt16 = (s.player sid).level ∧ row.2.1.toUInt64 < (s.player sid).maxExp.toUInt64) (by
        simp only [resumesLevel, selects, Option.some.injEq, Prod.mk.injEq]
        constructor
        · rintro held _ _ _ ⟨rfl, rfl, rfl⟩
          exact held
        · exact fun held => held sid req row ⟨rfl, rfl, rfl⟩)

def AllAligned (s : ServerState) : Prop := ∀ sid, Aligned (s.player sid)

theorem departed_aligned (s : ServerState) (sid : SessionId) (aligned : AllAligned s) :
    AllAligned (onDisconnect (setUnconnected s sid) sid) := by
  have gone := on_disconnect_departed (setUnconnected s sid) sid
  intro other
  by_cases leaver : other = sid
  · rw [leaver, gone.player]
    exact default_aligned
  · rw [gone.players other leaver, (idle_set_unconnected s sid).players other]
    exact aligned other

theorem step_aligned (s : ServerState) (input : Input) (aligned : AllAligned s) (stays : selecting s input = none) :
    AllAligned (step data s input) :=
  alignment_frame.step_keeps data alignment_fills alignment_wears alignment_logs alignment_grows AllAligned
    (fun _ _ kept aligned sid => kept.aligned sid (aligned sid)) (fun _ _ aligned => aligned) departed_aligned s input stays aligned

theorem select_progress (s : ServerState) (input : Input) (sid : SessionId) (req : CsCharSelect) (row : Int32 × Int64 × Int64)
    (selects : selecting s input = some (sid, req, row)) :
    progressOf ((step data s input).player sid) =
        (row.1.toUInt32.toUInt16, row.2.1.toUInt64, (s.player sid).maxExp, (s.player sid).maxHp) ∧
      ∀ other, other ≠ sid → progressOf ((step data s input).player other) = progressOf (s.player other) := by
  obtain ⟨⟨drawX, drawY, own⟩, others⟩ := select_view data s sid req progressOf profile_progress stats_progress input row selects
  exact ⟨own, others⟩

theorem select_in_game (s : ServerState) (input : Input) (sid : SessionId) (req : CsCharSelect) (row : Int32 × Int64 × Int64)
    (selects : selecting s input = some (sid, req, row)) : ((step data s input).player sid).loggedIn = true := by
  obtain ⟨⟨drawX, drawY, own⟩, _⟩ := select_view data s sid req PlayerData.loggedIn
    (fun _ _ same => same.view_eq PlayerData.loggedIn) (fun _ _ same => same.view_eq PlayerData.loggedIn) input row selects
  exact own

theorem boot_aligned : AllAligned (boot db draw) := by
  intro sid
  have nobody : (boot db draw).player sid = {} := player_absent _ sid (by simp [boot])
  rw [nobody]
  exact default_aligned

theorem levels_coherent_iff (inputs : List Input) :
    Machine.Throughout (step data) LevelsCoherent (boot db draw) inputs ↔
      Machine.Guarded (step data) resumesLevel (boot db draw) inputs := by
  apply Machine.throughout_iff_guarded (step data) resumesLevel AllAligned
  · exact fun s aligned sid _ => aligned_coherent _ (aligned sid)
  · intro s input aligned resumes
    cases selects : selecting s input with
    | none => exact step_aligned data s input aligned selects
    | some selection =>
        obtain ⟨sid, req, row⟩ := selection
        obtain ⟨level, exp⟩ := resumes sid req row selects
        obtain ⟨own, others⟩ := select_progress data s input sid req row selects
        simp only [progressOf, Prod.mk.injEq] at own
        intro other
        by_cases self : other = sid
        · subst self
          refine ⟨⟨?_, ?_⟩, ?_⟩
          · rw [own.2.2.1, own.1, level]
            exact (aligned other).maxExp
          · rw [own.2.2.2, own.1, level]
            exact (aligned other).maxHp
          · rw [levelDue, own.2.1, own.2.2.1]
            exact UInt64.not_le.mpr exp
        · exact aligned_view _ _ (others other self) (aligned other)
  · intro s input aligned unmet coherent
    obtain ⟨sid, req, row, selects, differs⟩ : ∃ sid req row, selecting s input = some (sid, req, row) ∧
        ¬ (row.1.toUInt32.toUInt16 = (s.player sid).level ∧ row.2.1.toUInt64 < (s.player sid).maxExp.toUInt64) := by
      simpa [resumesLevel] using unmet
    obtain ⟨own, _⟩ := select_progress data s input sid req row selects
    have after := coherent sid (select_in_game data s input sid req row selects)
    have before := aligned_coherent _ (aligned sid)
    simp only [progressOf, Prod.mk.injEq] at own
    have maxExp := after.maxExp
    have exp := after.exp
    rw [own.2.2.1] at maxExp exp
    rw [own.1] at maxExp
    rw [own.2.1] at exp
    apply differs
    refine ⟨UInt16.toNat_inj.mp ?_, ?_⟩
    · have same := before.maxExp
      omega
    · rw [UInt64.lt_iff_toNat_lt, UInt32.toNat_toUInt64]
      exact exp
  · exact boot_aligned db draw

def veteranCharacter : Database := { twoCharacters with characters := CharacterTable.empty.add 1 [65] 0 3 250 }

def returning : List Input := [⟨.accept, [], []⟩, ⟨.packet 1 (.login ⟨[49]⟩), [], []⟩, ⟨.packet 1 (.charSelect ⟨1⟩), [], []⟩]

theorem veteran_returns_incoherent :
    ¬ Machine.Throughout (step emptyData) LevelsCoherent (boot veteranCharacter (fun _ => 0)) returning := by
  intro holds
  have player : progressOf ((Machine.run (step emptyData) (boot veteranCharacter (fun _ => 0)) returning).player 1) = (3, 250, 100, 100) ∧
      ((Machine.run (step emptyData) (boot veteranCharacter (fun _ => 0)) returning).player 1).loggedIn = true := by
    decide +kernel
  have coherent := Machine.throughout_run (step emptyData) _ _ returning [] holds 1 player.2
  obtain ⟨level, _, maxExp, _⟩ : _ ∧ _ ∧ _ ∧ _ := by simpa only [progressOf, Prod.mk.injEq] using player.1
  have law := coherent.maxExp
  rw [maxExp, level] at law
  exact absurd law (by decide)

end Runs

end MmorpgSimulator
