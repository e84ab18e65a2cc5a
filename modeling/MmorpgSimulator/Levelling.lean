import MmorpgSimulator.Progression
import MmorpgSimulator.KillViews

set_option autoImplicit false

namespace MmorpgSimulator

section Turns

theorem levelled_due (player : PlayerData) (due : levelDue player) : levelled player = levelled (levelOnce player) := by
  rw [levelled, levelUps, dif_pos due]
  rfl

theorem levelled_rest (player : PlayerData) (rest : ¬ levelDue player) : levelled player = player := by
  rw [levelled, levelUps, dif_neg rest]

theorem levelled_turns (player : PlayerData) : ∃ turns, (∀ turn < turns, levelDue (levelOnce^[turn] player)) ∧
    ¬ levelDue (levelOnce^[turns] player) ∧ levelled player = levelOnce^[turns] player := by
  induction player using levelUps.induct with
  | case1 player due ih =>
      obtain ⟨turns, before, rests, same⟩ := ih
      refine ⟨turns + 1, fun turn early => ?_, rests, ?_⟩
      · cases turn with
        | zero => exact due
        | succ earlier => exact before earlier (Nat.lt_of_succ_lt_succ early)
      · rw [levelled_due player due]
        exact same
  | case2 player rest => exact ⟨0, fun _ early => absurd early (Nat.not_lt_zero _), rest, levelled_rest player rest⟩

def gaining (player : PlayerData) (gain : UInt64) : PlayerData := { player with exp := player.exp + gain }

theorem gaining_gaining (player : PlayerData) (first second : UInt64) :
    gaining (gaining player first) second = gaining player (first + second) := by
  simp only [gaining, UInt64.add_assoc]

theorem gaining_exp (player : PlayerData) (gain : UInt64) (fits : player.exp.toNat + gain.toNat < 2 ^ 64) :
    (gaining player gain).exp.toNat = player.exp.toNat + gain.toNat := by
  rw [gaining, UInt64.toNat_add]
  omega

theorem level_once_exp (player : PlayerData) (due : levelDue player) :
    (levelOnce player).exp.toNat + player.maxExp.toNat = player.exp.toNat := by
  have enough := (level_due_iff player).mp due
  rw [levelOnce, UInt64.toNat_sub_of_le _ _ due, UInt32.toNat_toUInt64]
  omega

theorem gaining_level_once (player : PlayerData) (gain : UInt64) : levelOnce (gaining player gain) = gaining (levelOnce player) gain := by
  simp only [levelOnce, gaining, PlayerData.mk.injEq, and_true, true_and]
  grind

theorem levelled_gaining (player : PlayerData) (gain : UInt64) (fits : player.exp.toNat + gain.toNat < 2 ^ 64) :
    levelled (gaining (levelled player) gain) = levelled (gaining player gain) := by
  induction player using levelUps.induct with
  | case1 player due ih =>
      have spent := level_once_exp player due
      have still : levelDue (gaining player gain) := by
        rw [level_due_iff, gaining_exp player gain fits]
        have enough := (level_due_iff player).mp due
        change player.maxExp.toNat ≤ _
        omega
      rw [levelled_due player due, ih (by omega), levelled_due _ still, gaining_level_once]
  | case2 player rest => rw [levelled_rest player rest]

end Turns

section Prices

-- The experience of one level after another, as numbers: what the first one costs is stored, the later ones follow the level.
def levelPrice (player : PlayerData) (turn : Nat) : Nat :=
  if turn = 0 then player.maxExp.toNat else 100 * (player.level.toNat + turn)

def levelsPrice (player : PlayerData) (turns : Nat) : Nat := ∑ turn ∈ Finset.range turns, levelPrice player turn

structure LevelFits (player : PlayerData) (turns : Nat) : Prop where
  level : player.level.toNat + turns < 2 ^ 16
  maxHp : player.maxHp.toNat + 20 * turns < 2 ^ 16
  atk : player.atk.toNat + 3 * turns < 2 ^ 16
  defense : player.defense.toNat + 2 * turns < 2 ^ 16

def PaidLevelsFit (player : PlayerData) : Prop := ∀ turns, levelsPrice player turns ≤ player.exp.toNat → LevelFits player turns

theorem levels_price_mono (player : PlayerData) (fewer more : Nat) (le : fewer ≤ more) :
    levelsPrice player fewer ≤ levelsPrice player more :=
  Finset.sum_le_sum_of_subset (Finset.range_mono le)

theorem LevelFits.fewer {player : PlayerData} {fewer more : Nat} (fits : LevelFits player more) (le : fewer ≤ more) :
    LevelFits player fewer := by
  obtain ⟨level, maxHp, atk, defense⟩ := fits
  exact ⟨by omega, by omega, by omega, by omega⟩

theorem paid_levels_fit_of_last (player : PlayerData) (last : Nat) (fits : LevelFits player last)
    (dear : player.exp.toNat < levelsPrice player (last + 1)) : PaidLevelsFit player := by
  intro turns paid
  by_cases within : turns ≤ last
  · exact fits.fewer within
  · have more := levels_price_mono player (last + 1) turns (by omega)
    omega

structure Climbed (start : PlayerData) (turns : Nat) (player : PlayerData) : Prop where
  level : player.level.toNat = start.level.toNat + turns
  maxExp : player.maxExp.toNat = levelPrice start turns
  exp : player.exp.toNat + levelsPrice start turns = start.exp.toNat
  maxHp : player.maxHp.toNat = start.maxHp.toNat + 20 * turns
  atk : player.atk.toNat = start.atk.toNat + 3 * turns
  defense : player.defense.toNat = start.defense.toNat + 2 * turns
  hp : player.hp = if turns = 0 then start.hp else player.maxHp

variable (start : PlayerData)

theorem climbed_start : Climbed start 0 start := ⟨rfl, rfl, rfl, rfl, rfl, rfl, rfl⟩

theorem levels_price_succ (turns : Nat) : levelsPrice start (turns + 1) = levelsPrice start turns + levelPrice start turns :=
  Finset.sum_range_succ _ _

variable {start} {turns : Nat} {player : PlayerData}

theorem Climbed.due_iff (climbed : Climbed start turns player) : levelDue player ↔ levelsPrice start (turns + 1) ≤ start.exp.toNat := by
  rw [level_due_iff, levels_price_succ, ← climbed.exp, climbed.maxExp]
  omega

theorem counter_add (counter step : UInt16) (fits : counter.toNat + step.toNat < 2 ^ 16) :
    (counter + step).toNat = counter.toNat + step.toNat := by
  rw [UInt16.toNat_add]
  omega

theorem Climbed.step (climbed : Climbed start turns player) (due : levelDue player) (fits : LevelFits start (turns + 1)) :
    Climbed start (turns + 1) (levelOnce player) := by
  have level : (levelOnce player).level.toNat = start.level.toNat + (turns + 1) := by
    have room := fits.level
    have raise : (1 : UInt16).toNat = 1 := rfl
    have before := climbed.level
    rw [levelOnce, counter_add _ _ (by omega)]
    omega
  refine ⟨level, ?_, ?_, ?_, ?_, ?_, rfl⟩
  · rw [levelPrice, if_neg (Nat.succ_ne_zero turns), ← level]
    exact max_exp_value (levelOnce player).level
  · have spent := level_once_exp player due
    rw [levels_price_succ, ← climbed.exp, ← climbed.maxExp]
    omega
  · have room := fits.maxHp
    have raise : (20 : UInt16).toNat = 20 := rfl
    have before := climbed.maxHp
    rw [levelOnce, counter_add _ _ (by omega)]
    omega
  · have room := fits.atk
    have raise : (3 : UInt16).toNat = 3 := rfl
    have before := climbed.atk
    rw [levelOnce, counter_add _ _ (by omega)]
    omega
  · have room := fits.defense
    have raise : (2 : UInt16).toNat = 2 := rfl
    have before := climbed.defense
    rw [levelOnce, counter_add _ _ (by omega)]
    omega

variable (start) in
theorem climbed_turns (fits : PaidLevelsFit start) (turns : Nat) (due : ∀ turn < turns, levelDue (levelOnce^[turn] start)) :
    Climbed start turns (levelOnce^[turns] start) := by
  induction turns with
  | zero => exact climbed_start start
  | succ turns ih =>
      have climbed := ih (fun turn early => due turn (Nat.lt_succ_of_lt early))
      have last := due turns (Nat.lt_succ_self turns)
      rw [Function.iterate_succ_apply']
      exact climbed.step last (fits _ (climbed.due_iff.mp last))

variable (start) in
theorem levelled_climbed (fits : PaidLevelsFit start) : ∃ turns, Climbed start turns (levelled start) := by
  obtain ⟨turns, due, _, same⟩ := levelled_turns start
  exact ⟨turns, same ▸ climbed_turns start fits turns due⟩

end Prices

section Conservation

variable (player : PlayerData)

-- All the experience of a character's life: fifty times level times the level below, and what it has towards the next.
def lifetimeExp : Nat := player.exp.toNat + 50 * player.level.toNat * (player.level.toNat - 1)

theorem hundred_levels (level : Nat) (started : 1 ≤ level) : 100 * level + 50 * level * (level - 1) = 50 * (level + 1) * level := by
  obtain ⟨below, rfl⟩ := Nat.exists_eq_add_of_le' started
  rw [Nat.add_sub_cancel]
  ring

theorem levels_price_closed (started : 1 ≤ player.level.toNat) (maxExp : player.maxExp.toNat = 100 * player.level.toNat) (turns : Nat) :
    levelsPrice player turns + 50 * player.level.toNat * (player.level.toNat - 1) =
      50 * (player.level.toNat + turns) * (player.level.toNat + turns - 1) := by
  induction turns with
  | zero => simp [levelsPrice]
  | succ turns ih =>
      have price : levelPrice player turns = 100 * (player.level.toNat + turns) := by
        rw [levelPrice]
        split
        · rename_i first
          rw [maxExp, first, Nat.add_zero]
        · rfl
      have next := hundred_levels (player.level.toNat + turns) (by omega)
      rw [levels_price_succ, price, ← Nat.add_assoc, Nat.add_sub_cancel]
      omega

structure Grown (before after : PlayerData) : Prop where
  exp : after.exp.toNat < after.maxExp.toNat
  maxExp : after.maxExp.toNat = 100 * after.level.toNat
  conserved : lifetimeExp after = lifetimeExp before
  level : before.level.toNat ≤ after.level.toNat
  maxHp : after.maxHp.toNat = before.maxHp.toNat + 20 * (after.level.toNat - before.level.toNat)
  atk : after.atk.toNat = before.atk.toNat + 3 * (after.level.toNat - before.level.toNat)
  defense : after.defense.toNat = before.defense.toNat + 2 * (after.level.toNat - before.level.toNat)
  hp : after.hp = if before.level.toNat < after.level.toNat then after.maxHp else before.hp

theorem levelled_grown (started : 1 ≤ player.level.toNat) (maxExp : player.maxExp.toNat = 100 * player.level.toNat)
    (fits : PaidLevelsFit player) : Grown player (levelled player) := by
  obtain ⟨turns, climbed⟩ := levelled_climbed player fits
  have settled : (levelled player).exp.toNat < (levelled player).maxExp.toNat :=
    Nat.lt_of_not_le (fun due => levelled_settled player ((level_due_iff _).mpr due))
  have gained : (levelled player).level.toNat - player.level.toNat = turns := by
    rw [climbed.level]
    omega
  refine ⟨settled, ?_, ?_, ?_, ?_, ?_, ?_, ?_⟩
  · rw [climbed.maxExp, climbed.level, levelPrice]
    split
    · rename_i first
      rw [maxExp, first, Nat.add_zero]
    · rfl
  · have price := levels_price_closed player started maxExp turns
    have total := climbed.exp
    rw [lifetimeExp, lifetimeExp, climbed.level]
    omega
  · rw [climbed.level]
    omega
  · rw [gained, climbed.maxHp]
  · rw [gained, climbed.atk]
  · rw [gained, climbed.defense]
  · have raised : player.level.toNat < (levelled player).level.toNat ↔ turns ≠ 0 := by
      rw [climbed.level]
      omega
    simp only [climbed.hp, raised, ite_not]

theorem paid_levels_fit_less (more less : UInt64) (below : (gaining player less).exp.toNat ≤ (gaining player more).exp.toNat)
    (fits : PaidLevelsFit (gaining player more)) : PaidLevelsFit (gaining player less) := by
  intro turns paid
  have room := fits turns (paid.trans below)
  exact ⟨room.level, room.maxHp, room.atk, room.defense⟩

theorem gaining_lifetime (gain : UInt64) (expFits : player.exp.toNat + gain.toNat < 2 ^ 64) :
    lifetimeExp (gaining player gain) = lifetimeExp player + gain.toNat := by
  have sum := gaining_exp player gain expFits
  have level : (gaining player gain).level = player.level := rfl
  rw [lifetimeExp, lifetimeExp, level]
  omega

variable (s : ServerState) (sid : SessionId)

-- exp += gain; CheckLevelUp, as a kill and a quest do it.
def gainAndCheck (gain : UInt64) : ServerState := checkLevelUp (s.setPlayer sid (gaining (s.player sid) gain)) sid

theorem gain_and_check_player (gain : UInt64) (here : sid ∈ s.sessions) :
    (gainAndCheck s sid gain).player sid = levelled (gaining (s.player sid) gain) := by
  have paid : (s.setPlayer sid (gaining (s.player sid) gain)).player sid = gaining (s.player sid) gain := player_set_self s sid _ here
  have stored : (gainAndCheck s sid gain).player sid = levelled ((s.setPlayer sid (gaining (s.player sid) gain)).player sid) :=
    player_set_self _ sid _ ((mem_set_player s sid sid _).mpr here)
  rw [stored, paid]

theorem gain_and_check_here (gain : UInt64) (here : sid ∈ s.sessions) : sid ∈ (gainAndCheck s sid gain).sessions :=
  (mem_set_player _ sid sid _).mpr ((mem_set_player s sid sid _).mpr here)

-- The loop ends; what it leaves has grown by the levels the experience pays for;
-- and two gains come to the same in one check as in two.
theorem level_up_conserves (first second : UInt64) (here : sid ∈ s.sessions) (started : 1 ≤ (s.player sid).level.toNat)
    (maxExp : (s.player sid).maxExp.toNat = 100 * (s.player sid).level.toNat)
    (expFits : (s.player sid).exp.toNat + first.toNat + second.toNat < 2 ^ 64)
    (fits : PaidLevelsFit (gaining (s.player sid) (first + second))) :
    (∃ turns, (∀ turn < turns, levelDue (levelOnce^[turn] (gaining (s.player sid) first))) ∧
        ¬ levelDue (levelOnce^[turns] (gaining (s.player sid) first)) ∧
          (gainAndCheck s sid first).player sid = levelOnce^[turns] (gaining (s.player sid) first)) ∧
      Grown (gaining (s.player sid) first) ((gainAndCheck s sid first).player sid) ∧
        lifetimeExp ((gainAndCheck s sid first).player sid) = lifetimeExp (s.player sid) + first.toNat ∧
          (gainAndCheck (gainAndCheck s sid first) sid second).player sid = (gainAndCheck s sid (first + second)).player sid := by
  rw [gain_and_check_player s sid first here, gain_and_check_player s sid (first + second) here,
    gain_and_check_player _ sid second (gain_and_check_here s sid first here), gain_and_check_player s sid first here]
  have once := gaining_exp (s.player sid) first (by omega)
  have twice := gaining_exp (gaining (s.player sid) first) second (by omega)
  rw [gaining_gaining] at twice
  have fitsOnce := paid_levels_fit_less (s.player sid) (first + second) first (by omega) fits
  have grown := levelled_grown (gaining (s.player sid) first) started maxExp fitsOnce
  refine ⟨levelled_turns _, grown, ?_, ?_⟩
  · rw [grown.conserved, gaining_lifetime _ first (by omega)]
  · rw [levelled_gaining _ second (by omega), gaining_gaining]

theorem levels_batched :
    ((∃ turns, (∀ turn < turns, levelDue (levelOnce^[turn] (gaining (hermit.server.player 1) 150))) ∧
        ¬ levelDue (levelOnce^[turns] (gaining (hermit.server.player 1) 150)) ∧
          (gainAndCheck hermit.server 1 150).player 1 = levelOnce^[turns] (gaining (hermit.server.player 1) 150)) ∧
      Grown (gaining (hermit.server.player 1) 150) ((gainAndCheck hermit.server 1 150).player 1) ∧
        lifetimeExp ((gainAndCheck hermit.server 1 150).player 1) = lifetimeExp (hermit.server.player 1) + 150 ∧
          (gainAndCheck (gainAndCheck hermit.server 1 150) 1 400).player 1 = (gainAndCheck hermit.server 1 550).player 1) ∧
      ((gainAndCheck hermit.server 1 550).player 1).level = 3 := by
  have fits : PaidLevelsFit (gaining (hermit.server.player 1) 550) :=
    paid_levels_fit_of_last _ 2 ⟨by decide +kernel, by decide +kernel, by decide +kernel, by decide +kernel⟩ (by decide +kernel)
  exact ⟨level_up_conserves hermit.server 1 150 400 (by decide +kernel) (by decide +kernel) (by decide +kernel) (by decide +kernel) fits,
    by decide +kernel⟩

end Conservation

section Strength

structure Stronger (before after : PlayerData) : Prop where
  level : before.level ≤ after.level
  maxHp : before.maxHp ≤ after.maxHp
  atk : before.atk ≤ after.atk
  defense : before.defense ≤ after.defense
  maxExp : after.maxExp ≠ 0

instance (before after : PlayerData) : Decidable (Stronger before after) :=
  decidable_of_iff (before.level ≤ after.level ∧ before.maxHp ≤ after.maxHp ∧ before.atk ≤ after.atk ∧ before.defense ≤ after.defense ∧
    after.maxExp ≠ 0) ⟨fun held => ⟨held.1, held.2.1, held.2.2.1, held.2.2.2.1, held.2.2.2.2⟩,
      fun held => ⟨held.level, held.maxHp, held.atk, held.defense, held.maxExp⟩⟩

theorem Stronger.trans {first second third : PlayerData} (early : Stronger first second) (late : Stronger second third) :
    Stronger first third :=
  ⟨UInt16.le_trans early.level late.level, UInt16.le_trans early.maxHp late.maxHp, UInt16.le_trans early.atk late.atk,
    UInt16.le_trans early.defense late.defense, late.maxExp⟩

def NeverWeakens (player : PlayerData) : Prop :=
  (∀ turn, (∀ earlier < turn + 1, levelDue (levelOnce^[earlier] player)) →
    Stronger (levelOnce^[turn] player) (levelOnce^[turn + 1] player)) ∧ Stronger player (levelled player)

variable (player : PlayerData)

theorem counter_grows_iff (counter raise : UInt16) (positive : 0 < raise.toNat) :
    counter ≤ counter + raise ↔ counter.toNat + raise.toNat < 2 ^ 16 := by
  have bound := counter.toNat_lt
  have small := raise.toNat_lt
  rw [UInt16.le_iff_toNat_le, UInt16.toNat_add]
  omega

theorem level_once_stronger_iff : Stronger player (levelOnce player) ↔ LevelFits player 1 := by
  have level := counter_grows_iff player.level 1 (by decide)
  have maxHp := counter_grows_iff player.maxHp 20 (by decide)
  have atk := counter_grows_iff player.atk 3 (by decide)
  have defense := counter_grows_iff player.defense 2 (by decide)
  constructor
  · intro stronger
    exact ⟨level.mp stronger.level, maxHp.mp stronger.maxHp, atk.mp stronger.atk, defense.mp stronger.defense⟩
  · intro fits
    refine ⟨level.mpr fits.level, maxHp.mpr fits.maxHp, atk.mpr fits.atk, defense.mpr fits.defense, ?_⟩
    intro zero
    have wrapped := (max_exp_zero_iff (player.level + 1)).mp zero
    have next : (player.level + 1).toNat = player.level.toNat + 1 := counter_add player.level 1 fits.level
    rw [wrapped] at next
    exact absurd next (by simp)

theorem Climbed.fits_iff {start : PlayerData} {turns : Nat} {player : PlayerData} (climbed : Climbed start turns player) :
    LevelFits player 1 ↔ LevelFits start (turns + 1) := by
  obtain ⟨level, _, _, maxHp, atk, defense, _⟩ := climbed
  constructor
  · intro fits
    obtain ⟨levelFits, maxHpFits, atkFits, defenseFits⟩ := fits
    exact ⟨by omega, by omega, by omega, by omega⟩
  · intro fits
    obtain ⟨levelFits, maxHpFits, atkFits, defenseFits⟩ := fits
    exact ⟨by omega, by omega, by omega, by omega⟩

theorem stronger_turns (charged : player.maxExp ≠ 0) (turns : Nat)
    (stronger : ∀ turn < turns, Stronger (levelOnce^[turn] player) (levelOnce^[turn + 1] player)) :
    Stronger player (levelOnce^[turns] player) := by
  induction turns with
  | zero => exact ⟨UInt16.le_refl _, UInt16.le_refl _, UInt16.le_refl _, UInt16.le_refl _, charged⟩
  | succ turns ih =>
      exact (ih (fun turn early => stronger turn (Nat.lt_succ_of_lt early))).trans (stronger turns (Nat.lt_succ_self turns))

theorem paid_turns (grows : ∀ turn, (∀ earlier < turn + 1, levelDue (levelOnce^[earlier] player)) →
      Stronger (levelOnce^[turn] player) (levelOnce^[turn + 1] player)) (turns : Nat)
    (paid : levelsPrice player turns ≤ player.exp.toNat) :
    (∀ turn < turns, levelDue (levelOnce^[turn] player)) ∧ Climbed player turns (levelOnce^[turns] player) ∧ LevelFits player turns := by
  induction turns with
  | zero =>
      exact ⟨nofun, climbed_start player, ⟨player.level.toNat_lt, player.maxHp.toNat_lt, player.atk.toNat_lt, player.defense.toNat_lt⟩⟩
  | succ turns ih =>
      obtain ⟨due, climbed, _⟩ := ih ((levels_price_mono player turns (turns + 1) (Nat.le_succ turns)).trans paid)
      have last := climbed.due_iff.mpr paid
      have all : ∀ earlier < turns + 1, levelDue (levelOnce^[earlier] player) := by
        intro earlier early
        rcases Nat.lt_succ_iff_lt_or_eq.mp early with before | rfl
        · exact due earlier before
        · exact last
      have stronger := grows turns all
      rw [Function.iterate_succ_apply'] at stronger ⊢
      have fits := climbed.fits_iff.mp ((level_once_stronger_iff _).mp stronger)
      exact ⟨all, climbed.step last fits, fits⟩

theorem never_weakens_iff (charged : player.maxExp ≠ 0) : NeverWeakens player ↔ PaidLevelsFit player := by
  constructor
  · intro never turns paid
    exact (paid_turns player never.1 turns paid).2.2
  · intro fits
    have grows (turn : Nat) (due : ∀ earlier < turn + 1, levelDue (levelOnce^[earlier] player)) :
        Stronger (levelOnce^[turn] player) (levelOnce^[turn + 1] player) := by
      have climbed := climbed_turns player fits turn (fun earlier early => due earlier (Nat.lt_succ_of_lt early))
      have paid := climbed.due_iff.mp (due turn (Nat.lt_succ_self turn))
      rw [Function.iterate_succ_apply']
      exact (level_once_stronger_iff _).mpr (climbed.fits_iff.mpr (fits _ paid))
    refine ⟨grows, ?_⟩
    obtain ⟨turns, due, _, same⟩ := levelled_turns player
    rw [same]
    exact stronger_turns player charged turns (fun turn early => grows turn (fun earlier before => due earlier (by omega)))

end Strength

section Reachable

def KeepsCharged (s t : ServerState) : Prop := ∀ sid, (s.player sid).maxExp ≠ 0 → (t.player sid).maxExp ≠ 0

def AllCharged (s : ServerState) : Prop := ∀ sid, (s.player sid).maxExp ≠ 0

theorem levelled_charged (player : PlayerData) : (levelled player).maxExp ≠ 0 := by
  intro zero
  have settled := levelled_settled player
  rw [level_due_iff, zero] at settled
  exact settled (Nat.zero_le _)

theorem same_max_exp_charged (s t : ServerState) (same : SameView PlayerData.maxExp s t) : KeepsCharged s t := by
  intro sid charged
  rwa [same sid]

theorem charged_frame : Frame KeepsCharged :=
  (view_frame PlayerData.maxExp (fun _ _ same => same.view_eq PlayerData.maxExp)).weaken same_max_exp_charged
    (fun first second sid charged => second sid (first sid charged))

theorem charged_fills (sid : SessionId) : Fills KeepsCharged sid := (view_fills PlayerData.maxExp sid).weaken same_max_exp_charged

theorem charged_wears (sid : SessionId) : Wears KeepsCharged sid :=
  (view_wears PlayerData.maxExp (fun _ _ same => same.view_eq PlayerData.maxExp) sid).weaken same_max_exp_charged

theorem charged_logs : Logs KeepsCharged := (view_logs PlayerData.maxExp).weaken same_max_exp_charged

theorem charged_grows : Grows KeepsCharged (fun _ => KeepsCharged) where
  pay := by
    intro s t paid exp gold before sid charged
    have same := same_view_set PlayerData.maxExp t paid (rewarded (t.player paid) exp gold) rfl
    exact same_max_exp_charged t _ same sid (before sid charged)
  wait := fun first second sid charged => second sid (first sid charged)
  level := by
    intro s t paid before sid charged
    rcases player_set_or t paid sid (levelled (t.player paid)) with ⟨_, still⟩ | ⟨rfl, _, now⟩
    · exact still ▸ before sid charged
    · exact now ▸ levelled_charged _

variable (data : GameData) (db : Database) (draw : Nat → Nat)

theorem departed_charged (s : ServerState) (sid : SessionId) (charged : AllCharged s) :
    AllCharged (onDisconnect (setUnconnected s sid) sid) := by
  have gone := on_disconnect_departed (setUnconnected s sid) sid
  intro other
  by_cases leaver : other = sid
  · rw [leaver, gone.player]
    decide
  · rw [gone.players other leaver, (idle_set_unconnected s sid).players other]
    exact charged other

theorem step_charged (s : ServerState) (input : Input) (charged : AllCharged s) : AllCharged (step data s input) := by
  cases selects : selecting s input with
  | none =>
      exact charged_frame.step_keeps data charged_fills charged_wears charged_logs charged_grows AllCharged
        (fun _ _ kept charged sid => kept sid (charged sid)) (fun _ _ charged => charged) departed_charged s input selects charged
  | some selection =>
      obtain ⟨sid, req, row⟩ := selection
      obtain ⟨own, others⟩ := select_progress data s input sid req row selects
      simp only [progressOf, Prod.mk.injEq] at own others
      intro other
      by_cases self : other = sid
      · rw [self, own.2.2.1]
        exact charged sid
      · rw [(others other self).2.2.1]
        exact charged other

theorem boot_charged : AllCharged (boot db draw) := by
  intro sid
  rw [player_absent (boot db draw) sid (by simp [boot])]
  decide

theorem reachable_charged (inputs : List Input) : AllCharged (Machine.run (step data) (boot db draw) inputs) :=
  Machine.run_invariant (step data) (fun _ _ => True) AllCharged (fun s input charged _ => step_charged data s input charged)
    (boot db draw) inputs (boot_charged db draw) (Machine.guarded_trivial _ _ (fun _ _ => trivial) _ inputs)

-- In every state that a run reaches, whatever the experience gained on top.
theorem levelling_never_weakens_iff (inputs : List Input) (sid : SessionId) (gain : UInt64) :
    ((Machine.run (step data) (boot db draw) inputs).player sid).maxExp ≠ 0 ∧
      (NeverWeakens (gaining ((Machine.run (step data) (boot db draw) inputs).player sid) gain) ↔
        PaidLevelsFit (gaining ((Machine.run (step data) (boot db draw) inputs).player sid) gain)) := by
  have charged := reachable_charged data db draw inputs sid
  exact ⟨charged, never_weakens_iff _ charged⟩

-- One character that was saved at level 1 with the experience of thousands of levels.
def legendaryCharacter : Database := { twoCharacters with characters := CharacterTable.empty.add 1 [65] 0 1 600000000 }

def legend : ServerState := Machine.run (step emptyData) (boot legendaryCharacter (fun _ => 0)) returning

-- The maximum of the hit points comes round at level 3273.
theorem legend_weakens : ¬ NeverWeakens (gaining (legend.player 1) 0) := by
  have player : (gaining (legend.player 1) 0).level = 1 ∧ (gaining (legend.player 1) 0).maxExp = 100 ∧
      (gaining (legend.player 1) 0).maxHp = 100 ∧ (gaining (legend.player 1) 0).exp = 600000000 := by
    decide +kernel
  generalize gaining (legend.player 1) 0 = hero at player
  obtain ⟨level, maxExp, maxHp, exp⟩ := player
  intro never
  have start : hero.level.toNat = 1 := by rw [level]; rfl
  have wealth : hero.exp.toNat = 600000000 := by rw [exp]; rfl
  have price := levels_price_closed hero start.ge (by rw [start, maxExp]; rfl) 3272
  rw [start] at price
  have fits := (paid_turns hero never.1 3272 (by omega)).2.2
  have hp := fits.maxHp
  rw [maxHp] at hp
  exact absurd hp (by decide)

end Reachable

end MmorpgSimulator
