import Mathlib

set_option autoImplicit false

namespace UniqueKey

variable {Row Key Owner : Type*}

-- What one transaction has to do with a table: nothing, a row it has inserted and
-- not committed, or a row it has committed.
inductive Stake (Row : Type*) where
  | idle
  | pending (row : Row)
  | settled (row : Row)

def Stake.row : Stake Row → Option Row
  | .idle => none
  | .pending row => some row
  | .settled row => some row

structure Table (Row Owner : Type*) where
  rows : List Row
  stake : Owner → Stake Row

variable (key : Row → Key) (table : Table Row Owner)

-- The key constraint at an insertion, which sees the rows of every transaction.
def Free (wanted : Key) : Prop :=
  (∀ row ∈ table.rows, key row ≠ wanted) ∧ ∀ owner row, table.stake owner = .pending row → key row ≠ wanted

structure Unique : Prop where
  distinct : table.rows.Pairwise (fun a b => key a ≠ key b)
  fresh : ∀ owner row, table.stake owner = .pending row → ∀ stored ∈ table.rows, key stored ≠ key row
  stored : ∀ owner row, table.stake owner = .settled row → row ∈ table.rows
  apart : ∀ first second row other, first ≠ second → (table.stake first).row = some row → (table.stake second).row = some other →
    key row ≠ key other

theorem free_apart (unique : Unique key table) (wanted : Key) (free : Free key table wanted) (other : Owner) (row : Row)
    (held : (table.stake other).row = some row) : key row ≠ wanted := by
  cases stands : table.stake other with
  | idle =>
      rw [stands] at held
      exact absurd held nofun
  | pending kept =>
      rw [stands] at held
      obtain rfl := Option.some.inj held
      exact free.2 other kept stands
  | settled kept =>
      rw [stands] at held
      obtain rfl := Option.some.inj held
      exact free.1 kept (unique.stored other kept stands)

variable [DecidableEq Owner] (owner : Owner)

def Table.setStake (stake : Stake Row) : Table Row Owner := { table with stake := Function.update table.stake owner stake }

def Table.commit (row : Row) : Table Row Owner := { table.setStake owner (.settled row) with rows := row :: table.rows }

theorem stake_self (stake : Stake Row) : (table.setStake owner stake).stake owner = stake := Function.update_self _ _ _

theorem stake_other (other : Owner) (stake : Stake Row) (away : other ≠ owner) : (table.setStake owner stake).stake other = table.stake other :=
  Function.update_of_ne away _ _

theorem apart_set (unique : Unique key table) (stake : Stake Row)
    (clear : ∀ row, stake.row = some row → ∀ other held, other ≠ owner → (table.stake other).row = some held → key held ≠ key row)
    (first second : Owner) (row other : Row) (away : first ≠ second) (mine : ((table.setStake owner stake).stake first).row = some row)
    (yours : ((table.setStake owner stake).stake second).row = some other) : key row ≠ key other := by
  by_cases here : first = owner
  · subst here
    rw [stake_self] at mine
    rw [stake_other table first second stake (Ne.symm away)] at yours
    exact Ne.symm (clear row mine second other (Ne.symm away) yours)
  · rw [stake_other table owner first stake here] at mine
    by_cases there : second = owner
    · subst there
      rw [stake_self] at yours
      exact clear other yours first row here mine
    · rw [stake_other table owner second stake there] at yours
      exact unique.apart first second row other away mine yours

theorem insert_unique (unique : Unique key table) (row : Row) (free : Free key table (key row)) :
    Unique key (table.setStake owner (.pending row)) where
  distinct := unique.distinct
  fresh := by
    intro other held stands
    by_cases here : other = owner
    · subst here
      rw [stake_self] at stands
      obtain rfl := Stake.pending.inj stands
      exact free.1
    · rw [stake_other table owner other _ here] at stands
      exact unique.fresh other held stands
  stored := by
    intro other held stands
    by_cases here : other = owner
    · subst here
      rw [stake_self] at stands
      exact absurd stands nofun
    · rw [stake_other table owner other _ here] at stands
      exact unique.stored other held stands
  apart := by
    apply apart_set key table owner unique
    intro inserted same other held _ stands
    obtain rfl := Option.some.inj same
    exact free_apart key table unique _ free other held stands

theorem commit_unique (unique : Unique key table) (row : Row) (open_ : table.stake owner = .pending row) :
    Unique key (table.commit owner row) where
  distinct := List.pairwise_cons.mpr ⟨fun stored member => Ne.symm (unique.fresh owner row open_ stored member), unique.distinct⟩
  fresh := by
    intro other held stands stored member
    by_cases here : other = owner
    · subst here
      exact absurd ((stake_self table other _).symm.trans stands) nofun
    · have before := (stake_other table owner other _ here).symm.trans stands
      rcases List.mem_cons.mp member with rfl | old
      · exact unique.apart owner other stored held (Ne.symm here) (by rw [open_]; rfl) (by rw [before]; rfl)
      · exact unique.fresh other held before stored old
  stored := by
    intro other held stands
    by_cases here : other = owner
    · subst here
      obtain rfl := Stake.settled.inj ((stake_self table other _).symm.trans stands)
      exact List.mem_cons_self
    · exact List.mem_cons_of_mem row (unique.stored other held ((stake_other table owner other _ here).symm.trans stands))
  apart := by
    apply apart_set key table owner unique
    intro committed same other held away stands
    obtain rfl := Option.some.inj same
    exact unique.apart other owner held row away stands (by rw [open_]; rfl)

theorem drop_unique (unique : Unique key table) : Unique key (table.setStake owner .idle) where
  distinct := unique.distinct
  fresh := by
    intro other held stands
    by_cases here : other = owner
    · subst here
      exact absurd ((stake_self table other _).symm.trans stands) nofun
    · exact unique.fresh other held ((stake_other table owner other _ here).symm.trans stands)
  stored := by
    intro other held stands
    by_cases here : other = owner
    · subst here
      exact absurd ((stake_self table other _).symm.trans stands) nofun
    · exact unique.stored other held ((stake_other table owner other _ here).symm.trans stands)
  apart := by
    apply apart_set key table owner unique
    exact fun row same => absurd same nofun

end UniqueKey
