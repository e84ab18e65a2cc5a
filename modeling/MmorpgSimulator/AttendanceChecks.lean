import MmorpgSimulator.Database
import MmorpgSimulator.Library.UniqueKey

set_option autoImplicit false

namespace MmorpgSimulator

open UniqueKey (Stake Table Unique)

abbrev Day := Nat

structure AttendanceRow where
  charUid : CharUid
  attendDate : Day
  rewardGold : Int
deriving DecidableEq, Repr

def AttendanceRow.key (row : AttendanceRow) : CharUid × Day := (row.charUid, row.attendDate)

-- v_RewardGold
def checkReward : Int := 100

-- How far a call of spAttendanceCheck has come. Its uncommitted writes stand here,
-- so that giving them up is the ROLLBACK. A result is the row the call paid for.
inductive Check where
  | called
  | begun
  | checked (already : Bool)
  | inserted (row : AttendanceRow)
  | raised (row : AttendanceRow) (amount : Int)
  | committed (result : Option AttendanceRow)
  | handling
  | undone
  | returned (result : Option AttendanceRow)
deriving DecidableEq

def Check.stake : Check → Stake AttendanceRow
  | .inserted row => .pending row
  | .raised row _ => .pending row
  | .committed (some row) => .settled row
  | .returned (some row) => .settled row
  | _ => .idle

def Check.Running : Check → Prop
  | .called | .begun | .checked _ | .inserted _ | .raised _ _ | .committed _ => True
  | _ => False

structure Bank (Call : Type) where
  attendance : List AttendanceRow
  gold : CharUid → Option Int
  check : Call → Check

section Calls

variable {Call : Type} [DecidableEq Call] (charUid : Call → CharUid)

def Bank.table (bank : Bank Call) : Table AttendanceRow Call := ⟨bank.attendance, fun call => (bank.check call).stake⟩

def Bank.move (bank : Bank Call) (call : Call) (check : Check) : Bank Call :=
  { bank with check := Function.update bank.check call check }

def raisedGold (gold : CharUid → Option Int) (owner : CharUid) (amount : Int) : CharUid → Option Int :=
  fun charUid => (gold charUid).map (fun old => if charUid = owner then old + amount else old)

def Bank.commit (bank : Bank Call) (call : Call) (row : AttendanceRow) (amount : Int) : Bank Call :=
  { attendance := row :: bank.attendance, gold := raisedGold bank.gold (charUid call) amount,
    check := Function.update bank.check call (.committed (some row)) }

-- One statement of one call. What the SELECT sees depends on the isolation level and
-- on the day that CURDATE() gives it, so its answer is any; the day of the INSERT is a
-- later one of its own. An INSERT that meets its key waits, or fails like any statement may.
inductive CheckStep : Bank Call → Bank Call → Prop
  | start (bank : Bank Call) (call : Call) (called : bank.check call = .called) : CheckStep bank (bank.move call .begun)
  | select (bank : Bank Call) (call : Call) (already : Bool) (begun : bank.check call = .begun) :
      CheckStep bank (bank.move call (.checked already))
  | already (bank : Bank Call) (call : Call) (seen : bank.check call = .checked true) : CheckStep bank (bank.move call (.committed none))
  | insert (bank : Bank Call) (call : Call) (today : Day) (unseen : bank.check call = .checked false)
      (free : UniqueKey.Free AttendanceRow.key bank.table (charUid call, today)) :
      CheckStep bank (bank.move call (.inserted ⟨charUid call, today, checkReward⟩))
  | update (bank : Bank Call) (call : Call) (row : AttendanceRow) (inserted : bank.check call = .inserted row) :
      CheckStep bank (bank.move call (.raised row checkReward))
  | commit (bank : Bank Call) (call : Call) (row : AttendanceRow) (amount : Int) (raised : bank.check call = .raised row amount) :
      CheckStep bank (bank.commit charUid call row amount)
  | answer (bank : Bank Call) (call : Call) (result : Option AttendanceRow) (committed : bank.check call = .committed result) :
      CheckStep bank (bank.move call (.returned result))
  | fail (bank : Bank Call) (call : Call) (running : (bank.check call).Running) : CheckStep bank (bank.move call .handling)
  | rollback (bank : Bank Call) (call : Call) (handling : bank.check call = .handling) : CheckStep bank (bank.move call .undone)
  | apologise (bank : Bank Call) (call : Call) (undone : bank.check call = .undone) : CheckStep bank (bank.move call (.returned none))

def CheckRun : Bank Call → Bank Call → Prop := Relation.ReflTransGen (CheckStep charUid)

def Check.Honest (owner : CharUid) : Check → Prop
  | .inserted row => row.charUid = owner ∧ row.rewardGold = checkReward
  | .raised row amount => row.charUid = owner ∧ row.rewardGold = amount
  | .committed (some row) => row.charUid = owner
  | .returned (some row) => row.charUid = owner
  | _ => True

def paidFor (rows : List AttendanceRow) (charUid : CharUid) : Int :=
  ((rows.filter (fun row => row.charUid = charUid)).map AttendanceRow.rewardGold).sum

structure Squared (start bank : Bank Call) : Prop where
  unique : Unique AttendanceRow.key bank.table
  honest : ∀ call, (bank.check call).Honest (charUid call)
  grown : ∃ fresh, bank.attendance = fresh ++ start.attendance ∧
    ∀ owner, bank.gold owner = (start.gold owner).map (fun old => old + paidFor fresh owner)

theorem table_move (bank : Bank Call) (call : Call) (check : Check) :
    (bank.move call check).table = bank.table.setStake call check.stake := by
  rw [Bank.table, Table.setStake]
  congr 1
  exact Function.comp_update Check.stake bank.check call check

theorem table_commit (bank : Bank Call) (call : Call) (row : AttendanceRow) (amount : Int) :
    (bank.commit charUid call row amount).table = bank.table.commit call row := by
  rw [Bank.table, Table.commit, Table.setStake]
  congr 1
  exact Function.comp_update Check.stake bank.check call (.committed (some row))

theorem stake_same (bank : Bank Call) (call : Call) (check : Check) (same : check.stake = (bank.check call).stake) :
    (bank.move call check).table = bank.table := by
  rw [table_move, Table.setStake, same]
  congr 1
  exact Function.update_eq_self call (fun other => (bank.check other).stake)

theorem check_self (bank : Bank Call) (call : Call) (check : Check) : (bank.move call check).check call = check :=
  Function.update_self _ _ _

theorem check_other (bank : Bank Call) (call other : Call) (check : Check) (apart : other ≠ call) :
    (bank.move call check).check other = bank.check other :=
  Function.update_of_ne apart _ _

theorem honest_move (bank : Bank Call) (call : Call) (check : Check) (honest : ∀ other, (bank.check other).Honest (charUid other))
    (mine : check.Honest (charUid call)) (other : Call) : ((bank.move call check).check other).Honest (charUid other) := by
  by_cases here : other = call
  · subst here
    rwa [check_self]
  · rw [check_other bank call other check here]
    exact honest other

variable {charUid} {start bank : Bank Call}

theorem Squared.moved (squared : Squared charUid start bank) (call : Call) (check : Check) (same : check.stake = (bank.check call).stake)
    (mine : check.Honest (charUid call)) : Squared charUid start (bank.move call check) where
  unique := by
    rw [stake_same bank call check same]
    exact squared.unique
  honest := honest_move charUid bank call check squared.honest mine
  grown := squared.grown

theorem Squared.dropped (squared : Squared charUid start bank) (call : Call) (check : Check) (nothing : check.stake = .idle)
    (mine : check.Honest (charUid call)) : Squared charUid start (bank.move call check) where
  unique := by
    rw [table_move, nothing]
    exact UniqueKey.drop_unique _ _ call squared.unique
  honest := honest_move charUid bank call check squared.honest mine
  grown := squared.grown

theorem Squared.inserted (squared : Squared charUid start bank) (call : Call) (today : Day)
    (free : UniqueKey.Free AttendanceRow.key bank.table (charUid call, today)) :
    Squared charUid start (bank.move call (.inserted ⟨charUid call, today, checkReward⟩)) where
  unique := by
    rw [table_move]
    exact UniqueKey.insert_unique _ _ call squared.unique _ free
  honest := honest_move charUid bank call _ squared.honest ⟨rfl, rfl⟩
  grown := squared.grown

theorem paid_for_cons (row : AttendanceRow) (rows : List AttendanceRow) (owner : CharUid) :
    paidFor (row :: rows) owner = (if row.charUid = owner then row.rewardGold else 0) + paidFor rows owner := by
  by_cases mine : row.charUid = owner <;> simp [paidFor, mine]

theorem Squared.commit (squared : Squared charUid start bank) (call : Call) (row : AttendanceRow) (amount : Int)
    (raised : bank.check call = .raised row amount) : Squared charUid start (bank.commit charUid call row amount) where
  unique := by
    rw [table_commit]
    refine UniqueKey.commit_unique _ _ call squared.unique row ?_
    exact congrArg Check.stake raised
  honest := by
    have mine := squared.honest call
    rw [raised] at mine
    exact honest_move charUid bank call (.committed (some row)) squared.honest mine.1
  grown := by
    have mine := squared.honest call
    rw [raised] at mine
    obtain ⟨fresh, rows, grown⟩ := squared.grown
    refine ⟨row :: fresh, congrArg (List.cons row) rows, fun owner => ?_⟩
    have paid := paid_for_cons row fresh owner
    rw [mine.1, mine.2] at paid
    show raisedGold bank.gold (charUid call) amount owner = _
    rw [raisedGold, grown, paid, Option.map_map]
    congr 1
    funext old
    by_cases own : owner = charUid call
    · simp [own]
      ring
    · simp [own, Ne.symm own]

theorem step_squared (squared : Squared charUid start bank) (next : Bank Call) (step : CheckStep charUid bank next) :
    Squared charUid start next := by
  cases step with
  | start call called => exact squared.moved call _ (by rw [called]; rfl) trivial
  | select call already begun => exact squared.moved call _ (by rw [begun]; rfl) trivial
  | already call seen => exact squared.moved call _ (by rw [seen]; rfl) trivial
  | insert call today unseen free => exact squared.inserted call today free
  | update call row inserted =>
      have mine := squared.honest call
      rw [inserted] at mine
      exact squared.moved call _ (by rw [inserted]; rfl) mine
  | commit call row amount raised => exact squared.commit call row amount raised
  | answer call result committed =>
      have mine := squared.honest call
      rw [committed] at mine
      cases result with
      | none => exact squared.moved call _ (by rw [committed]; rfl) trivial
      | some row => exact squared.moved call _ (by rw [committed]; rfl) mine
  | fail call running => exact squared.dropped call _ rfl trivial
  | rollback call handling => exact squared.moved call _ (by rw [handling]; rfl) trivial
  | apologise call undone => exact squared.moved call _ (by rw [undone]; rfl) trivial

theorem run_squared (squared : Squared charUid start start) (run : CheckRun charUid start bank) : Squared charUid start bank := by
  induction run with
  | refl => exact squared
  | tail _ step ih => exact step_squared ih _ step

def Bank.Opening (bank : Bank Call) : Prop :=
  (bank.attendance.Pairwise (fun a b => a.key ≠ b.key)) ∧ ∀ call, bank.check call = .called

omit [DecidableEq Call] in
theorem opening_squared (opening : start.Opening) : Squared charUid start start where
  unique := by
    have idle (call : Call) : start.table.stake call = .idle := congrArg Check.stake (opening.2 call)
    refine ⟨opening.1, ?_, ?_, ?_⟩
    · exact fun call row stands => absurd ((idle call).symm.trans stands) nofun
    · exact fun call row stands => absurd ((idle call).symm.trans stands) nofun
    · intro first second row other _ mine
      rw [idle first] at mine
      exact absurd mine nofun
  honest := by
    intro call
    rw [opening.2 call]
    trivial
  grown := ⟨[], rfl, fun owner => by simp [paidFor]⟩

def Bank.Paid (bank : Bank Call) (call : Call) (row : AttendanceRow) : Prop := bank.check call = .returned (some row)

theorem attendance_paid_once (opening : start.Opening) (run : CheckRun charUid start bank) :
    (∀ first second row other, bank.Paid first row → bank.Paid second other → row.key = other.key → first = second) ∧
      (∀ call row, bank.Paid call row → row.charUid = charUid call ∧ row ∈ bank.attendance) ∧
      ∃ fresh, bank.attendance = fresh ++ start.attendance ∧
        ∀ owner, bank.gold owner = (start.gold owner).map (fun old => old + paidFor fresh owner) := by
  have squared := run_squared (opening_squared opening) run
  refine ⟨?_, ?_, squared.grown⟩
  · intro first second row other mine yours same
    by_contra apart
    have held (call : Call) (row : AttendanceRow) (paid : bank.Paid call row) : (bank.table.stake call).row = some row :=
      congrArg (fun check => (Check.stake check).row) paid
    exact squared.unique.apart first second row other apart (held first row mine) (held second other yours) same
  · intro call row paid
    have mine := squared.honest call
    rw [paid] at mine
    exact ⟨mine, squared.unique.stored call row (congrArg Check.stake paid)⟩

end Calls

section Alone

variable (db : Database) (owner : CharUid)

def attendanceRows : List AttendanceRow := db.attendance.map (fun row => ⟨row.1, row.2, checkReward⟩)

def storedGold : CharUid → Option Int := fun charUid => (db.character charUid).map (fun row => row.gold.toInt)

def Database.bank : Bank Unit := ⟨attendanceRows db, storedGold db, fun _ => .called⟩

theorem attended_rows : (∀ row ∈ attendanceRows db, row.key ≠ (owner, db.today)) ↔ db.attended owner = false := by
  simp only [attendanceRows, List.forall_mem_map, AttendanceRow.key, Database.attended, decide_eq_false_iff_not]
  exact ⟨fun absent member => absent _ member rfl, fun absent row member same => absent (same ▸ member)⟩

theorem gold_added (charUid : CharUid) : ({ db with characters := db.characters.addGold owner 100 } : Database).character charUid =
    (db.character charUid).map (fun row => { row with gold := if row.charUid = owner then row.gold + 100 else row.gold }) := by
  rw [Database.character, CharacterTable.addGold, List.find?_map]
  rfl

theorem character_uid (charUid : CharUid) (row : CharacterRow) (found : db.character charUid = some row) : row.charUid = charUid := by
  simpa using List.find?_some found

theorem raised_gold_stored (fits : ∀ row, db.character owner = some row → row.gold.toInt + checkReward < 2 ^ 63) :
    raisedGold (storedGold db) owner checkReward = storedGold { db with characters := db.characters.addGold owner 100 } := by
  funext charUid
  rw [raisedGold, storedGold, storedGold, gold_added]
  cases found : db.character charUid with
  | none => rfl
  | some row =>
      have mine := character_uid db charUid row found
      by_cases own : charUid = owner
      · subst own
        have bound : row.gold.toInt + 100 < 2 ^ 63 := fits row found
        have least := Int64.le_toInt row.gold
        have sum : (row.gold + 100).toInt = row.gold.toInt + 100 := by
          rw [Int64.toInt_add, Int.bmod_eq_of_le] <;> simp <;> omega
        simp [mine, sum, checkReward]
      · simp [mine, own]

-- A call that nothing disturbs and whose SELECT sees the table comes to what the
-- procedure comes to as one operation.
theorem check_alone (fits : ∀ row, db.character owner = some row → row.gold.toInt + checkReward < 2 ^ 63) :
    ∃ bank result, CheckRun (fun _ => owner) db.bank bank ∧ bank.check () = .returned result ∧
      bank.attendance = attendanceRows (db.spAttendanceCheck owner).1 ∧ bank.gold = storedGold (db.spAttendanceCheck owner).1 ∧
        (db.spAttendanceCheck owner).2.1 = if result.isSome then 1 else 0 := by
  have started : CheckStep (fun _ => owner) db.bank (db.bank.move () .begun) := .start db.bank () rfl
  have checked : CheckStep (fun _ => owner) (db.bank.move () .begun) ((db.bank.move () .begun).move () (.checked (db.attended owner))) :=
    .select _ () (db.attended owner) (check_self db.bank () .begun)
  have seen := check_self (db.bank.move () .begun) () (.checked (db.attended owner))
  have opened := (Relation.ReflTransGen.single started).tail checked
  rw [Database.spAttendanceCheck]
  cases attended : db.attended owner with
  | true =>
      rw [attended] at seen opened
      have left := opened.tail (CheckStep.already _ () seen)
      have answered := left.tail (CheckStep.answer _ () none (check_self _ () _))
      exact ⟨_, none, answered, check_self _ () _, rfl, rfl, rfl⟩
  | false =>
      rw [attended] at seen opened
      have free : UniqueKey.Free AttendanceRow.key ((db.bank.move () .begun).move () (.checked false)).table (owner, db.today) := by
        refine ⟨(attended_rows db owner).mpr attended, fun call row stands => ?_⟩
        exact absurd ((congrArg Check.stake seen).symm.trans stands) nofun
      have inserted := opened.tail (CheckStep.insert _ () db.today seen free)
      have raised := inserted.tail (CheckStep.update _ () _ (check_self _ () _))
      have committed := raised.tail (CheckStep.commit _ () _ _ (check_self _ () _))
      have answered := committed.tail (CheckStep.answer _ () _ (check_self _ () _))
      exact ⟨_, some _, answered, check_self _ () _, rfl, raised_gold_stored db owner fits, rfl⟩

end Alone

section Race

def quiet : Bank Bool := ⟨[], fun _ => some 0, fun _ => .called⟩

theorem race_run : ∃ bank, CheckRun (fun _ : Bool => 1) quiet bank ∧ bank.Paid false ⟨1, 0, 100⟩ ∧ bank.check true = .returned none ∧
    bank.gold 1 = some 100 := by
  have started : CheckStep (fun _ : Bool => 1) quiet (quiet.move false .begun) := .start quiet false rfl
  have first := (Relation.ReflTransGen.single started).tail (CheckStep.select _ false false (by rfl))
  have both := (first.tail (CheckStep.start _ true (by rfl))).tail (CheckStep.select _ true false (by rfl))
  have nobody : UniqueKey.Free AttendanceRow.key ((((quiet.move false .begun).move false (.checked false)).move true .begun).move true
      (.checked false)).table (1, 0) := by
    refine ⟨fun row member => absurd member List.not_mem_nil, fun call row stands => ?_⟩
    cases call <;> exact absurd stands nofun
  have paid := ((both.tail (CheckStep.insert _ false 0 (by rfl) nobody)).tail (CheckStep.update _ false _ (by rfl))).tail
    (CheckStep.commit _ false _ _ (by rfl))
  have failed := (paid.tail (CheckStep.answer _ false _ (by rfl))).tail (CheckStep.fail _ true trivial)
  have ended := (failed.tail (CheckStep.rollback _ true (by rfl))).tail (CheckStep.apologise _ true (by rfl))
  exact ⟨_, ended, rfl, rfl, rfl⟩

theorem race_pays_once : ∃ bank, CheckRun (fun _ : Bool => 1) quiet bank ∧ bank.Paid false ⟨1, 0, 100⟩ ∧
    ∀ call row, bank.Paid call row → row.key = (1, 0) → call = false := by
  obtain ⟨bank, run, paid, _, _⟩ := race_run
  have opening : quiet.Opening := ⟨List.Pairwise.nil, fun _ => rfl⟩
  obtain ⟨once, _⟩ := attendance_paid_once opening run
  exact ⟨bank, run, paid, fun call row success same => once call false row ⟨1, 0, 100⟩ success paid same⟩

end Race

end MmorpgSimulator
