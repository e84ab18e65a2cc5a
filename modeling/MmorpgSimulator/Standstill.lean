import MmorpgSimulator.PartyNews

set_option autoImplicit false

namespace MmorpgSimulator

section Maps

variable {Key Value : Type} [Ord Key] [Std.TransOrd Key] [Std.LawfulEqOrd Key]

theorem insert_same_iff (map : Std.ExtTreeMap Key Value) (key : Key) (value : Value) :
    map.insert key value = map ↔ map[key]? = some value := by
  constructor
  · intro same
    rw [← same]
    exact Std.ExtTreeMap.getElem?_insert_self
  · intro known
    apply Std.ExtTreeMap.ext_getElem?
    intro other
    rw [Std.ExtTreeMap.getElem?_insert]
    split
    · rename_i here
      rw [← Std.LawfulEqCmp.eq_of_compare here, known]
    · rfl

theorem erase_same_iff (map : Std.ExtTreeMap Key Value) (key : Key) : map.erase key = map ↔ map[key]? = none := by
  constructor
  · intro same
    rw [← same]
    exact Std.ExtTreeMap.getElem?_erase_self
  · intro absent
    apply Std.ExtTreeMap.ext_getElem?
    intro other
    rw [Std.ExtTreeMap.getElem?_erase]
    split
    · rename_i here
      rw [← Std.LawfulEqCmp.eq_of_compare here, absent]
    · rfl

end Maps

def Database.Gone (db : Database) (itemUid : ItemUid) : Prop :=
  (∀ row ∈ db.inventory.rows, row.itemUid = itemUid → row.deleted = true) ∧
    ∀ (charUid : CharUid) (slot : Nat), db.equipment charUid slot ≠ some itemUid

section Procedures

variable (db : Database)

theorem inventory_table_eq (first second : InventoryTable) (rows : first.rows = second.rows) (uid : first.nextUid = second.nextUid) :
    first = second := by
  cases first
  cases second
  cases rows
  cases uid
  rfl

theorem soft_delete_same_iff (table : InventoryTable) (itemUid : ItemUid) :
    table.softDelete itemUid = table ↔ ∀ row ∈ table.rows, row.itemUid = itemUid → row.deleted = true := by
  have kept (row : InventoryRow) : ({ row with deleted := decide (row.itemUid = itemUid) || row.deleted } : InventoryRow) = row ↔
      (row.itemUid = itemUid → row.deleted = true) := by
    cases row
    simp only [InventoryRow.mk.injEq, true_and]
    rw [Bool.or_eq_right_iff_imp, decide_eq_true_iff]
  constructor
  · intro same row member
    have rows := congrArg InventoryTable.rows same
    exact (kept row).mp (List.map_inj_left.mp (rows.trans (List.map_id _).symm) row member)
  · intro gone
    refine inventory_table_eq _ _ ?_ (by rfl)
    exact (List.map_inj_left.mpr (fun row member => (kept row).mpr (gone row member))).trans (List.map_id _)

theorem attendance_check_same_iff (charUid : CharUid) : (db.spAttendanceCheck charUid).1 = db ↔ db.attended charUid = true := by
  rw [Database.spAttendanceCheck]
  split
  · rename_i attended
    exact iff_of_true rfl attended
  · rename_i absent
    refine iff_of_false (fun same => ?_) absent
    exact List.cons_ne_self _ _ (congrArg Database.attendance same)

theorem inventory_remove_same_iff (itemUid : ItemUid) : db.spInventoryRemove itemUid = db ↔ db.Gone itemUid := by
  rw [Database.Gone, ← soft_delete_same_iff]
  constructor
  · intro same
    refine ⟨congrArg Database.inventory same, fun charUid slot worn => ?_⟩
    have taken := congrFun (congrFun (congrArg Database.equipment same) charUid) slot
    simp [Database.spInventoryRemove, worn] at taken
  · rintro ⟨rows, unworn⟩
    have equipment : (db.spInventoryRemove itemUid).equipment = db.equipment := by
      funext charUid slot
      exact if_neg (unworn charUid slot)
    rw [Database.spInventoryRemove] at equipment ⊢
    simp only [rows] at equipment ⊢
    rw [equipment]

theorem equip_item_same_iff (charUid : CharUid) (slot : Nat) (itemUid : ItemUid) :
    db.spEquipItem charUid slot itemUid = db ↔ db.equipment charUid slot = some itemUid := by
  constructor
  · intro same
    have worn := congrFun (congrFun (congrArg Database.equipment same) charUid) slot
    simpa [Database.spEquipItem] using worn.symm
  · intro worn
    have equipment : (db.spEquipItem charUid slot itemUid).equipment = db.equipment := by
      funext owner place
      rw [Database.spEquipItem]
      simp only
      split
      · rename_i here
        rw [here.1, here.2, worn]
      · rfl
    rw [Database.spEquipItem] at equipment ⊢
    simp only at equipment
    rw [equipment]

theorem quest_save_same_iff (charUid : CharUid) (questId : UInt16) (state : QuestProgress) :
    db.spQuestSave charUid questId state = db ↔ (db.questProgress charUid)[questId]? = some state := by
  rw [← insert_same_iff]
  constructor
  · intro same
    have log := congrFun (congrArg Database.questProgress same) charUid
    simpa [Database.spQuestSave] using log
  · intro same
    rw [Database.spQuestSave, same, Function.update_eq_self]

end Procedures

end MmorpgSimulator
