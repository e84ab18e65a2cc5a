import MmorpgSimulator.GameData

set_option autoImplicit false

namespace MmorpgSimulator

namespace Inventory

def cells (inv : Inventory) : List InvSlot := inv.slots.toList ++ [inv.weapon, inv.armor]

def owned (inv : Inventory) : Multiset InvSlot := Cells.contents InvSlot.Holds inv.cells

theorem owned_parts (inv : Inventory) :
    inv.owned = Cells.contents InvSlot.Holds inv.slots.toList +
      (Cells.single InvSlot.Holds inv.weapon + Cells.single InvSlot.Holds inv.armor) := by
  simp [owned, cells, Cells.contents_append, Cells.contents_cons]

theorem slot_count (inv : Inventory) : inv.slots.toList.length = maxInventory := by simp

theorem slot_get (inv : Inventory) (index : Nat) (bound : index < inv.slots.toList.length) :
    inv.slot index = inv.slots.toList[index] := by
  have fits : index < maxInventory := by rwa [slot_count] at bound
  simp [slot, fits]

theorem slot_set_slot (inv : Inventory) (index other : Nat) (pair : InvSlot) (bound : index < maxInventory) :
    (inv.setSlot index pair).slot other = if other = index then pair else inv.slot other := by
  rw [slot, setSlot]
  by_cases same : other = index
  · subst same
    simp [bound]
  · have apart : ¬ index = other := Ne.symm same
    simp [slot, same, apart]

theorem owned_set_slot (inv : Inventory) (index : Nat) (bound : index < maxInventory) (pair : InvSlot) :
    (inv.setSlot index pair).owned + Cells.single InvSlot.Holds (inv.slot index) =
      inv.owned + Cells.single InvSlot.Holds pair := by
  have listed : index < inv.slots.toList.length := by rwa [slot_count]
  have traded := Cells.contents_set InvSlot.Holds inv.slots.toList index listed pair
  have written : (inv.setSlot index pair).slots.toList = inv.slots.toList.set index pair := by
    simp [setSlot]
  rw [owned_parts, owned_parts, written, slot_get inv index listed]
  have weapon : (inv.setSlot index pair).weapon = inv.weapon := rfl
  have armor : (inv.setSlot index pair).armor = inv.armor := rfl
  rw [weapon, armor, add_right_comm, traded, add_right_comm]

theorem owned_fill_slot (inv : Inventory) (index : Nat) (bound : index < maxInventory) (pair : InvSlot)
    (empty : (inv.slot index).itemTid = 0) :
    (inv.setSlot index pair).owned = inv.owned + Cells.single InvSlot.Holds pair := by
  have traded := owned_set_slot inv index bound pair
  rwa [Cells.single_empty InvSlot.Holds _ (fun full => full empty), add_zero] at traded

theorem owned_clear_slot (inv : Inventory) (index : Nat) (bound : index < maxInventory) :
    (inv.setSlot index {}).owned + Cells.single InvSlot.Holds (inv.slot index) = inv.owned := by
  have traded := owned_set_slot inv index bound {}
  have blank : ¬ InvSlot.Holds {} := fun full => full rfl
  rwa [Cells.single_empty InvSlot.Holds _ blank, add_zero] at traded

theorem owned_set_weapon (inv : Inventory) (pair : InvSlot) :
    (inv.setWeapon pair).owned + Cells.single InvSlot.Holds inv.weapon = inv.owned + Cells.single InvSlot.Holds pair := by
  have slots : (inv.setWeapon pair).slots = inv.slots := rfl
  have weapon : (inv.setWeapon pair).weapon = pair := rfl
  have armor : (inv.setWeapon pair).armor = inv.armor := rfl
  rw [owned_parts, owned_parts, slots, weapon, armor]
  abel

theorem owned_set_armor (inv : Inventory) (pair : InvSlot) :
    (inv.setArmor pair).owned + Cells.single InvSlot.Holds inv.armor = inv.owned + Cells.single InvSlot.Holds pair := by
  have slots : (inv.setArmor pair).slots = inv.slots := rfl
  have weapon : (inv.setArmor pair).weapon = inv.weapon := rfl
  have armor : (inv.setArmor pair).armor = pair := rfl
  rw [owned_parts, owned_parts, slots, weapon, armor]
  abel

theorem owned_equip_weapon (inv : Inventory) (index : Nat) (bound : index < maxInventory) :
    ((inv.setSlot index inv.weapon).setWeapon (inv.slot index)).owned = inv.owned := by
  have laid := owned_set_slot inv index bound inv.weapon
  have worn := owned_set_weapon (inv.setSlot index inv.weapon) (inv.slot index)
  exact add_right_cancel (worn.trans laid)

theorem owned_equip_armor (inv : Inventory) (index : Nat) (bound : index < maxInventory) :
    ((inv.setSlot index inv.armor).setArmor (inv.slot index)).owned = inv.owned := by
  have laid := owned_set_slot inv index bound inv.armor
  have worn := owned_set_armor (inv.setSlot index inv.armor) (inv.slot index)
  exact add_right_cancel (worn.trans laid)

theorem find_empty_slot (inv : Inventory) (index : Nat) (found : findEmptySlot inv = some index) :
    index < maxInventory ∧ (inv.slot index).itemTid = 0 := by
  obtain ⟨bound, empty, _⟩ := List.findIdx?_eq_some_iff_getElem.mp found
  have fits : index < maxInventory := by rwa [slot_count] at bound
  refine ⟨fits, ?_⟩
  rw [slot_get inv index bound]
  simpa using empty

end Inventory

end MmorpgSimulator
