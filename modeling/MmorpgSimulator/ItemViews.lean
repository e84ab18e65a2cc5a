import MmorpgSimulator.Entrance
import MmorpgSimulator.Library.Patches

set_option autoImplicit false

namespace MmorpgSimulator

section Items

def SaysItems : Message → Prop
  | .itemDrop _ | .inventoryUpdate _ | .inventoryList _ => True
  | _ => False

theorem hushed_items (message : Message) (silent : ¬ SaysItems message) : Hushed Client.inventory message := by
  intro client
  cases message with
  | itemDrop drop => exact absurd trivial silent
  | inventoryUpdate upd => exact absurd trivial silent
  | inventoryList list => exact absurd trivial silent
  | charInfo info =>
      rw [Client.receive, Client.onCharInfo]
      split
      · rfl
      · split <;> rfl
  | moveResult result =>
      rw [Client.receive, Client.onMoveResult]
      split <;> rfl
  | attackResult result =>
      rw [Client.receive, Client.onAttackResult]
      split <;> rfl
  | attendanceResult result =>
      rw [Client.receive, Client.onAttendanceResult]
      split <;> rfl
  | equipResult result =>
      rw [Client.receive, Client.onEquipResult]
      split <;> rfl
  | questAcceptResult result =>
      rw [Client.receive, Client.onQuestAcceptResult]
      split <;> rfl
  | questReward reward =>
      rw [Client.receive, Client.onQuestRewardResult]
      split <;> rfl
  | partyLeave leave =>
      rw [Client.receive, Client.onPartyLeaveRecv]
      split <;> rfl
  | _ => rfl

variable (data : GameData) (inv : Inventory)

def listedItem (index : Nat) : Option ItemData :=
  if (inv.slot index).itemTid = 0 then none else data.findItem (inv.slot index).itemTid

def listedSlot (index : Nat) : Option ShownSlot := (listedItem data inv index).map (fun item => ⟨item.id, strncpyS (strncpyS item.name 31) 31⟩)

theorem listed_id (index : Nat) (item : ItemData) (listed : listedItem data inv index = some item) :
    item.id = (inv.slot index).itemTid ∧ item.id ≠ 0 := by
  rw [listedItem] at listed
  split at listed
  · exact absurd listed nofun
  · rename_i holds
    have same := find_item_id data _ item listed
    exact ⟨same, same ▸ holds⟩

theorem inventory_list_items : (inventoryList data inv).items = (List.range maxInventory).filterMap (fun index =>
    (listedItem data inv index).map (fun item => { slot := UInt8.ofNat index, itemId := item.id, itemName := strncpyS item.name 31 })) := by
  rw [inventoryList]
  simp only
  congr 1
  funext index
  rw [listedItem]
  split <;> rfl

theorem inventory_list_fits : ((inventoryList data inv).items).length ≤ maxInventory := by
  rw [inventory_list_items]
  exact (List.length_filterMap_le _ _).trans (List.length_range).le

theorem update_fold (client : Client) (updates : List ScInventoryUpdate) : (updates.foldl Client.onInventoryUpdate client).inventory =
    Patches.patch client.inventory (updates.map (fun upd => (upd.slot.toNat, ⟨upd.itemId, if upd.itemId ≠ 0 then strncpyS upd.itemName 31 else []⟩))) := by
  induction updates generalizing client with
  | nil => rfl
  | cons upd rest ih =>
      rw [List.foldl_cons, ih]
      rfl

theorem listed_writes : (inventoryList data inv).items.map
    (fun upd => (upd.slot.toNat, (⟨upd.itemId, if upd.itemId ≠ 0 then strncpyS upd.itemName 31 else []⟩ : ShownSlot))) =
      Patches.writesBelow maxInventory (listedSlot data inv) := by
  rw [inventory_list_items, Patches.writesBelow, List.map_filterMap]
  apply List.filterMap_congr
  intro index member
  have small : (UInt8.ofNat index).toNat = index := by
    have below : index < 20 := List.mem_range.mp member
    simp only [UInt8.toNat_ofNat']
    omega
  cases listed : listedItem data inv index with
  | none => simp [listedSlot, listed]
  | some item => simp [listedSlot, listed, small, (listed_id data inv index item listed).2]

theorem inventory_list_shown (client : Client) (index : Fin maxInventory) :
    (client.onInventoryList (inventoryList data inv)).inventory[index] = (listedSlot data inv index).getD client.inventory[index] := by
  rw [Client.onInventoryList, List.take_of_length_le (inventory_list_fits data inv), update_fold, listed_writes, Patches.patch_below,
    if_pos index.isLt]

end Items

end MmorpgSimulator
