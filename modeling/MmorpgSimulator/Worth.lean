import MmorpgSimulator.Holdings

set_option autoImplicit false

namespace MmorpgSimulator

section Value

variable (data : GameData)

def worthOf (cells : Multiset InvSlot) : Nat := (cells.map (fun cell => (priceOf data cell.itemTid).toNat)).sum

def valueOf (s : ServerState) (sid : SessionId) : Nat := (s.gold sid).toNat + worthOf data (s.inventory sid).owned

theorem worth_add (first second : Multiset InvSlot) : worthOf data (first + second) = worthOf data first + worthOf data second := by
  simp [worthOf]

theorem worth_single (cell : InvSlot) : worthOf data {cell} = (priceOf data cell.itemTid).toNat := by
  simp [worthOf]

variable {data}

theorem balanced_value (sid : SessionId) (entry : Entry) (s t : ServerState) (balanced : Balanced sid entry s t)
    (bought : entry.bought = 0) (dropped : entry.dropped = 0) (spent : entry.spent = 0) (fair : entry.earned ≤ worthOf data entry.lost) :
    valueOf data t sid ≤ valueOf data s sid := by
  obtain ⟨gained, ids, items⟩ := balanced.items
  have nothing : gained = 0 := by
    rw [bought, dropped, add_zero] at ids
    exact Multiset.map_eq_zero.mp ids
  have worth : worthOf data (t.inventory sid).owned + worthOf data entry.lost = worthOf data (s.inventory sid).owned := by
    rw [← worth_add, items, nothing, add_zero]
  have gold : (t.gold sid).toNat ≤ (s.gold sid).toNat + entry.earned := by
    by_cases fits : (s.gold sid).toNat + entry.earned < 2 ^ 64
    · have paid := balanced.gold fits
      omega
    · have bound := (t.gold sid).toNat_lt
      omega
  rw [valueOf, valueOf]
  omega

end Value

section Requests

variable (data : GameData) (s : ServerState) (sid : SessionId)

theorem on_item_use_value (req : CsItemUse) : valueOf data (onItemUse data s sid req) sid ≤ valueOf data s sid := by
  have balanced := (on_item_use_booked data s sid req).balanced sid
  rw [if_pos rfl, useEntry] at balanced
  split at balanced
  · exact balanced_value sid _ s _ balanced rfl rfl rfl (Nat.zero_le _)
  · exact balanced_value sid _ s _ balanced rfl rfl rfl (Nat.zero_le _)

theorem on_item_equip_value (req : CsItemEquip) : valueOf data (onItemEquip data s sid req) sid ≤ valueOf data s sid := by
  have balanced := (on_item_equip_booked data s sid req).balanced sid
  rw [if_pos rfl] at balanced
  exact balanced_value sid _ s _ balanced rfl rfl rfl (Nat.zero_le _)

theorem on_shop_sell_value (req : CsShopSell) (here : sid ∈ s.sessions) :
    valueOf data (onShopSell data s sid req) sid ≤ valueOf data s sid := by
  have balanced := (on_shop_sell_booked data s sid req here).balanced sid
  rw [if_pos rfl, sellEntry] at balanced
  split at balanced
  · refine balanced_value sid _ s _ balanced rfl rfl rfl ?_
    rw [worth_single, UInt32.toNat_div]
    exact Nat.div_le_self _ _
  · exact balanced_value sid _ s _ balanced rfl rfl rfl (Nat.zero_le _)

theorem on_shop_buy_value (req : CsShopBuy) (here : sid ∈ s.sessions) :
    valueOf data (onShopBuy data s sid req) sid ≤ valueOf data s sid := by
  rcases on_shop_buy_becomes data s sid req here with ⟨_, after⟩ | ⟨item, slot, uid, _, known, free, enough, after⟩
  · have gold : (onShopBuy data s sid req).gold sid = s.gold sid := after.golds sid
    rw [valueOf, valueOf, after.inventories sid, gold]
  · have gold : (onShopBuy data s sid req).gold sid = (s.player sid).gold - item.price.toUInt64 := by
      rw [ServerState.gold, after.golds sid, Function.update_self]
    have paid := purchase_gold (s.player sid).gold item.price enough
    have price : priceOf data req.itemId = item.price := by simp [priceOf, known]
    obtain ⟨bound, empty⟩ := Inventory.find_empty_slot (s.inventory sid) slot free
    have filled : worthOf data (Cells.single InvSlot.Holds ⟨uid, req.itemId⟩) ≤ item.price.toNat := by
      by_cases full : InvSlot.Holds ⟨uid, req.itemId⟩
      · rw [Cells.single_occupied _ _ full, worth_single, price]
      · rw [Cells.single_empty _ _ full]
        exact Nat.zero_le _
    rw [valueOf, valueOf, gold, after.inventories sid, Function.update_self,
      Inventory.owned_fill_slot (s.inventory sid) slot bound _ empty, worth_add]
    have purse : (s.gold sid).toNat = (s.player sid).gold.toNat := rfl
    omega

end Requests

section Reload

variable (data : GameData)

-- Gold as the character row has it, and the prices of the rows LoadInventory uses.
def reloadedValue (db : Database) (charUid : CharUid) (row : Int32 × Int64 × Int64) : Nat :=
  row.2.2.toUInt64.toNat + worthOf data (Cells.contents InvSlot.Holds ((db.loadedRows charUid).map (fun row => placedCell (some row))))

def coversReload (sid : SessionId) (s : ServerState) (input : Input) : Prop :=
  ∀ selection ∈ selecting s input, selection.1 = sid → reloadedValue data s.db selection.2.1.charUid selection.2.2 ≤ valueOf data s sid

theorem rows_contents (rows : List InventoryRow) (weapon armor : Option InventoryRow) :
    Cells.contents InvSlot.Holds ((rows ++ (weapon.toList ++ armor.toList)).map (fun row => placedCell (some row))) =
      Cells.contents InvSlot.Holds (rows.map (fun row => placedCell (some row))) +
        (Cells.single InvSlot.Holds (placedCell weapon) + Cells.single InvSlot.Holds (placedCell armor)) := by
  have worn (row : Option InventoryRow) : Cells.contents InvSlot.Holds (row.toList.map (fun row => placedCell (some row))) =
      Cells.single InvSlot.Holds (placedCell row) := by
    cases row with
    | none => exact (Cells.single_empty _ _ (fun full => full rfl)).symm
    | some row =>
        rw [Option.toList_some, List.map_singleton, Cells.contents_cons, Cells.contents_nil, add_zero]
  rw [List.map_append, List.map_append, Cells.contents_append, Cells.contents_append, worn, worn]

theorem select_value (s : ServerState) (sid : SessionId) (req : CsCharSelect) (input : Input) (row : Int32 × Int64 × Int64)
    (selects : selecting s input = some (sid, req, row)) (answered : inventoryAnswer input = .ok) :
    valueOf data (step data s input) sid = reloadedValue data s.db req.charUid row := by
  have gold : (step data s input).gold sid = row.2.2.toUInt64 := select_gold data s sid req input row selects
  have items := (select_items data s sid req input row selects).1
  rw [valueOf, gold, items, if_pos answered, loaded_owned, reloadedValue, Database.loadedRows, rows_contents]

-- The traffic of one session that trades, uses and wears items and selects one
-- character again and again, with every database call succeeding.
def TradesAs (sid : SessionId) (charUid : CharUid) (input : Input) : Prop :=
  input.dbPlan = [] ∧ ∃ request, input.event = .packet sid request ∧
    match request with
    | .shopBuy _ | .shopSell _ | .itemUse _ | .itemEquip _ => True
    | .charSelect req => req.charUid = charUid
    | _ => False

theorem step_value (s : ServerState) (sid : SessionId) (charUid : CharUid) (input : Input) (here : sid ∈ s.sessions)
    (trades : TradesAs sid charUid input) :
    valueOf data (step data s input) sid ≤ valueOf data s sid ↔ coversReload data sid s input := by
  obtain ⟨succeeds, request, asks, kind⟩ := trades
  cases selects : selecting s input with
  | some selection =>
      obtain ⟨owner, req, row⟩ := selection
      obtain ⟨rfl, _⟩ : sid = owner ∧ request = .charSelect req := by
        simpa using asks.symm.trans (selecting_session s owner req input row selects)
      have answered : inventoryAnswer input = .ok := by simp [inventoryAnswer, succeeds]
      have covers : coversReload data sid s input ↔ reloadedValue data s.db req.charUid row ≤ valueOf data s sid := by
        simp [coversReload, selects]
      rw [covers, select_value data s sid req input row selects answered]
  | none =>
      have met : coversReload data sid s input := by simp [coversReload, selects]
      refine iff_of_true ?_ met
      cases condition : s.fault with
      | some fault => rw [step_dead data s input fault condition]
      | none =>
          rw [step_alive data s input condition, asks, handle_event_here data (facing s input) sid request here]
          have same : valueOf data (facing s input) sid = valueOf data s sid := rfl
          cases request with
          | shopBuy req => exact on_shop_buy_value data _ sid req here
          | shopSell req => exact on_shop_sell_value data _ sid req here
          | itemUse req => exact on_item_use_value data _ sid req
          | itemEquip req => exact on_item_equip_value data _ sid req
          | charSelect req =>
              have missing : ((facing s input).procReply (loginCall s sid req)).row = none := by
                simpa [selecting, asks, condition, here] using selects
              have refused := on_char_select_missing data (facing s input) sid req missing
              exact (congrArg (fun t => valueOf data t sid) refused).le
          | _ => exact kind.elim

theorem value_never_grows_iff (s : ServerState) (sid : SessionId) (inputs : List Input)
    (trading : ∀ input ∈ inputs, TradesAs sid (s.player sid).charUid input) (here : sid ∈ s.sessions) :
    Machine.Guarded (step data) (fun t input => valueOf data (step data t input) sid ≤ valueOf data t sid) s inputs ↔
      Machine.Guarded (step data) (coversReload data sid) s inputs := by
  apply Machine.guarded_iff_among (step data) _ _ (fun t => sid ∈ t.sessions) (TradesAs sid (s.player sid).charUid)
  · exact fun t input trades present => step_value data t sid _ input present trades
  · rintro t input ⟨_, request, asks, _⟩ present
    exact packet_stays data t input sid request asks sid present
  · exact trading
  · exact here

-- It buys an item, equips it and selects its character again: the purchase is
-- undone and the item is there twice.
def reloading : List Input :=
  [⟨.packet 1 (.shopBuy ⟨1⟩), [], []⟩, ⟨.packet 1 (.itemEquip ⟨0⟩), [], []⟩, ⟨.packet 1 (.charSelect ⟨1⟩), [], []⟩]

theorem reload_creates_value :
    ¬ Machine.Guarded (step shopData) (fun t input => valueOf shopData (step shopData t input) 1 ≤ valueOf shopData t 1) shopper reloading := by
  decide +kernel

theorem reload_then_purchase_fair :
    Machine.Guarded (step shopData) (fun t input => valueOf shopData (step shopData t input) 1 ≤ valueOf shopData t 1) shopper
      [⟨.packet 1 (.charSelect ⟨1⟩), [], []⟩, ⟨.packet 1 (.shopBuy ⟨1⟩), [], []⟩] := by
  have trading : ∀ input ∈ [⟨.packet 1 (.charSelect ⟨1⟩), [], []⟩, ⟨.packet 1 (.shopBuy ⟨1⟩), [], []⟩],
      TradesAs 1 (shopper.player 1).charUid input := by
    have playing : (shopper.player 1).charUid = 1 := by decide +kernel
    rw [playing]
    intro input member
    simp only [List.mem_cons, List.not_mem_nil, or_false] at member
    rcases member with rfl | rfl
    · exact ⟨rfl, .charSelect ⟨1⟩, rfl, rfl⟩
    · exact ⟨rfl, _, rfl, trivial⟩
  refine (value_never_grows_iff shopData shopper 1 _ trading (by decide +kernel)).mpr ?_
  simp only [Machine.Guarded, coversReload]
  decide +kernel

end Reload

end MmorpgSimulator
