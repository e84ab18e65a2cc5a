import MmorpgSimulator.Stocktaking

set_option autoImplicit false

namespace MmorpgSimulator

def Inventory.Distinct (inv : Inventory) : Prop :=
  ∀ index < maxInventory, (inv.slot index).itemUid ≠ 0 →
    (inv.slot index).itemUid ≠ inv.weapon.itemUid ∧ (inv.slot index).itemUid ≠ inv.armor.itemUid

structure Regained (old new : Inventory) : Prop where
  owned : new.owned = old.owned
  weapon : new.weapon = old.weapon
  armor : new.armor = old.armor
  distinct : new.Distinct

section Reload

variable (db : Database) (charUid : CharUid)

theorem loaded_slot (items : List InventoryRow) (equipment : Nat → Option InventoryRow) (index : Nat) (bound : index < maxInventory) :
    (loadedInventory items equipment).slot index = placedCell items[index]? := by
  have slots : (loadedInventory items equipment).slots = Vector.ofFn (fun index : Fin maxInventory => placedCell items[index.val]?) := rfl
  rw [Inventory.slot, slots]
  simp [bound]

theorem live_row_issued (row : InventoryRow) (live : row ∈ db.liveRows charUid) : row.itemUid ≠ 0 :=
  (db.inventory.issued row (db.live_row_stored charUid row live)).1.ne'

theorem loaded_distinct_iff (few : (db.liveRows charUid).length ≤ maxInventory) :
    (loadedInventory (db.liveRows charUid) (db.equipped charUid)).Distinct ↔ db.Bare charUid := by
  have weapon : (loadedInventory (db.liveRows charUid) (db.equipped charUid)).weapon = placedCell (db.equipped charUid 0) := rfl
  have armor : (loadedInventory (db.liveRows charUid) (db.equipped charUid)).armor = placedCell (db.equipped charUid 1) := rfl
  -- A place that names a live row loads that row.
  have names (place : Nat) (row : InventoryRow) (live : row ∈ db.liveRows charUid) :
      row.itemUid = (placedCell (db.equipped charUid place)).itemUid ↔ db.equipment charUid place = some row.itemUid := by
    rw [eq_comm, placed_uid _ _ (live_row_issued db charUid row live)]
    constructor
    · rintro ⟨found, equipped, same⟩
      obtain ⟨itemUid, named, joined⟩ := Option.bind_eq_some_iff.mp equipped
      have value : found.itemUid = itemUid := by simpa using List.find?_some joined
      rw [named, ← value, same]
    · intro named
      refine ⟨row, ?_, rfl⟩
      rw [Database.equipped, named]
      exact db.found_row row (db.live_row_stored charUid row live)
  rw [Inventory.Distinct, weapon, armor]
  constructor
  · intro distinct place small row live named
    obtain ⟨index, bound, found⟩ := List.getElem_of_mem live
    have fits : index < maxInventory := bound.trans_le few
    have cell : (loadedInventory (db.liveRows charUid) (db.equipped charUid)).slot index = placedCell (some row) := by
      rw [loaded_slot _ _ index fits, List.getElem?_eq_getElem bound, found]
    have apart := distinct index fits
    rw [cell] at apart
    obtain ⟨first, second⟩ := apart (live_row_issued db charUid row live)
    have which : place = 0 ∨ place = 1 := by omega
    rcases which with rfl | rfl
    · exact first ((names 0 row live).mpr named)
    · exact second ((names 1 row live).mpr named)
  · intro bare index bound filled
    rw [loaded_slot _ _ index bound] at filled ⊢
    cases found : (db.liveRows charUid)[index]? with
    | none =>
        rw [found] at filled
        exact absurd rfl filled
    | some row =>
        have live := List.mem_of_getElem? found
        exact ⟨fun same => bare 0 (by decide) row live ((names 0 row live).mp same),
          fun same => bare 1 (by decide) row live ((names 1 row live).mp same)⟩

theorem filed_regained (sid : SessionId) (s : ServerState) (filed : Filed charUid sid s)
    (few : (s.db.liveRows charUid).length ≤ maxInventory) :
    Regained (s.inventory sid) (loadedInventory (s.db.liveRows charUid) (s.db.equipped charUid)) where
  owned := by
    rw [loaded_owned, List.take_of_length_le few, ← Database.stock, Inventory.owned_parts, filed.slotted, filed.weapon, filed.armor]
  weapon := filed.weapon.symm
  armor := filed.armor.symm
  distinct := (loaded_distinct_iff s.db charUid few).mpr filed.bare

theorem selected_filed (data : GameData) (s : ServerState) (sid : SessionId) (req : CsCharSelect) (row : Int32 × Int64 × Int64) (enter : Input)
    (selects : selecting s enter = some (sid, req, row)) (succeeds : enter.dbPlan = [])
    (few : (s.db.liveRows req.charUid).length ≤ maxInventory) (bare : s.db.Bare req.charUid) (issued : s.db.Issued req.charUid) :
    Filed req.charUid sid (step data s enter) := by
  obtain ⟨loaded, db, _, members⟩ := select_items data s sid req enter row selects
  have here := (step_selecting data s sid req enter row selects).1
  have answered : inventoryAnswer enter = .ok := by simp [inventoryAnswer, succeeds]
  obtain ⟨⟨_, _, own⟩, _⟩ := select_view data s sid req PlayerData.charUid (fun _ _ same => same.view_eq PlayerData.charUid)
    (fun _ _ same => same.view_eq PlayerData.charUid) enter row selects
  rw [if_pos answered] at loaded
  refine ⟨(members sid).mpr here, own, ?_, ?_, ?_, ?_, ?_⟩
  · have slots : (loadedInventory (s.db.liveRows req.charUid) (s.db.equipped req.charUid)).slots =
        Vector.ofFn (fun index : Fin maxInventory => placedCell (s.db.liveRows req.charUid)[index.val]?) := rfl
    rw [loaded, db, slots, Vector.toList_ofFn, placed_contents, List.take_of_length_le few, ← Database.stock]
  · rw [loaded, db]
    rfl
  · rw [loaded, db]
    rfl
  · rwa [db]
  · rwa [db]

end Reload

section Steps

variable (data : GameData)

def tablesOf (db : Database) : InventoryTable × (CharUid → Nat → Option ItemUid) := (db.inventory, db.equipment)

def SameTables (s t : ServerState) : Prop := tablesOf t.db = tablesOf s.db

theorem tables_frame : Frame SameTables where
  trans := fun first second => second.trans first
  idle := fun idle => congrArg tablesOf idle.db
  profile := fun _ _ _ _ => rfl
  call := fun s _ proc keeps => proc_db_keeps s proc tablesOf (fun db result called =>
    Prod.ext (keeps.inventory db result called) (keeps.equipment db result called))

theorem tables_logs : Logs SameTables where
  note := fun _ _ _ => rfl
  save := fun s charUid questId state => proc_db_keeps s _ tablesOf (fun db result called => by
    obtain rfl := Option.some.inj called
    rfl)

theorem step_tables (s : ServerState) (input : Input) (plain : ¬ Trading input) : SameTables s (step data s input) := by
  cases selects : selecting s input with
  | some selection => exact congrArg tablesOf (select_items data s selection.1 selection.2.1 input selection.2.2 selects).2.1
  | none =>
      refine tables_frame.step_keeps_of data (fun t => tablesOf t.db = tablesOf s.db) (fun _ _ same kept => same.trans kept) s input selects
        ?works ?departs id rfl
      · intro sid request happens unselected _ _
        exact tables_frame.handlePlain sid data _ tables_logs request (fun trades => plain ⟨sid, request, happens, trades⟩) unselected
      · intro sid _ kept
        rw [(on_disconnect_departed _ sid).db]
        exact kept

theorem run_tables (s : ServerState) (inputs : List Input) (plain : ∀ input ∈ inputs, ¬ Trading input) :
    SameTables s (Machine.run (step data) s inputs) := by
  induction inputs generalizing s with
  | nil => exact rfl
  | cons input rest ih =>
      exact tables_frame.trans (step_tables data s input (plain input List.mem_cons_self))
        (ih (step data s input) (fun later member => plain later (List.mem_cons_of_mem input member)))

variable (charUid : CharUid) (sid : SessionId)

-- The session goes on playing its character, every call succeeds, and nobody else trades.
structure Visits (input : Input) : Prop where
  succeeds : input.dbPlan = []
  stays : StaysInGame sid input
  own : Trading input → ∃ request, input.event = .packet sid request

theorem on_disconnect_plan (s : ServerState) (leaver : SessionId) (plan : s.dbPlan = []) : (onDisconnect s leaver).dbPlan = [] := by
  have removed : (removeFromParty s leaver).dbPlan = [] := (idle_talks.removeFromParty (idle_talks.refl s) leaver).plan plan
  rw [onDisconnect]
  simp only
  split
  · exact removed
  · split <;> exact removed

theorem step_filed (s : ServerState) (input : Input) (visits : Visits sid input) (idle : wearing data sid s input = none)
    (filed : Filed charUid sid s) : Filed charUid sid (step data s input) := by
  have frame := filed_frame charUid sid
  cases selects : selecting s input with
  | some selection =>
      obtain ⟨other, req, row⟩ := selection
      have apart : sid ≠ other := by
        rintro rfl
        exact visits.stays.1 req (selecting_session s sid req input row selects)
      obtain ⟨_, db, others, members⟩ := select_items data s other req input row selects
      obtain ⟨player, inventory⟩ := others sid apart
      exact filed_same charUid sid s _ ((members sid).mpr filed.here) (congrArg PlayerData.charUid player) inventory
        (congrArg Database.inventory db) (congrArg Database.equipment db) filed
  | none =>
      cases condition : s.fault with
      | some fault => rwa [step_dead data s input fault condition]
      | none =>
          -- The calls of the input lie before the handler from the start.
          have again : step data (facing s input) input = step data s input := by simp [step, facing, condition]
          rw [← again]
          refine And.right (frame.step_keeps_of data (fun t => t.dbPlan = [] ∧ Filed charUid sid t) (fun _ _ kept held => kept held.1 held.2)
            (facing s input) input selects ?works ?departs id ⟨visits.succeeds, ?start⟩)
          · intro other request happens unselected here alive
            by_cases own : other = sid
            · subst own
              refine handle_filed charUid other data _ request unselected (fun req same => ?_)
              subst same
              have refused : worn data (s.inventory other) req.slot = none := by simpa [wearing, happens, condition, filed.here] using idle
              exact refused
            · refine frame.handlePlain other data _ (filed_logs charUid sid) request (fun trades => ?_) unselected
              obtain ⟨asked, same⟩ := visits.own ⟨other, request, happens, trades⟩
              rw [happens] at same
              exact own (Event.packet.inj same).1
          · intro leaver happens held
            have apart : sid ≠ leaver := by
              rintro rfl
              exact visits.stays.2 happens
            obtain ⟨plan, kept⟩ := frame.idle (idle_set_unconnected _ leaver) held.1 held.2
            have gone := on_disconnect_departed (setUnconnected (facing (facing s input) input) leaver) leaver
            refine ⟨on_disconnect_plan _ leaver plan, ?_⟩
            exact filed_same charUid sid _ _ (gone.here sid apart kept.here) (congrArg PlayerData.charUid (gone.players sid apart))
              (gone.inventories sid apart) (congrArg Database.inventory gone.db) (congrArg Database.equipment gone.db) kept
          · exact filed_same charUid sid s (facing s input) filed.here rfl rfl rfl rfl filed

theorem equip_item_stored (s : ServerState) (charUid : CharUid) (slot : Nat) (itemUid : ItemUid) (plan : s.dbPlan = []) :
    (equipItemDb s charUid slot itemUid).db = s.db.spEquipItem charUid slot itemUid := by
  simp only [equipItemDb, ServerState.executeProc, ServerState.procDb, ServerState.outcome, plan]
  rfl

theorem step_worn (s : ServerState) (input : Input) (visits : Visits sid input) (item : ItemData) (wears : wearing data sid s input = some item)
    (filed : Filed charUid sid s) : ¬ (step data s input).db.Bare charUid := by
  obtain ⟨event, rolls, dbPlan⟩ := input
  cases event with
  | accept => exact absurd wears (by simp [wearing])
  | writeError other => exact absurd wears (by simp [wearing])
  | disconnect other => exact absurd wears (by simp [wearing])
  | packet other request =>
      cases request with
      | itemEquip req =>
          simp only [wearing, Option.ite_none_right_eq_some] at wears
          obtain ⟨⟨alive, rfl, here⟩, puts⟩ := wears
          obtain ⟨held, known, kind⟩ := worn_item data _ _ item puts
          have plan : dbPlan = [] := visits.succeeds
          obtain ⟨row, live, cell⟩ := s.db.mem_stock charUid _ (filed.slotted ▸ Inventory.slot_among _ req.slot.toNat held.1 held.2)
          have stored : (step data s ⟨.packet other (.itemEquip req), rolls, dbPlan⟩).db = s.db.spEquipItem charUid (equipSlotOf item) row.itemUid := by
            have own : (equippedPlayer (s.player other) item).charUid = charUid := by
              refine Eq.trans ?_ filed.own
              rw [equippedPlayer]
              split <;> rfl
            have uid : ((s.inventory other).slot req.slot.toNat).itemUid = row.itemUid := by rw [← cell]; rfl
            let start := facing s ⟨.packet other (.itemEquip req), rolls, dbPlan⟩
            have before : start.player other = s.player other ∧ start.inventory other = s.inventory other := ⟨rfl, rfl⟩
            rw [step_alive data s _ (Option.isNone_iff_eq_none.mp alive)]
            refine (congrArg ServerState.db (handle_event_here data start other (.itemEquip req) here)).trans ?_
            change (onItemEquip data start other req).db = _
            rw [onItemEquip]
            simp only [inventory_touch, before, occupied_or_refused, if_neg (not_not.mpr held), known, if_neg kind, own, uid]
            exact equip_item_stored _ charUid (equipSlotOf item) row.itemUid plan
          intro bare
          have small : equipSlotOf item < 2 := by
            rw [equipSlotOf]
            split <;> decide
          rw [stored] at bare
          exact bare (equipSlotOf item) small row live (if_pos ⟨rfl, rfl⟩)
      | _ => exact absurd wears (by simp [wearing])

end Steps

section Visit

variable (data : GameData) (charUid : CharUid) (sid : SessionId)

def away (s : ServerState) (between : List Input) : ServerState := Machine.run (step data) s (⟨.disconnect sid, [], []⟩ :: between)

-- The session goes, nothing is traded, and a session selects the character, which has no more than fits.
structure Comeback (s : ServerState) (between : List Input) (again : Input) (visitor : SessionId) (row : Int32 × Int64 × Int64) : Prop where
  few : (s.db.liveRows charUid).length ≤ maxInventory
  plain : ∀ input ∈ between, ¬ Trading input
  succeeds : again.dbPlan = []
  selects : selecting (away data sid s between) again = some (visitor, ⟨charUid⟩, row)

def Returns (s : ServerState) : Prop := ∃ between again visitor row, Comeback data charUid sid s between again visitor row

def RoundTrip (s : ServerState) : Prop :=
  ∀ between again visitor row, Comeback data charUid sid s between again visitor row →
    Regained (s.inventory sid) ((step data (away data sid s between) again).inventory visitor)

theorem comeback_inventory (s : ServerState) (between : List Input) (again : Input) (visitor : SessionId) (row : Int32 × Int64 × Int64)
    (comeback : Comeback data charUid sid s between again visitor row) :
    (step data (away data sid s between) again).inventory visitor = loadedInventory (s.db.liveRows charUid) (s.db.equipped charUid) := by
  have leaves : ¬ Trading ⟨.disconnect sid, [], []⟩ := by
    rintro ⟨_, _, happens, _⟩
    exact absurd happens nofun
  have tables : SameTables s (away data sid s between) := by
    apply run_tables data s
    intro input member
    rcases List.mem_cons.mp member with rfl | later
    · exact leaves
    · exact comeback.plain input later
  have answered : inventoryAnswer again = .ok := by simp [inventoryAnswer, comeback.succeeds]
  have loaded := (select_items data _ visitor ⟨charUid⟩ again row comeback.selects).1
  obtain ⟨table, equipment⟩ := Prod.mk.inj tables
  have worn : (away data sid s between).db.equipped charUid = s.db.equipped charUid := by
    funext place
    simp only [Database.equipped, table, equipment]
  have live : (away data sid s between).db.liveRows charUid = s.db.liveRows charUid := by simp only [Database.liveRows, table]
  rw [loaded, if_pos answered, live, worn]

theorem filed_round_trip (s : ServerState) (filed : Filed charUid sid s) : RoundTrip data charUid sid s := by
  intro between again visitor row comeback
  rw [comeback_inventory data charUid sid s between again visitor row comeback]
  exact filed_regained charUid sid s filed comeback.few

theorem round_trip_bare (s : ServerState) (returns : Returns data charUid sid s) (trip : RoundTrip data charUid sid s) : s.db.Bare charUid := by
  obtain ⟨between, again, visitor, row, comeback⟩ := returns
  have regained := trip between again visitor row comeback
  rw [comeback_inventory data charUid sid s between again visitor row comeback] at regained
  exact (loaded_distinct_iff s.db charUid comeback.few).mp regained.distinct

-- Nothing is put on in the visit, and nothing live was worn when it began: then
-- every return finds the items as they were left; and only then, where there is one
-- from everywhere. (The equipment table names no uid that is still to be issued.)
theorem round_trip_iff_unworn (s : ServerState) (req : CsCharSelect) (row : Int32 × Int64 × Int64) (enter : Input)
    (selects : selecting s enter = some (sid, req, row)) (succeeds : enter.dbPlan = [])
    (few : (s.db.liveRows req.charUid).length ≤ maxInventory) (issued : s.db.Issued req.charUid) (trades : List Input)
    (visits : ∀ input ∈ trades, Visits sid input) :
    (s.db.Bare req.charUid ∧ Machine.Guarded (step data) (fun t input => wearing data sid t input = none) (step data s enter) trades →
      Machine.Throughout (step data) (RoundTrip data req.charUid sid) (step data s enter) trades) ∧
    (Machine.Throughout (step data) (fun t => Returns data req.charUid sid t ∧ RoundTrip data req.charUid sid t) (step data s enter) trades →
      s.db.Bare req.charUid ∧ Machine.Guarded (step data) (fun t input => wearing data sid t input = none) (step data s enter) trades) := by
  have entered (bare : s.db.Bare req.charUid) : Filed req.charUid sid (step data s enter) :=
    selected_filed data s sid req row enter selects succeeds few bare issued
  have exact_ (bare : s.db.Bare req.charUid) :
      Machine.Throughout (step data) (fun t => t.db.Bare req.charUid) (step data s enter) trades ↔
        Machine.Guarded (step data) (fun t input => wearing data sid t input = none) (step data s enter) trades := by
    apply Machine.throughout_iff_guarded_among (step data) _ (Filed req.charUid sid) (Visits sid)
    · exact fun _ filed => filed.bare
    · exact fun t input visits filed idle => step_filed data req.charUid sid t input visits idle filed
    · intro t input visits filed wears
      obtain ⟨item, puts⟩ := Option.ne_none_iff_exists'.mp wears
      exact step_worn data req.charUid sid t input visits item puts filed
    · exact visits
    · exact entered bare
  constructor
  · rintro ⟨bare, idle⟩
    apply Machine.throughout_of_guarded (step data) (fun t input => Visits sid input ∧ wearing data sid t input = none) (Filed req.charUid sid)
    · exact filed_round_trip data req.charUid sid
    · exact fun t input filed guard => step_filed data req.charUid sid t input guard.1 guard.2 filed
    · exact entered bare
    · exact Machine.guarded_among (step data) _ (Visits sid) _ trades visits idle
  · intro holds
    have throughout := Machine.throughout_mono (step data) _ (fun t => t.db.Bare req.charUid)
      (fun t both => round_trip_bare data req.charUid sid t both.1 both.2) _ trades holds
    have db := (select_items data s sid req enter row selects).2.1
    have bare : s.db.Bare req.charUid := by
      have start := Machine.throughout_start (step data) _ _ trades throughout
      rwa [db] at start
    exact ⟨bare, (exact_ bare).mp throughout⟩

end Visit

def landing : ServerState := Machine.run (step shopData) (boot richCharacters (fun _ => 0)) (returning.take 2)

def boarding : Input := ⟨.packet 1 (.charSelect ⟨1⟩), [], []⟩

def reentry : List Input := [⟨.accept, [], []⟩, ⟨.packet 2 (.login ⟨[49]⟩), [], []⟩]

def outfitting : List Input := [⟨.packet 1 (.shopBuy ⟨1⟩), [], []⟩, ⟨.packet 1 (.itemEquip ⟨0⟩), [], []⟩]

theorem outfitting_visits : ∀ input ∈ outfitting, Visits 1 input := by
  intro input member
  simp only [outfitting, List.mem_cons, List.not_mem_nil, or_false] at member
  rcases member with rfl | rfl <;> exact ⟨rfl, ⟨by simp, by simp⟩, fun _ => ⟨_, rfl⟩⟩

theorem reentry_plain : ∀ input ∈ reentry, ¬ Trading input := by
  intro input member
  simp only [reentry, List.mem_cons, List.not_mem_nil, or_false] at member
  rcases member with rfl | rfl
  · rintro ⟨_, _, happens, _⟩
    exact absurd happens nofun
  · rintro ⟨_, request, happens, trades⟩
    obtain ⟨_, rfl⟩ := Event.packet.inj happens
    exact trades

theorem sword_bought_returns :
    Machine.Throughout (step shopData) (RoundTrip shopData 1 1) (step shopData landing boarding) (outfitting.take 1) ∧
      Returns shopData 1 1 (Machine.run (step shopData) (step shopData landing boarding) (outfitting.take 1)) := by
  have visits : ∀ input ∈ (outfitting.take 1), Visits 1 input :=
    fun input member => outfitting_visits input (List.mem_of_mem_take member)
  have trips := round_trip_iff_unworn shopData 1 landing ⟨1⟩ (1, 0, 100) boarding (by decide +kernel) rfl (by decide +kernel)
    (by decide +kernel) (outfitting.take 1) visits
  refine ⟨trips.1 (by decide +kernel), reentry, ⟨.packet 2 (.charSelect ⟨1⟩), [], []⟩, 2, (1, 0, 100), ?_⟩
  exact ⟨by decide +kernel, reentry_plain, rfl, by decide +kernel⟩

theorem sword_worn_returns_twice :
    (selecting landing boarding = some (1, ⟨1⟩, (1, 0, 100)) ∧ (landing.db.liveRows 1).length ≤ maxInventory ∧ landing.db.Issued 1) ∧
      ¬ Machine.Throughout (step shopData) (RoundTrip shopData 1 1) (step shopData landing boarding) outfitting := by
  refine ⟨⟨by decide +kernel, by decide +kernel, by decide +kernel⟩, fun holds => ?_⟩
  have trip := Machine.throughout_run (step shopData) _ _ outfitting [] holds
  have regained := trip reentry ⟨.packet 2 (.charSelect ⟨1⟩), [], []⟩ 2 (1, 0, 100)
    ⟨by decide +kernel, reentry_plain, rfl, by decide +kernel⟩
  exact (regained.distinct 0 (by decide) (by decide +kernel)).2 (by decide +kernel)

end MmorpgSimulator
