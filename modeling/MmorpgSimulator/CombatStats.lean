import MmorpgSimulator.Ledger
import MmorpgSimulator.Progression

set_option autoImplicit false

namespace MmorpgSimulator

section Equip

variable (data : GameData) (s : ServerState) (sid : SessionId)

def worn (inv : Inventory) (slot : UInt8) : Option ItemData :=
  if occupied inv slot then (data.findItem (inv.slot slot.toNat).itemTid).filter (fun item => item.type ≠ consumableType) else none

theorem worn_item (inv : Inventory) (slot : UInt8) (item : ItemData) (wears : worn data inv slot = some item) :
    occupied inv slot ∧ data.findItem (inv.slot slot.toNat).itemTid = some item ∧ item.type ≠ consumableType := by
  rw [worn, Option.ite_none_right_eq_some, Option.filter_eq_some_iff] at wears
  exact ⟨wears.1, wears.2.1, by simpa using wears.2.2⟩

theorem on_item_equip_worn (req : CsItemEquip) (item : ItemData) (here : sid ∈ s.sessions)
    (wears : worn data (s.inventory sid) req.slot = some item) :
    (onItemEquip data s sid req).player sid = equippedPlayer (s.player sid) item ∧
      (onItemEquip data s sid req).inventory sid = equippedInventory (s.inventory sid) req.slot.toNat item := by
  obtain ⟨full, known, kind⟩ := worn_item data _ _ item wears
  rw [onItemEquip]
  simp only [inventory_touch, occupied_or_refused, if_neg (not_not.mpr full), known, if_neg kind]
  exact ⟨player_set_self _ sid _ here, inventory_set_self _ sid _⟩

theorem on_item_equip_others (req : CsItemEquip) (other : SessionId) (apart : other ≠ sid) :
    (onItemEquip data s sid req).player other = s.player other ∧ (onItemEquip data s sid req).inventory other = s.inventory other := by
  have touched : (s.touchInventory sid).player other = s.player other ∧ (s.touchInventory sid).inventory other = s.inventory other :=
    ⟨rfl, inventory_touch s sid other⟩
  rw [onItemEquip]
  simp only
  split
  · exact touched
  · split
    · exact touched
    · split
      · exact touched
      · exact ⟨(player_set_other _ sid other _ apart).trans touched.1, (inventory_set_other _ sid other _ apart).trans touched.2⟩

theorem on_item_equip_unworn {R : ServerState → ServerState → Prop} (talks : Talks R) (req : CsItemEquip)
    (refused : worn data (s.inventory sid) req.slot = none) : R s (onItemEquip data s sid req) := by
  have touched := talks.touchInventory (talks.refl s) sid
  rw [onItemEquip]
  simp only [inventory_touch, occupied_or_refused]
  by_cases full : occupied (s.inventory sid) req.slot
  · rw [if_neg (not_not.mpr full)]
    rw [worn, if_pos full] at refused
    cases known : data.findItem ((s.inventory sid).slot req.slot.toNat).itemTid with
    | none => exact touched
    | some item =>
        have kind : item.type = consumableType := by simpa [known, Option.filter] using refused
        simp only [if_pos kind]
        exact talks.send touched _ _
  · rw [if_pos full]
    exact touched

end Equip

section Law

variable (data : GameData)

def wornAtk (itemTid : UInt16) : UInt16 := if itemTid = 0 then 0 else ((data.findItem itemTid).map ItemData.atk).getD 0

def wornDefense (itemTid : UInt16) : UInt16 := if itemTid = 0 then 0 else ((data.findItem itemTid).map ItemData.defense).getD 0

-- The base values of a fresh character, three points of attack and two of defense
-- for each level gained, and what is worn; in the arithmetic of the fields' types.
structure LawfulStats (player : PlayerData) (inv : Inventory) : Prop where
  atk : player.atk = 15 + 3 * (player.level - 1) + wornAtk data inv.weaponTid
  defense : player.defense = 5 + 2 * (player.level - 1) + wornDefense data inv.armorTid

def levelBonus (item : ItemData) (level : UInt16) : UInt16 :=
  if item.type = weaponType then 3 * (level - 1) else 2 * (level - 1)

theorem level_once_lawful (player : PlayerData) (inv : Inventory) (lawful : LawfulStats data player inv) :
    LawfulStats data (levelOnce player) inv := by
  refine ⟨?_, ?_⟩
  · change player.atk + 3 = 15 + 3 * (player.level + 1 - 1) + wornAtk data inv.weaponTid
    rw [lawful.atk]
    grind
  · change player.defense + 2 = 5 + 2 * (player.level + 1 - 1) + wornDefense data inv.armorTid
    rw [lawful.defense]
    grind

theorem equipped_tids (inv : Inventory) (slot : UInt8) (item : ItemData) :
    (equippedInventory inv slot.toNat item).weaponTid =
        (if item.type = weaponType then (inv.slot slot.toNat).itemTid else inv.weaponTid) ∧
      (equippedInventory inv slot.toNat item).armorTid =
        (if item.type = weaponType then inv.armorTid else (inv.slot slot.toNat).itemTid) := by
  rw [equippedInventory]
  split <;> exact ⟨rfl, rfl⟩

-- An equip keeps to the law exactly where the levels so far count nothing.
theorem equipped_lawful_iff (player : PlayerData) (inv : Inventory) (slot : UInt8) (item : ItemData)
    (wears : worn data inv slot = some item) (lawful : LawfulStats data player inv) :
    LawfulStats data (equippedPlayer player item) (equippedInventory inv slot.toNat item) ↔ levelBonus item player.level = 0 := by
  obtain ⟨full, known, _⟩ := worn_item data inv slot item wears
  obtain ⟨weaponTid, armorTid⟩ := equipped_tids inv slot item
  have atk : wornAtk data (inv.slot slot.toNat).itemTid = item.atk := by rw [wornAtk, if_neg full.2, known]; rfl
  have defense : wornDefense data (inv.slot slot.toNat).itemTid = item.defense := by rw [wornDefense, if_neg full.2, known]; rfl
  by_cases weapon : item.type = weaponType
  · have player' : equippedPlayer player item = { player with atk := 15 + item.atk } := if_pos weapon
    rw [levelBonus, if_pos weapon, player']
    rw [if_pos weapon] at weaponTid armorTid
    constructor
    · intro after
      have law := after.atk
      rw [weaponTid, atk] at law
      simp only at law
      grind
    · intro nothing
      refine ⟨?_, by rw [armorTid]; exact lawful.defense⟩
      rw [weaponTid, atk, nothing, UInt16.add_zero]
  · have player' : equippedPlayer player item = { player with defense := 5 + item.defense } := if_neg weapon
    rw [levelBonus, if_neg weapon, player']
    rw [if_neg weapon] at weaponTid armorTid
    constructor
    · intro after
      have law := after.defense
      rw [armorTid, defense] at law
      simp only at law
      grind
    · intro nothing
      refine ⟨by rw [weaponTid]; exact lawful.atk, ?_⟩
      rw [armorTid, defense, nothing, UInt16.add_zero]

end Law

section Gear

variable (data : GameData) (sid : SessionId)

def statsOf (player : PlayerData) : UInt16 × UInt16 × UInt16 := (player.level, player.atk, player.defense)

def gearOf (inv : Inventory) : UInt16 × UInt16 := (inv.weaponTid, inv.armorTid)

structure SameGear (s t : ServerState) : Prop where
  stats : statsOf (t.player sid) = statsOf (s.player sid)
  gear : gearOf (t.inventory sid) = gearOf (s.inventory sid)

def KeepsLaw (s t : ServerState) : Prop := LawfulStats data (s.player sid) (s.inventory sid) → LawfulStats data (t.player sid) (t.inventory sid)

theorem same_gear_lawful (s t : ServerState) (same : SameGear sid s t) : KeepsLaw data sid s t := by
  intro lawful
  have stats := same.stats
  have gear := same.gear
  simp only [statsOf, gearOf, Prod.mk.injEq] at stats gear
  exact ⟨by rw [stats.2.1, stats.1, gear.1, lawful.atk], by rw [stats.2.2, stats.1, gear.2, lawful.defense]⟩

theorem stats_view (s t : ServerState) (same : SameView statsOf s t) (inventories : t.inventory sid = s.inventory sid) : SameGear sid s t :=
  ⟨same sid, congrArg gearOf inventories⟩

theorem stats_frame : Frame (SameView statsOf) := view_frame statsOf (fun _ _ same => same.view_eq statsOf)

theorem gear_frame : Frame (SameGear sid) where
  trans := fun first second => ⟨second.stats.trans first.stats, second.gear.trans first.gear⟩
  idle := fun idle => stats_view sid _ _ (stats_frame.idle idle) (idle.inventories sid)
  profile := fun s owner player same => stats_view sid _ _ (stats_frame.profile s owner player same) rfl
  call := fun s _ proc keeps => stats_view sid _ _ (stats_frame.call s proc keeps) rfl

theorem gear_set_inventory (s : ServerState) (owner : SessionId) (inv : Inventory) (same : gearOf inv = gearOf (s.inventory owner)) :
    SameGear sid s (s.setInventory owner inv) := by
  refine ⟨rfl, ?_⟩
  by_cases own : sid = owner
  · rw [own, inventory_set_self, same]
  · rw [inventory_set_other s owner sid _ own]

theorem gear_fills (owner : SessionId) : Fills (SameGear sid) owner where
  fill := by
    intro s slot charUid itemTid
    have added : SameGear sid s (addItemToDb s charUid itemTid).1 := ⟨rfl, rfl⟩
    exact (gear_frame sid).trans added (gear_set_inventory sid _ owner _ rfl)
  clear := fun s slot => gear_set_inventory sid s owner _ rfl
  remove := fun _ _ => ⟨rfl, rfl⟩

theorem gear_logs : Logs (SameGear sid) := ⟨fun _ _ _ => ⟨rfl, rfl⟩, fun _ _ _ _ => ⟨rfl, rfl⟩⟩

theorem law_frame : Frame (KeepsLaw data sid) :=
  (gear_frame sid).weaken (same_gear_lawful data sid) (fun first second lawful => second (first lawful))

theorem law_grows : Grows (KeepsLaw data sid) (fun _ => KeepsLaw data sid) where
  pay := by
    intro s t owner exp gold before lawful
    have same : SameGear sid t (t.setPlayer owner (rewarded (t.player owner) exp gold)) :=
      stats_view sid _ _ (same_view_set statsOf t owner _ rfl) rfl
    exact same_gear_lawful data sid _ _ same (before lawful)
  wait := fun first second lawful => second (first lawful)
  level := by
    intro s t owner before lawful
    have held := before lawful
    rcases player_set_or t owner sid (levelled (t.player owner)) with ⟨_, still⟩ | ⟨rfl, _, grown⟩
    · change LawfulStats data ((t.setPlayer owner (levelled (t.player owner))).player sid) (t.inventory sid)
      rwa [still]
    · change LawfulStats data ((t.setPlayer sid (levelled (t.player sid))).player sid) (t.inventory sid)
      rw [grown]
      exact levelled_keeps (fun player => LawfulStats data player (t.inventory sid))
        (fun player _ => level_once_lawful data player (t.inventory sid)) (t.player sid) held

end Gear

section Runs

variable (data : GameData) (sid : SessionId)

def StaysInGame (input : Input) : Prop :=
  (∀ req, input.event ≠ .packet sid (.charSelect req)) ∧ input.event ≠ .disconnect sid

structure DefaultStats (player : PlayerData) (inv : Inventory) : Prop where
  level : player.level = 1
  atk : player.atk = 15
  defense : player.defense = 5
  weapon : inv.weaponTid = 0
  armor : inv.armorTid = 0

theorem default_lawful (player : PlayerData) (inv : Inventory) (fresh : DefaultStats player inv) : LawfulStats data player inv := by
  refine ⟨?_, ?_⟩
  · rw [fresh.atk, fresh.level, fresh.weapon, wornAtk, if_pos rfl]
    decide
  · rw [fresh.defense, fresh.level, fresh.armor, wornDefense, if_pos rfl]
    decide

def wearing (s : ServerState) (input : Input) : Option ItemData :=
  match input.event with
  | .packet other (.itemEquip req) =>
      if s.fault.isNone ∧ other = sid ∧ sid ∈ s.sessions then worn data (s.inventory sid) req.slot else none
  | _ => none

def equipsUnlevelled (s : ServerState) (input : Input) : Prop :=
  ∀ item, wearing data sid s input = some item → levelBonus item (s.player sid).level = 0

instance (s : ServerState) (input : Input) : Decidable (equipsUnlevelled data sid s input) :=
  match wears : wearing data sid s input with
  | none => .isTrue (by simp [equipsUnlevelled, wears])
  | some item => decidable_of_iff (levelBonus item (s.player sid).level = 0) (by simp [equipsUnlevelled, wears])

theorem wearing_equip (s : ServerState) (input : Input) (item : ItemData) (wears : wearing data sid s input = some item) :
    ∃ slot, worn data (s.inventory sid) slot = some item ∧ (step data s input).player sid = equippedPlayer (s.player sid) item ∧
      (step data s input).inventory sid = equippedInventory (s.inventory sid) slot.toNat item := by
  obtain ⟨event, rolls, dbPlan⟩ := input
  cases event with
  | accept => exact absurd wears nofun
  | writeError other => exact absurd wears nofun
  | disconnect other => exact absurd wears nofun
  | packet other request =>
      cases request with
      | itemEquip req =>
          simp only [wearing, Option.ite_none_right_eq_some] at wears
          obtain ⟨⟨alive, rfl, here⟩, puts⟩ := wears
          refine ⟨req.slot, puts, ?_⟩
          rw [step_alive data s _ (Option.isNone_iff_eq_none.mp alive)]
          have handled := handle_event_here data (facing s ⟨.packet other (.itemEquip req), rolls, dbPlan⟩) other (.itemEquip req) here
          rw [handled]
          exact on_item_equip_worn data (facing s ⟨.packet other (.itemEquip req), rolls, dbPlan⟩) other req item here puts
      | _ => exact absurd wears nofun

theorem step_without_equip (s : ServerState) (input : Input) (stays : StaysInGame sid input) (idle : wearing data sid s input = none)
    (selects : selecting s input = none) (lawful : LawfulStats data (s.player sid) (s.inventory sid)) :
    LawfulStats data ((step data s input).player sid) ((step data s input).inventory sid) := by
  refine (law_frame data sid).step_keeps_of data (fun s => LawfulStats data (s.player sid) (s.inventory sid))
    (fun _ _ kept => kept) s input selects ?works ?departs id lawful
  · intro other request happens unselected here alive
    by_cases equips : ∃ req, request = .itemEquip req
    · obtain ⟨req, rfl⟩ := equips
      by_cases own : other = sid
      · subst own
        have refused : worn data (s.inventory other) req.slot = none := by
          simpa [wearing, happens, alive, here] using idle
        exact on_item_equip_unworn data (facing s input) other (law_frame data other).toTalks req refused
      · obtain ⟨player, inventory⟩ := on_item_equip_others data (facing s input) other req sid (Ne.symm own)
        intro held
        change LawfulStats data ((onItemEquip data (facing s input) other req).player sid) ((onItemEquip data (facing s input) other req).inventory sid)
        rwa [player, inventory]
    · exact (law_frame data sid).handleUnworn data ((gear_fills sid other).weaken (same_gear_lawful data sid))
        ((gear_logs sid).weaken (same_gear_lawful data sid)) (law_grows data sid) request unselected
        (fun req same => equips ⟨req, same⟩)
  · intro other happens held
    have apart : sid ≠ other := by
      rintro rfl
      exact stays.2 happens
    have gone := on_disconnect_departed (setUnconnected (facing s input) other) other
    rw [gone.players sid apart, gone.inventories sid apart, (idle_set_unconnected (facing s input) other).players sid]
    exact held

theorem stats_lawful_iff (s : ServerState) (fresh : DefaultStats (s.player sid) (s.inventory sid)) (inputs : List Input)
    (stays : ∀ input ∈ inputs, StaysInGame sid input) :
    Machine.Throughout (step data) (fun s => LawfulStats data (s.player sid) (s.inventory sid)) s inputs ↔
      Machine.Guarded (step data) (equipsUnlevelled data sid) s inputs := by
  apply Machine.throughout_iff_guarded_among (step data) (equipsUnlevelled data sid)
    (fun s => LawfulStats data (s.player sid) (s.inventory sid)) (StaysInGame sid)
  · exact fun _ => id
  · intro s input playing lawful unlevelled
    cases wears : wearing data sid s input with
    | some item =>
        obtain ⟨slot, puts, player, inventory⟩ := wearing_equip data sid s input item wears
        rw [player, inventory]
        exact (equipped_lawful_iff data _ _ slot item puts lawful).mpr (unlevelled item wears)
    | none =>
        cases selects : selecting s input with
        | none => exact step_without_equip data sid s input playing wears selects lawful
        | some selection =>
            obtain ⟨other, req, row⟩ := selection
            have asks := selecting_session s other req input row selects
            have apart : sid ≠ other := by
              rintro rfl
              exact playing.1 req asks
            obtain ⟨player, inventory⟩ := (select_items data s other req input row selects).2.2.1 sid apart
            rwa [player, inventory]
  · intro s input playing lawful unmet after
    obtain ⟨item, wears, forgets⟩ : ∃ item, wearing data sid s input = some item ∧ levelBonus item (s.player sid).level ≠ 0 := by
      simpa [equipsUnlevelled] using unmet
    obtain ⟨slot, puts, player, inventory⟩ := wearing_equip data sid s input item wears
    rw [player, inventory] at after
    exact forgets ((equipped_lawful_iff data _ _ slot item puts lawful).mp after)
  · exact stays
  · exact default_lawful data _ _ fresh

def arenaData : GameData :=
  { emptyData with items := [{ id := 1, name := [83], type := weaponType, atk := 5 }], quests := [⟨1, [81], 1, 0, 100, 0⟩] }

def contender : ServerState :=
  Machine.run (step arenaData) (boot twoCharacters (fun _ => 3)) (returning ++
    [⟨.packet 1 (.move ⟨-3, -3⟩), [], []⟩, ⟨.packet 1 (.questAccept ⟨1⟩), [], []⟩, ⟨.packet 1 (.attack ⟨1⟩), [], []⟩,
      ⟨.packet 1 (.attack ⟨1⟩), [], []⟩, ⟨.packet 1 (.attack ⟨1⟩), [], []⟩, ⟨.packet 1 (.shopBuy ⟨1⟩), [], []⟩])

def equipThenLevel : List Input := [⟨.packet 1 (.itemEquip ⟨0⟩), [], []⟩, ⟨.packet 1 (.questComplete ⟨1⟩), [], []⟩]

def levelThenEquip : List Input := [⟨.packet 1 (.questComplete ⟨1⟩), [], []⟩, ⟨.packet 1 (.itemEquip ⟨0⟩), [], []⟩]

theorem equip_then_level_lawful :
    DefaultStats (contender.player 1) (contender.inventory 1) ∧
      Machine.Throughout (step arenaData) (fun s => LawfulStats arenaData (s.player 1) (s.inventory 1)) contender equipThenLevel := by
  have fresh : DefaultStats (contender.player 1) (contender.inventory 1) :=
    ⟨by decide +kernel, by decide +kernel, by decide +kernel, by decide +kernel, by decide +kernel⟩
  have stays : ∀ input ∈ equipThenLevel, StaysInGame 1 input := by
    intro input member
    simp only [equipThenLevel, List.mem_cons, List.not_mem_nil, or_false] at member
    rcases member with rfl | rfl <;> exact ⟨by simp, by simp⟩
  exact ⟨fresh, (stats_lawful_iff arenaData 1 contender fresh equipThenLevel stays).mpr (by decide +kernel)⟩

theorem equip_and_level_differ :
    DefaultStats (contender.player 1) (contender.inventory 1) ∧
      statsOf ((Machine.run (step arenaData) contender equipThenLevel).player 1) = (2, 23, 7) ∧
      gearOf ((Machine.run (step arenaData) contender equipThenLevel).inventory 1) = (1, 0) ∧
      statsOf ((Machine.run (step arenaData) contender levelThenEquip).player 1) = (2, 20, 7) ∧
      gearOf ((Machine.run (step arenaData) contender levelThenEquip).inventory 1) = (1, 0) :=
  ⟨⟨by decide +kernel, by decide +kernel, by decide +kernel, by decide +kernel, by decide +kernel⟩, by decide +kernel,
    by decide +kernel, by decide +kernel, by decide +kernel⟩

end Runs

end MmorpgSimulator
