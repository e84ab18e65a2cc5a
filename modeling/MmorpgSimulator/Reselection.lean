import MmorpgSimulator.ItemViews
import MmorpgSimulator.CombatStats

set_option autoImplicit false

namespace MmorpgSimulator

-- What two sessions have in common, on the server and on the client's inventory page.
structure SamePlay (a b : Scene) (x y : SessionId) : Prop where
  player : a.server.player x = b.server.player y
  inventory : a.server.inventory x = b.server.inventory y
  log : a.server.questLog x = b.server.questLog y
  slots : (a.clients x).inventory = (b.clients y).inventory

-- What a selection leaves as the previous character left it: three fields always,
-- the others where nothing is loaded over them.
structure SameLeftovers (data : GameData) (inv : Inventory) (nameRead : Bool) (p q : PlayerData) (c d : Client) : Prop where
  hp : p.hp = q.hp
  maxHp : p.maxHp = q.maxHp
  maxExp : p.maxExp = q.maxExp
  atk : data.findItem inv.weaponTid = none → p.atk = q.atk
  defense : data.findItem inv.armorTid = none → p.defense = q.defense
  name : nameRead = false → p.name = q.name
  slots : ∀ index : Fin maxInventory, listedItem data inv index = none → getElem c.inventory index index.isLt = getElem d.inventory index index.isLt

section Players

variable (data : GameData) (db : Database) (req : CsCharSelect) (row : Int32 × Int64 × Int64)

def nameRead (outcome : DbOutcome) (charUid : CharUid) : Bool :=
  outcome = .ok ∧ (((db.character charUid).map CharacterRow.charName).filter fetchable).isSome

theorem fetched_name_iff (outcome : DbOutcome) (charUid : CharUid) (old new : Bytes) :
    fetchedName db outcome charUid old = fetchedName db outcome charUid new ↔ (nameRead db outcome charUid = false → old = new) := by
  rw [fetchedName, fetchedName, nameRead]
  by_cases answered : outcome = .ok
  · cases read : ((db.character charUid).map CharacterRow.charName).filter fetchable <;> simp [answered]
  · simp [answered]

theorem worn_iff {Worn : Type} (item : Option Worn) (stat : Worn → UInt16) (old new : UInt16) :
    (item.map stat).getD old = (item.map stat).getD new ↔ (item = none → old = new) := by
  cases item <;> simp

theorem entered_player_iff (input : Input) (p q : PlayerData) (account : p.accountUid = q.accountUid) :
    enteredPlayer data req row db input p = enteredPlayer data req row db input q ↔
      p.hp = q.hp ∧ p.maxHp = q.maxHp ∧ p.maxExp = q.maxExp ∧
        (data.findItem (storedItems db (input.answer 3) req.charUid).weaponTid = none → p.atk = q.atk) ∧
          (data.findItem (storedItems db (input.answer 3) req.charUid).armorTid = none → p.defense = q.defense) ∧
            (nameRead db (input.answer 1) req.charUid = false → p.name = q.name) := by
  rw [← worn_iff (data.findItem (storedItems db (input.answer 3) req.charUid).weaponTid) (fun wep => 15 + wep.atk),
    ← worn_iff (data.findItem (storedItems db (input.answer 3) req.charUid).armorTid) (fun arm => 5 + arm.defense), ← fetched_name_iff]
  simp only [enteredPlayer, named, dressed, selectedPlayer, PlayerData.mk.injEq, account]
  tauto

end Players

section Selections

variable (data : GameData) (s : ServerState) (sid : SessionId) (req : CsCharSelect) (row : Int32 × Int64 × Int64)

theorem greeting_silent (message : Message) (told : message ∈ greeting s sid) : ¬ SaysItems message := by
  rcases List.mem_cons.mp told with rfl | told
  · exact id
  · rcases List.mem_append.mp told with spawn | info
    · obtain ⟨npc, _, rfl⟩ := List.mem_map.mp spawn
      exact id
    · obtain ⟨other, _, rfl⟩ := List.mem_map.mp info
      exact id

theorem outfit_silent (inv : Inventory) (player : PlayerData) (message : Message) (told : message ∈ outfit data inv player) :
    ¬ SaysItems message := by
  rw [outfit] at told
  split at told
  · obtain rfl := List.mem_singleton.mp told
    exact id
  · exact absurd told List.not_mem_nil

theorem hushed_silent (messages : List Message) (silent : ∀ message ∈ messages, ¬ SaysItems message) (client : Client) :
    (messages.foldl Client.receive client).inventory = client.inventory :=
  hushed_fold Client.inventory messages (fun message member => hushed_items message (silent message member)) client

theorem select_slots (clients : SessionId → Client) (input : Input) (selects : selecting s input = some (sid, req, row))
    (fresh : s.sent = []) (open_ : s.line sid = some true) (index : Fin maxInventory) :
    getElem (shown clients (step data s input) sid).inventory index index.isLt =
      (listedSlot data (storedItems s.db (input.answer 3) req.charUid) index).getD (getElem (clients sid).inventory index index.isLt) := by
  have entered := (step_selecting data s sid req input row selects).2.2.2
  obtain ⟨info, inboxes, _⟩ := enter_game_inbox data (admitted (facing s input) sid req row) sid
  have opened := inboxes ((admitted_line s sid req row input sid).trans open_)
  have sent : (admitted (facing s input) sid req row).sent = [] := fresh
  let welcomed := ((greeting (admitted (facing s input) sid req row) sid).foldl Client.receive (clients sid)).receive (.attendanceInfo info)
  have before : welcomed.inventory = (clients sid).inventory :=
    (hushed_items (.attendanceInfo info) id _).trans
      (hushed_silent _ (fun message member => greeting_silent _ sid message member) (clients sid))
  have whole : (shown clients (step data s input) sid).inventory =
      (welcomed.onInventoryList (inventoryList data (storedItems s.db (input.answer 3) req.charUid))).inventory := by
    rw [shown, entered, opened, sent, select_entrance data s sid req row input selects, settling]
    simp only [inbox, List.filterMap_nil, List.nil_append, List.foldl_append, List.foldl_cons]
    exact hushed_silent _ (fun message member => outfit_silent data _ _ message member) _
  have listed := inventory_list_shown data (storedItems s.db (input.answer 3) req.charUid) welcomed index
  rw [← whole, before] at listed
  exact listed

end Selections

section Sessions

variable (data : GameData) (a b : Scene) (x y : SessionId) (req : CsCharSelect) (rolls : List Nat) (dbPlan : List DbOutcome)

def Scene.unsent (scene : Scene) : ServerState := { scene.server with sent := [] }

def selection (sid : SessionId) (req : CsCharSelect) (rolls : List Nat) (dbPlan : List DbOutcome) : Input :=
  ⟨.packet sid (.charSelect req), rolls, dbPlan⟩

include data in
theorem selection_found (s : ServerState) (sid : SessionId) (found : (selecting s (selection sid req rolls dbPlan)).isSome) :
    ∃ row, selecting s (selection sid req rolls dbPlan) = some (sid, req, row) ∧
      ∃ entry, s.db.character req.charUid = some entry ∧ row = (entry.level, entry.exp, entry.gold) := by
  obtain ⟨⟨owner, asked, row⟩, selects⟩ := Option.isSome_iff_exists.mp found
  have event := selecting_session s owner asked _ row selects
  obtain ⟨same, request⟩ := Event.packet.inj event
  obtain rfl := Request.charSelect.inj request
  obtain rfl : sid = owner := same
  have read := (step_selecting data s _ _ _ row selects).2.2.1
  exact ⟨row, selects, login_row (facing s (selection sid req rolls dbPlan)) sid req row read⟩

theorem selected_session (db : Database) (row : Int32 × Int64 × Int64) (rows : a.server.db = db)
    (selects : selecting a.server (selection x req rolls dbPlan) = some (x, req, row)) (open_ : a.server.line x = some true) :
    let next := sceneStep data a (selection x req rolls dbPlan)
    let answers := selection 0 req rolls dbPlan
    next.server.player x = enteredPlayer data req row db answers (a.server.player x) ∧
      next.server.inventory x = storedItems db (answers.answer 3) req.charUid ∧
        next.server.questLog x = (if answers.answer 4 = .ok then db.questProgress req.charUid else ∅) ∧
          ∀ index : Fin maxInventory, getElem (next.clients x).inventory index index.isLt =
            (listedSlot data (storedItems db (answers.answer 3) req.charUid) index).getD (getElem (a.clients x).inventory index index.isLt) := by
  subst rows
  exact ⟨select_player data a.unsent x req row (selection x req rolls dbPlan) selects,
    (select_items data a.unsent x req (selection x req rolls dbPlan) row selects).1,
    select_log data a.unsent x req row (selection x req rolls dbPlan) selects,
    select_slots data a.unsent x req row a.clients (selection x req rolls dbPlan) selects rfl open_⟩

theorem listed_slots_iff (inv : Inventory) (old new : Vector ShownSlot maxInventory) :
    (∀ index : Fin maxInventory, (listedSlot data inv index).getD (getElem old index index.isLt) =
        (listedSlot data inv index).getD (getElem new index index.isLt)) ↔
      ∀ index : Fin maxInventory, listedItem data inv index = none → getElem old index index.isLt = getElem new index index.isLt := by
  apply forall_congr'
  intro index
  rw [listedSlot]
  cases listedItem data inv index <;> simp

theorem selection_forgets_iff (rows : a.server.db = b.server.db) (account : (a.server.player x).accountUid = (b.server.player y).accountUid)
    (foundA : (selecting a.server (selection x req rolls dbPlan)).isSome) (foundB : (selecting b.server (selection y req rolls dbPlan)).isSome)
    (openA : a.server.line x = some true) (openB : b.server.line y = some true) :
    SamePlay (sceneStep data a (selection x req rolls dbPlan)) (sceneStep data b (selection y req rolls dbPlan)) x y ↔
      SameLeftovers data (storedItems a.server.db ((selection x req rolls dbPlan).answer 3) req.charUid)
        (nameRead a.server.db ((selection x req rolls dbPlan).answer 1) req.charUid) (a.server.player x) (b.server.player y) (a.clients x)
          (b.clients y) := by
  obtain ⟨row, selectsA, entry, stored, readA⟩ := selection_found data req rolls dbPlan a.server x foundA
  obtain ⟨rowB, selectsB, other, again, readB⟩ := selection_found data req rolls dbPlan b.server y foundB
  obtain rfl : row = rowB := by
    rw [← rows, stored] at again
    obtain rfl := Option.some.inj again
    exact readA.trans readB.symm
  obtain ⟨playerA, itemsA, logA, slotsA⟩ := selected_session data a x req rolls dbPlan a.server.db row rfl selectsA openA
  obtain ⟨playerB, itemsB, logB, slotsB⟩ := selected_session data b y req rolls dbPlan a.server.db row rows.symm selectsB openB
  have players := entered_player_iff data a.server.db req row (selection 0 req rolls dbPlan) (a.server.player x) (b.server.player y) account
  have slots := listed_slots_iff data (storedItems a.server.db ((selection 0 req rolls dbPlan).answer 3) req.charUid)
    (a.clients x).inventory (b.clients y).inventory
  constructor
  · intro same
    obtain ⟨hp, maxHp, maxExp, atk, defense, name⟩ := players.mp (playerA.symm.trans (same.player.trans playerB))
    refine ⟨hp, maxHp, maxExp, atk, defense, name, slots.mp (fun index => ?_)⟩
    rw [← slotsA index, ← slotsB index, same.slots]
  · intro same
    refine ⟨?_, itemsA.trans itemsB.symm, logA.trans logB.symm, ?_⟩
    · exact playerA.trans ((players.mpr ⟨same.hp, same.maxHp, same.maxExp, same.atk, same.defense, same.name⟩).trans playerB.symm)
    · apply Vector.ext
      intro index bound
      exact (slotsA ⟨index, bound⟩).trans ((slots.mpr same.slots ⟨index, bound⟩).trans (slotsB ⟨index, bound⟩).symm)

end Sessions

def sisterCharacters : Database := { twoCharacters with characters := twoCharacters.characters.add 1 [67] 0 1 0 }

def twoLogins : List Input :=
  [⟨.accept, [], []⟩, ⟨.accept, [], []⟩, ⟨.packet 1 (.login ⟨[49]⟩), [], []⟩, ⟨.packet 2 (.login ⟨[49]⟩), [], []⟩]

def swordBought : List Input :=
  [⟨.packet 1 (.charSelect ⟨1⟩), [], []⟩, ⟨.packet 1 (.shopBuy ⟨1⟩), [], []⟩, ⟨.packet 1 (.itemEquip ⟨0⟩), [], []⟩]

def lobby : Scene := Machine.run (sceneStep arenaData) ⟨boot sisterCharacters (fun _ => 0), fun _ => {}⟩ twoLogins

def armedLobby : Scene := Machine.run (sceneStep arenaData) lobby swordBought

theorem armed_session_keeps_attack :
    (selecting armedLobby.server (selection 1 ⟨3⟩ [] [])).isSome ∧ (selecting armedLobby.server (selection 2 ⟨3⟩ [] [])).isSome ∧
      (armedLobby.server.player 1).accountUid = (armedLobby.server.player 2).accountUid ∧
        armedLobby.server.line 1 = some true ∧ armedLobby.server.line 2 = some true ∧
          ¬ SamePlay (sceneStep arenaData armedLobby (selection 1 ⟨3⟩ [] [])) (sceneStep arenaData armedLobby (selection 2 ⟨3⟩ [] [])) 1 2 := by
  refine ⟨by decide +kernel, by decide +kernel, by decide +kernel, by decide +kernel, by decide +kernel, fun same => ?_⟩
  have attack : ((sceneStep arenaData armedLobby (selection 1 ⟨3⟩ [] [])).server.player 1).atk = 20 ∧
      ((sceneStep arenaData armedLobby (selection 2 ⟨3⟩ [] [])).server.player 2).atk = 15 := by
    decide +kernel
  rw [same.player, attack.2] at attack
  exact absurd attack.1 (by decide)

theorem fresh_sessions_same :
    SamePlay (sceneStep arenaData lobby (selection 1 ⟨3⟩ [] [])) (sceneStep arenaData lobby (selection 2 ⟨3⟩ [] [])) 1 2 := by
  have players : lobby.server.player 1 = lobby.server.player 2 := by decide +kernel
  have clients : (lobby.clients 1).inventory = (lobby.clients 2).inventory := by decide +kernel
  refine (selection_forgets_iff arenaData lobby lobby 1 2 ⟨3⟩ [] [] rfl (congrArg PlayerData.accountUid players) (by decide +kernel)
    (by decide +kernel) (by decide +kernel) (by decide +kernel)).mpr ?_
  rw [players]
  exact ⟨rfl, rfl, rfl, fun _ => rfl, fun _ => rfl, fun _ => rfl, fun index _ => by rw [clients]⟩

end MmorpgSimulator
