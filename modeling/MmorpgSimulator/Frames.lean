import MmorpgSimulator.Accounts

set_option autoImplicit false

namespace MmorpgSimulator

-- A transition that only talks, rolls dice, moves NPCs, parties and connections
-- about: what players are, hold and have done stays as it is.
structure Idle (s t : ServerState) : Prop where
  players : ∀ sid, t.player sid = s.player sid
  inventories : ∀ sid, t.inventory sid = s.inventory sid
  logs : ∀ sid, t.questLog sid = s.questLog sid
  here : ∀ sid, sid ∈ s.sessions → sid ∈ t.sessions
  db : t.db = s.db
  plan : s.dbPlan = [] → t.dbPlan = []

-- The fields that login, selection, moves, potions and trade write.
def ProfileWrite (old new : PlayerData) : Prop :=
  new = { old with
    name := new.name, posX := new.posX, posY := new.posY, accountUid := new.accountUid, hp := new.hp, gold := new.gold }

-- The fields that wearing an item writes.
def StatsWrite (old new : PlayerData) : Prop := new = { old with atk := new.atk, defense := new.defense }

-- The fields that experience and level-ups write.
def ProgressWrite (old new : PlayerData) : Prop :=
  new = { old with
    level := new.level, hp := new.hp, maxHp := new.maxHp, atk := new.atk, defense := new.defense, exp := new.exp,
    maxExp := new.maxExp, gold := new.gold }

section Parts

variable {View : Type} (view : PlayerData → View) {old new : PlayerData}

theorem ProfileWrite.view_eq (same : ProfileWrite old new) : view new = view { old with
    name := new.name, posX := new.posX, posY := new.posY, accountUid := new.accountUid, hp := new.hp, gold := new.gold } :=
  congrArg view same

theorem StatsWrite.view_eq (same : StatsWrite old new) : view new = view { old with atk := new.atk, defense := new.defense } :=
  congrArg view same

theorem ProgressWrite.view_eq (same : ProgressWrite old new) : view new = view { old with
    level := new.level, hp := new.hp, maxHp := new.maxHp, atk := new.atk, defense := new.defense, exp := new.exp,
    maxExp := new.maxExp, gold := new.gold } :=
  congrArg view same

end Parts

structure KeepsStock {Row : Type} (proc : Database → Option (Database × Row)) : Prop where
  inventory : ∀ db result, proc db = some result → result.1.inventory = db.inventory
  equipment : ∀ db result, proc db = some result → result.1.equipment = db.equipment
  quests : ∀ db result, proc db = some result → result.1.questProgress = db.questProgress

-- Relations between states that talk stays inside; those that the everyday work
-- of the handlers stays inside; the five that follow add one kind of work each.
structure Talks (R : ServerState → ServerState → Prop) : Prop where
  trans : ∀ {s t u}, R s t → R t u → R s u
  idle : ∀ {s t}, Idle s t → R s t

structure Frame (R : ServerState → ServerState → Prop) : Prop extends Talks R where
  profile : ∀ (s : ServerState) (sid : SessionId) (player : PlayerData), ProfileWrite (s.player sid) player → R s (s.setPlayer sid player)
  call : ∀ (s : ServerState) {Row : Type} (proc : Database → Option (Database × Row)), KeepsStock proc → R s (s.executeProc proc).1

-- These three are about the session whose request is handled.
structure Fills (R : ServerState → ServerState → Prop) (sid : SessionId) : Prop where
  fill : ∀ (s : ServerState) (slot : Nat) (charUid : CharUid) (itemTid : UInt16),
    R s ((addItemToDb s charUid itemTid).1.setInventory sid ((s.inventory sid).setSlot slot ⟨(addItemToDb s charUid itemTid).2, itemTid⟩))
  clear : ∀ (s : ServerState) (slot : Nat), R s (s.setInventory sid ((s.inventory sid).setSlot slot {}))
  remove : ∀ (s : ServerState) (itemUid : ItemUid), R s (removeItemFromDb s itemUid)

structure Wears (R : ServerState → ServerState → Prop) (sid : SessionId) : Prop where
  swap : ∀ (s : ServerState) (slot : Nat) (item : ItemData), R s (s.setInventory sid (equippedInventory (s.inventory sid) slot item))
  stats : ∀ (s : ServerState) (player : PlayerData), StatsWrite (s.player sid) player → R s (s.setPlayer sid player)
  equip : ∀ (s : ServerState) (charUid : CharUid) (slot : Nat) (itemUid : ItemUid), R s (equipItemDb s charUid slot itemUid)

structure Loads (R : ServerState → ServerState → Prop) (sid : SessionId) : Prop where
  load : ∀ (s : ServerState) (inv : Inventory), R s (s.setInventory sid inv)

structure Logs (R : ServerState → ServerState → Prop) : Prop where
  note : ∀ (s : ServerState) (sid : SessionId) (qp : QuestLog), R s (s.setQuestLog sid qp)
  save : ∀ (s : ServerState) (charUid : CharUid) (questId : UInt16) (state : QuestProgress),
    R s (saveQuestProgress s charUid questId state)

-- Between the payment and CheckLevelUp a player may be past the experience of its
-- level, so that stretch has a relation of its own.
structure Grows (R : ServerState → ServerState → Prop) (Paid : SessionId → ServerState → ServerState → Prop) : Prop where
  pay : ∀ {s t : ServerState} (sid : SessionId) (exp gold : UInt32), R s t →
    Paid sid s (t.setPlayer sid (rewarded (t.player sid) exp gold))
  wait : ∀ {s t u : ServerState} {sid : SessionId}, Paid sid s t → R t u → Paid sid s u
  level : ∀ {s t : ServerState} {sid : SessionId}, Paid sid s t → R s (checkLevelUp t sid)

theorem idle_of_fields {s t : ServerState} (sessions : t.sessions = s.sessions) (logs : t.questProgress = s.questProgress)
    (inventories : t.inventories = s.inventories) (db : t.db = s.db) (plan : t.dbPlan = s.dbPlan) : Idle s t where
  players := player_same s t sessions
  inventories := fun sid => by simp only [ServerState.inventory, inventories]
  logs := quest_log_same s t logs
  here := fun sid present => by rwa [sessions]
  db := db
  plan := fun empty => plan.trans empty

theorem idle_touch_quest_log (s : ServerState) (sid : SessionId) : Idle s (s.touchQuestLog sid) :=
  ⟨fun _ => rfl, fun _ => rfl, quest_log_touch s sid, fun _ => id, rfl, id⟩

theorem idle_touch_inventory (s : ServerState) (sid : SessionId) : Idle s (s.touchInventory sid) :=
  ⟨fun _ => rfl, inventory_touch s sid, fun _ => rfl, fun _ => id, rfl, id⟩

theorem idle_do_accept (s : ServerState) : Idle s (doAccept s) := by
  rw [doAccept]
  split
  · exact idle_of_fields rfl rfl rfl rfl rfl
  · rename_i absent
    refine ⟨fun other => ?_, fun _ => rfl, fun _ => rfl, fun other present => ?_, rfl, id⟩
    · simp only [ServerState.player, Std.ExtTreeMap.getElem?_insert]
      split
      · rename_i same
        rw [← Std.compare_eq_iff_eq.mp same, Std.ExtTreeMap.getElem?_eq_none absent]
        rfl
      · rfl
    · exact Std.ExtTreeMap.mem_insert.mpr (.inr present)

theorem idle_set_unconnected (s : ServerState) (sid : SessionId) : Idle s (setUnconnected s sid) := by
  refine ⟨fun other => ?_, fun _ => rfl, fun _ => rfl, fun other present => Std.ExtTreeMap.mem_modify.mpr present, rfl, id⟩
  simp only [ServerState.player, setUnconnected, Std.ExtTreeMap.getElem?_modify]
  split
  · rename_i same
    rw [← Std.compare_eq_iff_eq.mp same]
    cases s.sessions[sid]? <;> rfl
  · rfl

section Procedures

theorem reads_keep_stock {Row : Type} (row : Database → Row) : KeepsStock (fun db => some (db, row db)) := by
  refine ⟨?_, ?_, ?_⟩ <;>
    · intro db result called
      obtain rfl := Option.some.inj called
      rfl

theorem account_login_stock (channelType channelId : Nat) :
    KeepsStock (fun db => some (db.spAccountLogin channelType channelId)) := by
  refine ⟨?_, ?_, ?_⟩ <;>
    · intro db result called
      obtain rfl := Option.some.inj called
      simp only [Database.spAccountLogin]
      split <;> rfl

theorem character_create_stock (accountUid : AccountUid) (arguments : Option (Bytes × UInt8)) :
    KeepsStock (fun db => arguments.bind (fun bound => db.spCharacterCreate accountUid bound.1 bound.2)) := by
  refine ⟨?_, ?_, ?_⟩ <;>
    · intro db result called
      obtain ⟨bound, _, created⟩ := Option.bind_eq_some_iff.mp called
      rw [Database.spCharacterCreate] at created
      split at created
      · exact absurd created nofun
      · obtain rfl := Option.some.inj created
        rfl

theorem character_login_stock (accountUid : AccountUid) (charUid : CharUid) :
    KeepsStock (fun db => db.spCharacterLogin accountUid charUid) := by
  have same (db : Database) (result : Database × (Int32 × Int64 × Int64))
      (called : db.spCharacterLogin accountUid charUid = some result) : result.1 = db := by
    rw [Database.spCharacterLogin] at called
    split at called
    · split at called
      · exact congrArg Prod.fst (Option.some.inj called).symm
      · exact absurd called nofun
    · exact absurd called nofun
  exact ⟨fun db result called => by rw [same db result called], fun db result called => by rw [same db result called],
    fun db result called => by rw [same db result called]⟩

theorem attendance_check_stock (charUid : CharUid) : KeepsStock (fun db => some (db.spAttendanceCheck charUid)) := by
  refine ⟨?_, ?_, ?_⟩ <;>
    · intro db result called
      obtain rfl := Option.some.inj called
      simp only [Database.spAttendanceCheck]
      split <;> rfl

theorem proc_db_keeps {Row View : Type} (s : ServerState) (proc : Database → Option (Database × Row)) (view : Database → View)
    (keeps : ∀ db result, proc db = some result → view result.1 = view db) : view (s.procDb proc) = view s.db := by
  cases result : proc s.db with
  | none => simp only [ServerState.procDb, result]
  | some pair =>
      have same := keeps s.db pair result
      cases outcome : s.outcome <;> simp only [ServerState.procDb, result, outcome, same]

end Procedures

namespace Talks

variable {R : ServerState → ServerState → Prop} (talks : Talks R) {s s' : ServerState} (data : GameData)
include talks

theorem refl (s : ServerState) : R s s := talks.idle (idle_of_fields rfl rfl rfl rfl rfl)

theorem elsewhere (h : R s s') (t : ServerState) (sessions : t.sessions = s'.sessions) (logs : t.questProgress = s'.questProgress)
    (inventories : t.inventories = s'.inventories) (db : t.db = s'.db) (plan : t.dbPlan = s'.dbPlan) : R s t :=
  talks.trans h (talks.idle (idle_of_fields sessions logs inventories db plan))

theorem send (h : R s s') (sid : SessionId) (message : Message) : R s (s'.send sid message) :=
  talks.elsewhere h _ rfl rfl rfl rfl rfl

theorem sendAll (h : R s s') (sid : SessionId) (messages : List Message) : R s (s'.sendAll sid messages) :=
  talks.elsewhere h _ rfl rfl rfl rfl rfl

theorem broadcast (h : R s s') (message : Message) : R s (s'.broadcast message) := talks.elsewhere h _ rfl rfl rfl rfl rfl

theorem broadcastExcept (h : R s s') (exceptId : SessionId) (message : Message) : R s (s'.broadcastExcept exceptId message) :=
  talks.elsewhere h _ rfl rfl rfl rfl rfl

theorem setParty (h : R s s') (party : PartyState) : R s (s'.setParty party) := talks.elsewhere h _ rfl rfl rfl rfl rfl

theorem touchParty (h : R s s') (partyId : UInt32) : R s (s'.touchParty partyId) := talks.elsewhere h _ rfl rfl rfl rfl rfl

theorem fail (h : R s s') (happens : Bool) (reason : Fault) : R s (s'.fail happens reason) :=
  talks.elsewhere h _ rfl rfl rfl rfl rfl

theorem rolled (h : R s s') : R s s'.rolled := talks.elsewhere h _ rfl rfl rfl rfl rfl

theorem touchInventory (h : R s s') (sid : SessionId) : R s (s'.touchInventory sid) :=
  talks.trans h (talks.idle (idle_touch_inventory s' sid))

theorem touchQuestLog (h : R s s') (sid : SessionId) : R s (s'.touchQuestLog sid) :=
  talks.trans h (talks.idle (idle_touch_quest_log s' sid))

omit talks in
theorem ite {condition : Prop} [Decidable condition] {t : ServerState} (yes : condition → R s s') (no : ¬ condition → R s t) :
    R s (if condition then s' else t) := by
  split
  · exact yes ‹_›
  · exact no ‹_›

theorem perhaps {condition : Prop} [Decidable condition] {t : ServerState} (h : R s s') (act : R s' t) :
    R s (if condition then t else s') :=
  ite (fun _ => talks.trans h act) (fun _ => h)

theorem fold {Item : Type} (act : ServerState → Item → ServerState) (same : ∀ t item, R t (act t item)) (items : List Item)
    (h : R s s') : R s (items.foldl act s') :=
  Machine.foldl_keeps act (R s) (fun t item before => talks.trans before (same t item)) items s' h

theorem sendCharInfo (h : R s s') (sid : SessionId) : R s (MmorpgSimulator.sendCharInfo s' sid) := talks.send h _ _

theorem onQuestList (sid : SessionId) : R s (MmorpgSimulator.onQuestList data s sid) := by
  rw [MmorpgSimulator.onQuestList]
  exact ite (fun _ => talks.send (talks.refl s) _ _) (fun _ => talks.send (talks.touchQuestLog (talks.refl s) sid) _ _)

theorem rollDrop (h : R s s') : R s (MmorpgSimulator.rollDrop data s').1 := by
  rw [MmorpgSimulator.rollDrop]
  split
  · exact h
  · exact talks.fail (talks.rolled h) _ _

theorem respawn (h : R s s') : R s (MmorpgSimulator.respawn s') := by
  rw [MmorpgSimulator.respawn]
  split
  · exact h
  · exact talks.elsewhere h _ rfl rfl rfl rfl rfl

theorem strike (sid : SessionId) (index : Fin maxNpc) : R s (MmorpgSimulator.strike s sid index) :=
  talks.elsewhere (talks.refl s) _ rfl rfl rfl rfl rfl

theorem announceDeath (h : R s s') (index : Fin maxNpc) : R s (MmorpgSimulator.announceDeath s' index) :=
  talks.elsewhere h _ rfl rfl rfl rfl rfl

theorem sendPartyUpdate (h : R s s') (partyId : UInt32) : R s (MmorpgSimulator.sendPartyUpdate s' partyId) := by
  rw [MmorpgSimulator.sendPartyUpdate]
  split
  · exact h
  · exact talks.fold _ (fun t mid => talks.send (talks.refl t) mid _) _ h

theorem removeFromParty (h : R s s') (sid : SessionId) : R s (MmorpgSimulator.removeFromParty s' sid) := by
  rw [MmorpgSimulator.removeFromParty]
  split
  · exact h
  · simp only
    have told (members : List SessionId) (message : Message) :=
      talks.fold _ (fun t mid => talks.send (talks.refl t) mid message) members (talks.setParty h (s'.party.without sid))
    split
    · exact talks.setParty h _
    · refine ite (fun _ => ?_) (fun _ => talks.sendPartyUpdate (told _ _) _)
      split
      · exact told _ _
      · exact talks.send (told _ _) _ _

theorem onChat (sid : SessionId) (chat : CsChat) : R s (MmorpgSimulator.onChat s sid chat) := by
  have start := talks.refl s
  rw [MmorpgSimulator.onChat]
  refine ite (fun _ => talks.broadcast start _) (fun _ => ite (fun _ => ?_) (fun _ => ite (fun _ => ?_) (fun _ => start)))
  · refine talks.perhaps (talks.fold _ (fun t other => ?_) _ start) (talks.send (talks.refl _) _ _)
    exact talks.send (talks.send (talks.refl t) other _) sid _
  · split
    · exact talks.fold _ (fun t mid => talks.send (talks.refl t) mid _) _ (talks.touchParty start _)
    · exact talks.send start _ _

theorem onPartyInvite (sid : SessionId) (req : CsPartyInvite) : R s (MmorpgSimulator.onPartyInvite s sid req) := by
  have touched : R s ((s.party.playerParty[sid]?).elim s s.touchParty) := by
    cases s.party.playerParty[sid]? with
    | none => exact talks.refl s
    | some partyId => exact talks.touchParty (talks.refl s) partyId
  rw [MmorpgSimulator.onPartyInvite]
  refine ite (fun _ => talks.send touched _ _) (fun _ => ?_)
  split
  · exact talks.send touched _ _
  · refine ite (fun _ => talks.send touched _ _) (fun _ => ite (fun _ => talks.send touched _ _) (fun _ => ?_))
    exact talks.send (talks.setParty touched _) _ _

theorem joinParty (h : R s s') (sid : SessionId) (partyId : UInt32) : R s (MmorpgSimulator.joinParty s' sid partyId) :=
  ite (fun _ => h) (fun _ => talks.sendPartyUpdate (talks.setParty h _) _)

theorem onPartyAccept (sid : SessionId) (req : CsPartyAccept) : R s (MmorpgSimulator.onPartyAccept s sid req) := by
  have start := talks.refl s
  rw [MmorpgSimulator.onPartyAccept]
  split
  · exact start
  · have answered := talks.setParty start (s.party.withoutInvite sid)
    refine ite (fun _ => answered) (fun _ => ite (fun _ => answered) (fun _ => ?_))
    exact talks.joinParty (talks.touchParty (talks.setParty answered _) _) _ _

end Talks

namespace Frame

variable {R : ServerState → ServerState → Prop} (frame : Frame R) {s s' : ServerState} (data : GameData)
include frame

theorem setPlayer (h : R s s') (sid : SessionId) (player : PlayerData) (same : ProfileWrite (s'.player sid) player) :
    R s (s'.setPlayer sid player) :=
  frame.trans h (frame.profile s' sid player same)

theorem executeProc {Row : Type} (h : R s s') (proc : Database → Option (Database × Row)) (keeps : KeepsStock proc) :
    R s (s'.executeProc proc).1 :=
  frame.trans h (frame.call s' proc keeps)

theorem onMove (sid : SessionId) (move : CsMove) : R s (MmorpgSimulator.onMove s sid move) := by
  refine frame.broadcastExcept (frame.send (frame.setPlayer (frame.refl s) _ _ ?stepped) _ _) _ _
  split <;> exact rfl

theorem sendCharList (h : R s s') (sid : SessionId) : R s (MmorpgSimulator.sendCharList s' sid) :=
  frame.send (frame.fail (frame.executeProc h _ (reads_keep_stock _)) _ _) _ _

theorem onLogin (sid : SessionId) (login : CsLogin) : R s (MmorpgSimulator.onLogin data s sid login) := by
  have called := frame.executeProc (frame.refl s) _ (account_login_stock 0 (channelIdOf data login.accountId))
  exact frame.sendCharList (frame.send (frame.setPlayer called _ _ (by exact rfl)) _ _) sid

theorem onCharCreate (sid : SessionId) (req : CsCharCreate) : R s (MmorpgSimulator.onCharCreate data s sid req) := by
  have called := frame.executeProc (frame.refl s) _
    (character_create_stock (s.player sid).accountUid (data.characterCreateArguments req.name req.charType))
  exact Talks.ite (fun _ => frame.sendCharList (frame.send called _ _) sid) (fun _ => frame.send called _ _)

theorem sendAttendanceInfo (h : R s s') (sid : SessionId) : R s (MmorpgSimulator.sendAttendanceInfo s' sid) :=
  frame.send (frame.executeProc h _ (reads_keep_stock _)) _ _

theorem onAttendanceCheck (sid : SessionId) : R s (MmorpgSimulator.onAttendanceCheck s sid) :=
  frame.send (frame.executeProc (frame.refl s) _ (attendance_check_stock _)) _ _

theorem fetchName (h : R s s') (sid : SessionId) (charUid : CharUid) : R s (MmorpgSimulator.fetchName s' sid charUid) :=
  frame.setPlayer (frame.executeProc h _ (reads_keep_stock _)) _ _ (by exact rfl)

theorem onItemUse {sid : SessionId} (fills : Fills R sid) (req : CsItemUse) : R s (MmorpgSimulator.onItemUse data s sid req) := by
  have touched := frame.touchInventory (frame.refl s) sid
  rw [MmorpgSimulator.onItemUse]
  refine Talks.ite (fun _ => touched) (fun _ => ?_)
  split
  · exact touched
  · refine Talks.ite (fun _ => touched) (fun _ => ?_)
    refine frame.sendCharInfo (frame.send (frame.broadcast (frame.trans ?used (fills.clear _ _)) _) _ _) _
    exact frame.trans (frame.setPlayer touched _ _ (by exact rfl)) (fills.remove _ _)

theorem onShopBuy {sid : SessionId} (fills : Fills R sid) (req : CsShopBuy) : R s (MmorpgSimulator.onShopBuy data s sid req) := by
  have start := frame.refl s
  rw [MmorpgSimulator.onShopBuy]
  split
  · exact frame.send start _ _
  · refine Talks.ite (fun _ => frame.send start _ _) (fun _ => ?_)
    have touched := frame.touchInventory start sid
    simp only
    split
    · exact frame.send touched _ _
    · refine frame.send (frame.send (frame.fail (frame.trans ?paid (fills.fill _ _ _ _)) _ _) _ _) _ _
      exact frame.setPlayer touched _ _ (by exact rfl)

theorem onShopSell {sid : SessionId} (fills : Fills R sid) (req : CsShopSell) : R s (MmorpgSimulator.onShopSell data s sid req) := by
  have touched := frame.touchInventory (frame.refl s) sid
  rw [MmorpgSimulator.onShopSell]
  refine Talks.ite (fun _ => frame.send touched _ _) (fun _ => ?_)
  simp only
  split
  · refine frame.send (frame.send (frame.trans (frame.fail (frame.setPlayer ?paid _ _ (by exact rfl)) _ _) (fills.clear _ _)) _ _) _ _
    exact frame.trans touched (fills.remove _ _)
  · refine frame.send (frame.send (frame.trans (frame.fail (frame.setPlayer ?kept _ _ (by exact rfl)) _ _) (fills.clear _ _)) _ _) _ _
    exact touched

theorem giveItem {sid : SessionId} (fills : Fills R sid) (h : R s s') (itemId : UInt16) : R s (MmorpgSimulator.giveItem data s' sid itemId) := by
  have touched := frame.touchInventory h sid
  rw [MmorpgSimulator.giveItem]
  simp only
  split
  · exact touched
  · split
    · exact touched
    · exact frame.send (frame.trans touched (fills.fill _ _ _ _)) _ _

theorem dropItem {sid : SessionId} (fills : Fills R sid) (h : R s s') : R s (MmorpgSimulator.dropItem data s' sid) := by
  have rolled := frame.rollDrop data h
  exact Talks.ite (fun _ => frame.giveItem data fills rolled _) (fun _ => rolled)

theorem onItemEquip {sid : SessionId} (wears : Wears R sid) (req : CsItemEquip) : R s (MmorpgSimulator.onItemEquip data s sid req) := by
  have touched := frame.touchInventory (frame.refl s) sid
  rw [MmorpgSimulator.onItemEquip]
  refine Talks.ite (fun _ => touched) (fun _ => ?_)
  split
  · exact touched
  · refine Talks.ite (fun _ => frame.send touched _ _) (fun _ => ?_)
    refine frame.sendCharInfo (frame.send (frame.send (frame.trans (frame.trans ?worn (wears.stats _ _ ?same)) (wears.equip _ _ _ _)) _ _) _ _) _
    · exact frame.trans touched (wears.swap _ _ _)
    · change StatsWrite (s.player sid) _
      rw [equippedPlayer]
      split <;> exact rfl

theorem loadInventory {sid : SessionId} (wears : Wears R sid) (loads : Loads R sid) (h : R s s') : R s (MmorpgSimulator.loadInventory data s' sid) := by
  have called {Row : Type} (row : Database → Row) :=
    frame.executeProc (frame.trans h (loads.load s' {})) _ (reads_keep_stock row)
  refine frame.perhaps ?listed (frame.send (frame.refl _) _ _)
  exact frame.send (frame.trans (frame.trans (called _) (loads.load _ _)) (wears.stats _ _ (by exact rfl))) _ _

theorem onQuestAccept (logs : Logs R) (sid : SessionId) (req : CsQuestAccept) : R s (MmorpgSimulator.onQuestAccept data s sid req) := by
  have start := frame.refl s
  rw [MmorpgSimulator.onQuestAccept]
  refine Talks.ite (fun _ => frame.send start _ _) (fun _ => ?_)
  split
  · exact frame.send start _ _
  · have noted := frame.trans start (logs.note s sid ((s.questLog sid).insertIfNew req.questId {}))
    refine Talks.ite (fun _ => frame.send noted _ _) (fun _ => Talks.ite (fun _ => frame.send noted _ _) (fun _ => ?_))
    exact frame.send (frame.trans (frame.trans noted (logs.note _ _ _)) (logs.save _ _ _ _)) _ _

theorem loadQuestProgress (logs : Logs R) (h : R s s') (sid : SessionId) : R s (MmorpgSimulator.loadQuestProgress s' sid) :=
  frame.trans (frame.executeProc h _ (reads_keep_stock _)) (logs.note _ _ _)

theorem updateQuest (logs : Logs R) (sid : SessionId) (t : ServerState) (entry : UInt16 × QuestProgress) :
    R t (MmorpgSimulator.updateQuest data sid t entry) := by
  rw [MmorpgSimulator.updateQuest]
  refine Talks.ite (fun _ => ?_) (fun _ => frame.refl t)
  exact frame.send (frame.trans (logs.note t sid _) (logs.save _ _ _ _)) _ _

theorem updateQuestProgress (logs : Logs R) (h : R s s') (sid : SessionId) : R s (MmorpgSimulator.updateQuestProgress data s' sid) :=
  frame.fold _ (frame.updateQuest data logs sid) _ (frame.touchQuestLog h sid)

variable {Paid : SessionId → ServerState → ServerState → Prop}

theorem creditKill (grows : Grows R Paid) (h : R s s') (sid : SessionId) (exp gold : UInt32) :
    R s (MmorpgSimulator.creditKill s' sid exp gold) :=
  grows.level (grows.wait (grows.pay sid exp gold h) (frame.send (frame.refl _) _ _))

theorem creditMember (grows : Grows R Paid) (logs : Logs R) (sid : SessionId) (exp gold : UInt32) (t : ServerState) (mid : SessionId) :
    R t (MmorpgSimulator.creditMember data sid exp gold t mid) := by
  have credited := frame.creditKill grows (frame.refl t) mid exp gold
  exact Talks.ite (fun _ => frame.refl t) (fun _ => Talks.ite (fun _ => frame.updateQuestProgress data logs credited mid) (fun _ => credited))

theorem shareKill (grows : Grows R Paid) (logs : Logs R) (h : R s s') (sid : SessionId) (npc : Npc) :
    R s (MmorpgSimulator.shareKill data s' sid npc) := by
  rw [MmorpgSimulator.shareKill]
  split
  · exact frame.fold _ (frame.creditMember data grows logs sid _ _) _ (frame.fail (frame.touchParty h _) _ _)
  · exact frame.creditKill grows h sid _ _

theorem killNpc {sid : SessionId} (fills : Fills R sid) (logs : Logs R) (grows : Grows R Paid) (h : R s s') (index : Fin maxNpc) :
    R s (MmorpgSimulator.killNpc data s' sid index) := by
  have shared := frame.shareKill data grows logs (frame.announceDeath h index) sid s'.npcs[index]
  exact frame.respawn (frame.dropItem data fills (frame.updateQuestProgress data logs shared sid))

theorem onAttack {sid : SessionId} (fills : Fills R sid) (logs : Logs R) (grows : Grows R Paid) (atk : CsAttack) :
    R s (MmorpgSimulator.onAttack data s sid atk) := by
  rw [MmorpgSimulator.onAttack]
  split
  · exact frame.send (frame.refl s) _ _
  · exact Talks.ite (fun _ => frame.killNpc data fills logs grows (frame.strike sid _) _) (fun _ => frame.strike sid _)

theorem onQuestComplete {sid : SessionId} (fills : Fills R sid) (logs : Logs R) (grows : Grows R Paid) (req : CsQuestComplete) :
    R s (MmorpgSimulator.onQuestComplete data s sid req) := by
  have start := frame.refl s
  have touched := frame.touchQuestLog start sid
  have saved (t : ServerState) (h : R s t) (qp : QuestLog) (charUid : CharUid) (entry : QuestProgress) :=
    frame.trans (frame.trans h (logs.note t sid qp)) (logs.save _ charUid req.questId entry)
  rw [MmorpgSimulator.onQuestComplete]
  refine Talks.ite (fun _ => frame.send start _ _) (fun _ => ?_)
  cases data.findQuest req.questId with
  | none => exact frame.send start _ _
  | some quest =>
      simp only
      cases ((s.touchQuestLog sid).questLog sid)[req.questId]? with
      | none => exact frame.send touched _ _
      | some state =>
          refine Talks.ite (fun _ => frame.send touched _ _) (fun _ => ?_)
          have paid := grows.pay sid quest.rewardExp quest.rewardGold (saved _ touched
            (((s.touchQuestLog sid).questLog sid).insert req.questId { state with status := 3 }) (s.player sid).charUid
            { state with status := 3 })
          refine frame.send (frame.sendCharInfo (grows.level (grows.wait paid ?given)) _) _ _
          exact frame.send (frame.perhaps (frame.refl _) (frame.giveItem data fills (frame.refl _) _)) _ _

theorem enterGame {sid : SessionId} (wears : Wears R sid) (loads : Loads R sid) (logs : Logs R) (h : R s s') : R s (MmorpgSimulator.enterGame data s' sid) := by
  have greeted := frame.broadcastExcept (frame.sendAll (frame.sendAll (frame.sendCharInfo h sid) sid
    ((s'.npcs.toList.filter Npc.alive).map (fun npc => .npcSpawn (npcSpawnOf npc)))) sid
    (((MmorpgSimulator.sendAllNpcs (MmorpgSimulator.sendCharInfo s' sid) sid).inGame.filter (fun other => other ≠ sid)).map
      (fun other => .charInfo (charInfoOf ((MmorpgSimulator.sendAllNpcs (MmorpgSimulator.sendCharInfo s' sid) sid).player other)))))
    sid (.charInfo (charInfoOf (s'.player sid)))
  exact frame.loadQuestProgress logs (frame.loadInventory data wears loads (frame.sendAttendanceInfo greeted sid)) sid

theorem handleUnworn {sid : SessionId} (fills : Fills R sid) (logs : Logs R) (grows : Grows R Paid) (request : Request)
    (stays : ∀ req, request ≠ .charSelect req) (unworn : ∀ req, request ≠ .itemEquip req) :
    R s (MmorpgSimulator.handle data s sid request) := by
  cases request with
  | login req => exact frame.onLogin data sid req
  | charList => exact frame.sendCharList (frame.refl s) sid
  | charCreate req => exact frame.onCharCreate data sid req
  | charSelect req => exact absurd rfl (stays req)
  | attendanceCheck => exact frame.onAttendanceCheck sid
  | heartbeat => exact frame.send (frame.refl s) _ _
  | move req => exact frame.onMove sid req
  | attack req => exact frame.onAttack data fills logs grows req
  | chat req => exact frame.onChat sid req
  | itemUse req => exact frame.onItemUse data fills req
  | itemEquip req => exact absurd rfl (unworn req)
  | shopOpen => exact frame.send (frame.refl s) _ _
  | shopBuy req => exact frame.onShopBuy data fills req
  | shopSell req => exact frame.onShopSell data fills req
  | questList => exact frame.onQuestList data sid
  | questAccept req => exact frame.onQuestAccept data logs sid req
  | questComplete req => exact frame.onQuestComplete data fills logs grows req
  | partyInvite req => exact frame.onPartyInvite sid req
  | partyAccept req => exact frame.onPartyAccept sid req
  | partyLeave => exact frame.removeFromParty (frame.refl s) sid

theorem handle {sid : SessionId} (fills : Fills R sid) (wears : Wears R sid) (logs : Logs R) (grows : Grows R Paid) (request : Request)
    (stays : ∀ req, request ≠ .charSelect req) : R s (MmorpgSimulator.handle data s sid request) := by
  cases request with
  | itemEquip req => exact frame.onItemEquip data wears req
  | _ => exact frame.handleUnworn data fills logs grows _ stays (fun req => nofun)

end Frame

theorem levelled_progress (player : PlayerData) : ProgressWrite player (levelled player) := by
  have untouched : levelled player = { levelled player with
      name := player.name, posX := player.posX, posY := player.posY, accountUid := player.accountUid,
      charUid := player.charUid, loggedIn := player.loggedIn } := by
    rw [PlayerData.mk.injEq]
    exact ⟨levelled_frame PlayerData.name (fun _ => rfl) player, levelled_frame PlayerData.posX (fun _ => rfl) player,
      levelled_frame PlayerData.posY (fun _ => rfl) player, rfl, rfl, rfl, rfl, rfl, rfl, rfl, rfl,
      levelled_frame PlayerData.accountUid (fun _ => rfl) player, levelled_frame PlayerData.charUid (fun _ => rfl) player,
      levelled_frame PlayerData.loggedIn (fun _ => rfl) player⟩
  exact untouched

theorem grows_of_progress {R : ServerState → ServerState → Prop} (frame : Frame R)
    (progress : ∀ (s : ServerState) (sid : SessionId) (player : PlayerData), ProgressWrite (s.player sid) player → R s (s.setPlayer sid player)) :
    Grows R (fun _ => R) where
  pay := fun sid _ _ h => frame.trans h (progress _ sid _ rfl)
  wait := frame.trans
  level := fun h => frame.sendAll (frame.trans h (progress _ _ _ (levelled_progress _))) _ _

structure Departed (sid : SessionId) (s t : ServerState) : Prop where
  player : t.player sid = {}
  inventory : t.inventory sid = {}
  log : t.questLog sid = ∅
  players : ∀ other, other ≠ sid → t.player other = s.player other
  inventories : ∀ other, other ≠ sid → t.inventory other = s.inventory other
  logs : ∀ other, other ≠ sid → t.questLog other = s.questLog other
  db : t.db = s.db
  gone : sid ∉ t.sessions
  here : ∀ other, other ≠ sid → other ∈ s.sessions → other ∈ t.sessions

theorem idle_talks : Talks Idle where
  trans := fun first second =>
    ⟨fun sid => (second.players sid).trans (first.players sid), fun sid => (second.inventories sid).trans (first.inventories sid),
      fun sid => (second.logs sid).trans (first.logs sid), fun sid present => second.here sid (first.here sid present),
      second.db.trans first.db, fun empty => second.plan (first.plan empty)⟩
  idle := id

theorem on_disconnect_departed (s : ServerState) (sid : SessionId) : Departed sid s (onDisconnect s sid) := by
  have removed : Idle s (removeFromParty s sid) := idle_talks.removeFromParty (idle_talks.refl s) sid
  have fields : (onDisconnect s sid).sessions = (removeFromParty s sid).sessions.erase sid ∧
      (onDisconnect s sid).inventories = (removeFromParty s sid).inventories.erase sid ∧
        (onDisconnect s sid).questProgress = (removeFromParty s sid).questProgress.erase sid ∧
          (onDisconnect s sid).db = (removeFromParty s sid).db := by
    rw [onDisconnect]
    simp only
    split
    · exact ⟨rfl, rfl, rfl, rfl⟩
    · split <;> exact ⟨rfl, rfl, rfl, rfl⟩
  obtain ⟨sessions, inventories, logs, db⟩ := fields
  refine ⟨?_, ?_, ?_, ?_, ?_, ?_, db.trans removed.db, ?_, ?_⟩
  · simp [ServerState.player, sessions]
  · simp [ServerState.inventory, inventories]
  · simp [ServerState.questLog, logs]
  · intro other apart
    rw [← removed.players other]
    simp [ServerState.player, sessions, Std.ExtTreeMap.getElem?_erase, Ne.symm apart]
  · intro other apart
    rw [← removed.inventories other]
    simp [ServerState.inventory, inventories, Std.ExtTreeMap.getElem?_erase, Ne.symm apart]
  · intro other apart
    rw [← removed.logs other]
    simp [ServerState.questLog, logs, Std.ExtTreeMap.getElem?_erase, Ne.symm apart]
  · simp [sessions]
  · intro other apart present
    rw [sessions]
    exact Std.ExtTreeMap.mem_erase.mpr ⟨fun same => apart (Std.compare_eq_iff_eq.mp same).symm, removed.here other present⟩

section Views

variable {View : Type} (view : PlayerData → View)

theorem player_absent (s : ServerState) (sid : SessionId) (absent : sid ∉ s.sessions) : s.player sid = {} := by
  simp [ServerState.player, Std.ExtTreeMap.getElem?_eq_none absent]

theorem player_set_or (s : ServerState) (sid other : SessionId) (player : PlayerData) :
    ((other ≠ sid ∨ sid ∉ s.sessions) ∧ (s.setPlayer sid player).player other = s.player other) ∨
      other = sid ∧ sid ∈ s.sessions ∧ (s.setPlayer sid player).player other = player := by
  by_cases same : other = sid
  · by_cases here : sid ∈ s.sessions
    · exact .inr ⟨same, here, same ▸ player_set_self s sid player here⟩
    · refine .inl ⟨.inr here, ?_⟩
      rw [same, player_absent s sid here, player_absent]
      exact fun present => here ((mem_set_player s sid sid player).mp present)
  · exact .inl ⟨.inl same, player_set_other s sid other player same⟩

def SameView (s t : ServerState) : Prop := ∀ sid, view (t.player sid) = view (s.player sid)

theorem same_view_set (s : ServerState) (sid : SessionId) (player : PlayerData) (same : view player = view (s.player sid)) :
    SameView view s (s.setPlayer sid player) := by
  intro other
  rcases player_set_or s sid other player with ⟨_, still⟩ | ⟨rfl, _, written⟩
  · rw [still]
  · rw [written, same]

theorem same_view_sessions (s t : ServerState) (sessions : t.sessions = s.sessions) : SameView view s t :=
  fun sid => congrArg view (player_same s t sessions sid)

theorem view_frame (profile : ∀ old new, ProfileWrite old new → view new = view old) : Frame (SameView view) where
  trans := fun first second sid => (second sid).trans (first sid)
  idle := fun idle sid => congrArg view (idle.players sid)
  profile := fun s sid player same => same_view_set view s sid player (profile _ _ same)
  call := fun s _ _ _ => same_view_sessions view s _ rfl

theorem view_fills (sid : SessionId) : Fills (SameView view) sid :=
  ⟨fun s _ _ _ => same_view_sessions view s _ rfl, fun s _ => same_view_sessions view s _ rfl,
    fun s _ => same_view_sessions view s _ rfl⟩

theorem view_loads (sid : SessionId) : Loads (SameView view) sid := ⟨fun s _ => same_view_sessions view s _ rfl⟩

theorem view_logs : Logs (SameView view) :=
  ⟨fun s _ _ => same_view_sessions view s _ rfl, fun s _ _ _ => same_view_sessions view s _ rfl⟩

theorem view_wears (stats : ∀ old new, StatsWrite old new → view new = view old) (sid : SessionId) : Wears (SameView view) sid :=
  ⟨fun s _ _ => same_view_sessions view s _ rfl, fun s player same => same_view_set view s sid player (stats _ _ same),
    fun s _ _ _ => same_view_sessions view s _ rfl⟩

end Views

end MmorpgSimulator
