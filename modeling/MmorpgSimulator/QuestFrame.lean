import MmorpgSimulator.QuestJournal

set_option autoImplicit false

namespace MmorpgSimulator

-- A transition that leaves every quest as it is, in memory and in the table, and
-- nobody playing another character.
structure SameQuests (s s' : ServerState) : Prop where
  journal : s'.db.questProgress = s.db.questProgress
  logs : ∀ sid, s'.questLog sid = s.questLog sid
  playing : ∀ sid, (s'.player sid).loggedIn = (s.player sid).loggedIn ∧ (s'.player sid).charUid = (s.player sid).charUid
  plan : s.dbPlan = [] → s'.dbPlan = []

def KeepsQuests {Row : Type} (proc : Database → Option (Database × Row)) : Prop :=
  ∀ db result, proc db = some result → result.1.questProgress = db.questProgress

namespace SameQuests

variable {s s' : ServerState}

theorem refl (s : ServerState) : SameQuests s s := ⟨rfl, fun _ => rfl, fun _ => ⟨rfl, rfl⟩, id⟩

theorem trans {t : ServerState} (first : SameQuests s s') (second : SameQuests s' t) : SameQuests s t where
  journal := second.journal.trans first.journal
  logs := fun sid => (second.logs sid).trans (first.logs sid)
  playing := fun sid => ⟨(second.playing sid).1.trans (first.playing sid).1, (second.playing sid).2.trans (first.playing sid).2⟩
  plan := fun empty => second.plan (first.plan empty)

theorem elsewhere (h : SameQuests s s') (t : ServerState) (sessions : t.sessions = s'.sessions)
    (logs : t.questProgress = s'.questProgress) (db : t.db = s'.db) (plan : t.dbPlan = s'.dbPlan) : SameQuests s t where
  journal := by rw [db, h.journal]
  logs := fun sid => (quest_log_same s' t logs sid).trans (h.logs sid)
  playing := by
    intro sid
    rw [player_same s' t sessions sid]
    exact h.playing sid
  plan := fun empty => plan.trans (h.plan empty)

theorem send (h : SameQuests s s') (sid : SessionId) (message : Message) : SameQuests s (s'.send sid message) :=
  h.elsewhere _ rfl rfl rfl rfl

theorem sendAll (h : SameQuests s s') (sid : SessionId) (messages : List Message) : SameQuests s (s'.sendAll sid messages) :=
  h.elsewhere _ rfl rfl rfl rfl

theorem broadcast (h : SameQuests s s') (message : Message) : SameQuests s (s'.broadcast message) :=
  h.elsewhere _ rfl rfl rfl rfl

theorem broadcastExcept (h : SameQuests s s') (exceptId : SessionId) (message : Message) :
    SameQuests s (s'.broadcastExcept exceptId message) :=
  h.elsewhere _ rfl rfl rfl rfl

theorem setInventory (h : SameQuests s s') (sid : SessionId) (inv : Inventory) : SameQuests s (s'.setInventory sid inv) :=
  h.elsewhere _ rfl rfl rfl rfl

theorem touchInventory (h : SameQuests s s') (sid : SessionId) : SameQuests s (s'.touchInventory sid) :=
  h.elsewhere _ rfl rfl rfl rfl

theorem setParty (h : SameQuests s s') (party : PartyState) : SameQuests s (s'.setParty party) :=
  h.elsewhere _ rfl rfl rfl rfl

theorem touchParty (h : SameQuests s s') (partyId : UInt32) : SameQuests s (s'.touchParty partyId) :=
  h.elsewhere _ rfl rfl rfl rfl

theorem fail (h : SameQuests s s') (happens : Bool) (reason : Fault) : SameQuests s (s'.fail happens reason) :=
  h.elsewhere _ rfl rfl rfl rfl

theorem rolled (h : SameQuests s s') : SameQuests s s'.rolled := h.elsewhere _ rfl rfl rfl rfl

theorem ite {condition : Prop} [Decidable condition] {t : ServerState} (yes : condition → SameQuests s s')
    (no : ¬ condition → SameQuests s t) : SameQuests s (if condition then s' else t) := by
  split
  · exact yes ‹_›
  · exact no ‹_›

theorem perhaps {condition : Prop} [Decidable condition] {t : ServerState} (h : SameQuests s s') (act : SameQuests s' t) :
    SameQuests s (if condition then t else s') :=
  ite (fun _ => h.trans act) (fun _ => h)

theorem fold {Item : Type} (act : ServerState → Item → ServerState) (same : ∀ t item, SameQuests t (act t item))
    (items : List Item) (h : SameQuests s s') : SameQuests s (items.foldl act s') :=
  Machine.foldl_keeps act (SameQuests s) (fun t item before => before.trans (same t item)) items s' h

theorem player_or (s : ServerState) (sid other : SessionId) (player : PlayerData) :
    (s.setPlayer sid player).player other = s.player other ∨ other = sid ∧ (s.setPlayer sid player).player other = player := by
  by_cases same : other = sid
  · by_cases here : sid ∈ s.sessions
    · exact .inr ⟨same, same ▸ player_set_self s sid player here⟩
    · refine .inl ?_
      have absent : s.sessions[sid]? = none := Std.ExtTreeMap.getElem?_eq_none here
      simp [ServerState.player, ServerState.setPlayer, same, absent]
  · exact .inl (player_set_other s sid other player same)

theorem setPlayer (h : SameQuests s s') (sid : SessionId) (player : PlayerData)
    (loggedIn : player.loggedIn = (s'.player sid).loggedIn) (charUid : player.charUid = (s'.player sid).charUid) :
    SameQuests s (s'.setPlayer sid player) where
  journal := h.journal
  logs := h.logs
  playing := by
    intro other
    rcases player_or s' sid other player with still | ⟨rfl, written⟩
    · rw [still]
      exact h.playing other
    · rw [written, loggedIn, charUid]
      exact h.playing other
  plan := h.plan

theorem executeProc {Row : Type} (h : SameQuests s s') (proc : Database → Option (Database × Row)) (keeps : KeepsQuests proc) :
    SameQuests s (s'.executeProc proc).1 where
  journal := by
    refine Eq.trans ?_ h.journal
    change (s'.procDb proc).questProgress = s'.db.questProgress
    cases result : proc s'.db with
    | none => simp only [ServerState.procDb, result]
    | some pair =>
        have same := keeps s'.db pair result
        cases outcome : s'.outcome <;> simp only [ServerState.procDb, result, outcome, same]
  logs := h.logs
  playing := h.playing
  plan := by
    intro empty
    change s'.dbPlan.tail = []
    rw [h.plan empty, List.tail_nil]

theorem touchQuestLog (h : SameQuests s s') (sid : SessionId) : SameQuests s (s'.touchQuestLog sid) where
  journal := h.journal
  logs := fun other => (quest_log_touch s' sid other).trans (h.logs other)
  playing := h.playing
  plan := h.plan

end SameQuests

section Handlers

variable {s s' : ServerState} (data : GameData)

theorem reads_keep {Row : Type} (row : Database → Row) : KeepsQuests (fun db => some (db, row db)) := by
  intro db result called
  obtain rfl := Option.some.inj called
  rfl

theorem writes_keep {Row : Type} (write : Database → Database) (row : Database → Row)
    (keeps : ∀ db, (write db).questProgress = db.questProgress) : KeepsQuests (fun db => some (write db, row db)) := by
  intro db result called
  obtain rfl := Option.some.inj called
  exact keeps db

theorem send_char_info_same (h : SameQuests s s') (sid : SessionId) : SameQuests s (sendCharInfo s' sid) := h.send _ _

theorem check_level_up_same (h : SameQuests s s') (sid : SessionId) : SameQuests s (checkLevelUp s' sid) := by
  have loggedIn : (levelled (s'.player sid)).loggedIn = (s'.player sid).loggedIn :=
    levelled_frame PlayerData.loggedIn (fun _ => rfl) _
  have charUid : (levelled (s'.player sid)).charUid = (s'.player sid).charUid :=
    levelled_frame PlayerData.charUid (fun _ => rfl) _
  exact (h.setPlayer sid _ loggedIn charUid).sendAll _ _

theorem on_move_same (sid : SessionId) (move : CsMove) : SameQuests s (onMove s sid move) := by
  refine ((SameQuests.setPlayer (SameQuests.refl s) _ _ ?loggedIn ?charUid).send _ _).broadcastExcept _ _
  · split <;> rfl
  · split <;> rfl

theorem add_item_same (h : SameQuests s s') (charUid : CharUid) (itemTid : UInt16) : SameQuests s (addItemToDb s' charUid itemTid).1 :=
  h.executeProc _ (writes_keep (fun db => (db.spInventoryAdd charUid itemTid).1) _ (fun _ => rfl))

theorem remove_item_same (h : SameQuests s s') (itemUid : ItemUid) : SameQuests s (removeItemFromDb s' itemUid) :=
  h.executeProc _ (writes_keep _ _ (fun _ => rfl))

theorem equip_item_same (h : SameQuests s s') (charUid : CharUid) (slot : Nat) (itemUid : ItemUid) :
    SameQuests s (equipItemDb s' charUid slot itemUid) :=
  h.executeProc _ (writes_keep _ _ (fun _ => rfl))

theorem on_item_use_same (sid : SessionId) (req : CsItemUse) : SameQuests s (onItemUse data s sid req) := by
  have touched := (SameQuests.refl s).touchInventory sid
  rw [onItemUse]
  refine SameQuests.ite (fun _ => touched) (fun _ => ?_)
  split
  · exact touched
  · refine SameQuests.ite (fun _ => touched) (fun _ => ?_)
    refine send_char_info_same (SameQuests.send (SameQuests.broadcast ?used _) _ _) _
    exact (remove_item_same (touched.setPlayer _ _ (by rfl) (by rfl)) _).setInventory _ _

theorem equipped_player_identity (player : PlayerData) (item : ItemData) :
    (equippedPlayer player item).loggedIn = player.loggedIn ∧ (equippedPlayer player item).charUid = player.charUid := by
  rw [equippedPlayer]
  split <;> exact ⟨rfl, rfl⟩

theorem on_item_equip_same (sid : SessionId) (req : CsItemEquip) : SameQuests s (onItemEquip data s sid req) := by
  have touched := (SameQuests.refl s).touchInventory sid
  rw [onItemEquip]
  refine SameQuests.ite (fun _ => touched) (fun _ => ?_)
  split
  · exact touched
  · refine SameQuests.ite (fun _ => touched.send _ _) (fun _ => ?_)
    refine send_char_info_same (SameQuests.send (SameQuests.send ?worn _ _) _ _) _
    refine equip_item_same ((touched.setInventory _ _).setPlayer _ _ ?loggedIn ?charUid) _ _ _
    · exact (equipped_player_identity (s.player sid) _).1
    · exact (equipped_player_identity (s.player sid) _).2

theorem on_shop_buy_same (sid : SessionId) (req : CsShopBuy) : SameQuests s (onShopBuy data s sid req) := by
  have start := SameQuests.refl s
  rw [onShopBuy]
  split
  · exact start.send _ _
  · refine SameQuests.ite (fun _ => start.send _ _) (fun _ => ?_)
    have touched := start.touchInventory sid
    simp only
    split
    · exact touched.send _ _
    · refine SameQuests.send (SameQuests.send (SameQuests.fail ?added _ _) _ _) _ _
      exact (add_item_same (touched.setPlayer _ _ (by rfl) (by rfl)) _ _).setInventory _ _

theorem on_shop_sell_same (sid : SessionId) (req : CsShopSell) : SameQuests s (onShopSell data s sid req) := by
  have touched := (SameQuests.refl s).touchInventory sid
  rw [onShopSell]
  refine SameQuests.ite (fun _ => touched.send _ _) (fun _ => ?_)
  refine SameQuests.send (SameQuests.send (SameQuests.setInventory (SameQuests.fail ?paid _ _) _ _) _ _) _ _
  refine (SameQuests.ite (fun _ => remove_item_same touched _) (fun _ => touched)).setPlayer _ _ ?loggedIn ?charUid
  · split <;> rfl
  · split <;> rfl

theorem give_item_same (h : SameQuests s s') (sid : SessionId) (itemId : UInt16) : SameQuests s (giveItem data s' sid itemId) := by
  have touched := h.touchInventory sid
  rw [giveItem]
  simp only
  split
  · exact touched
  · split
    · exact touched
    · exact ((add_item_same touched _ _).setInventory _ _).send _ _

theorem on_quest_list_same (sid : SessionId) : SameQuests s (onQuestList data s sid) := by
  rw [onQuestList]
  split
  · exact (SameQuests.refl s).send _ _
  · exact ((SameQuests.refl s).touchQuestLog sid).send _ _

theorem send_char_list_same (h : SameQuests s s') (sid : SessionId) : SameQuests s (sendCharList s' sid) :=
  ((h.executeProc _ (reads_keep _)).fail _ _).send _ _

theorem account_login_keeps (channelType channelId : Nat) : KeepsQuests (fun db => some (db.spAccountLogin channelType channelId)) := by
  intro db result called
  obtain rfl := Option.some.inj called
  simp only [Database.spAccountLogin]
  split <;> rfl

theorem on_login_same (sid : SessionId) (login : CsLogin) : SameQuests s (onLogin data s sid login) := by
  have called := (SameQuests.refl s).executeProc _ (account_login_keeps 0 (channelIdOf data login.accountId))
  exact send_char_list_same ((called.setPlayer _ _ (by rfl) (by rfl)).send _ _) sid

theorem character_create_keeps (accountUid : AccountUid) (arguments : Option (Bytes × UInt8)) :
    KeepsQuests (fun db => arguments.bind (fun bound => db.spCharacterCreate accountUid bound.1 bound.2)) := by
  intro db result called
  obtain ⟨bound, _, created⟩ := Option.bind_eq_some_iff.mp called
  rw [Database.spCharacterCreate] at created
  split at created
  · exact absurd created nofun
  · obtain rfl := Option.some.inj created
    rfl

theorem on_char_create_same (sid : SessionId) (req : CsCharCreate) : SameQuests s (onCharCreate data s sid req) := by
  have called := (SameQuests.refl s).executeProc _
    (character_create_keeps (s.player sid).accountUid (data.characterCreateArguments req.name req.charType))
  exact SameQuests.ite (fun _ => send_char_list_same (called.send _ _) sid) (fun _ => called.send _ _)

theorem send_attendance_info_same (h : SameQuests s s') (sid : SessionId) : SameQuests s (sendAttendanceInfo s' sid) :=
  (h.executeProc _ (reads_keep _)).send _ _

theorem attendance_check_keeps (charUid : CharUid) : KeepsQuests (fun db => some (db.spAttendanceCheck charUid)) := by
  intro db result called
  obtain rfl := Option.some.inj called
  simp only [Database.spAttendanceCheck]
  split <;> rfl

theorem on_attendance_check_same (sid : SessionId) : SameQuests s (onAttendanceCheck s sid) :=
  ((SameQuests.refl s).executeProc _ (attendance_check_keeps _)).send _ _

theorem load_inventory_same (h : SameQuests s s') (sid : SessionId) : SameQuests s (loadInventory data s' sid) := by
  have called {Row : Type} (row : Database → Row) := (h.setInventory sid {}).executeProc _ (reads_keep row)
  refine SameQuests.perhaps ?listed ((SameQuests.refl _).send _ _)
  exact (((called _).setInventory _ _).setPlayer _ _ (by rfl) (by rfl)).send _ _

theorem fetch_name_same (h : SameQuests s s') (sid : SessionId) (charUid : CharUid) : SameQuests s (fetchName s' sid charUid) :=
  (h.executeProc _ (reads_keep _)).setPlayer _ _ (by rfl) (by rfl)

theorem drop_item_same (h : SameQuests s s') (sid : SessionId) : SameQuests s (dropItem data s' sid) := by
  have rolled : SameQuests s (rollDrop data s').1 := by
    rw [rollDrop]
    split
    · exact h
    · exact h.rolled.fail _ _
  exact SameQuests.ite (fun _ => give_item_same data rolled _ _) (fun _ => rolled)

theorem respawn_same (h : SameQuests s s') : SameQuests s (respawn s') := by
  rw [respawn]
  split
  · exact h
  · exact h.elsewhere _ rfl rfl rfl rfl

theorem credit_kill_same (h : SameQuests s s') (sid : SessionId) (exp gold : UInt32) : SameQuests s (creditKill s' sid exp gold) :=
  check_level_up_same ((h.setPlayer _ _ (by rfl) (by rfl)).send _ _) sid

theorem strike_same (sid : SessionId) (index : Fin maxNpc) : SameQuests s (strike s sid index) :=
  (SameQuests.refl s).elsewhere _ rfl rfl rfl rfl

theorem announce_death_same (h : SameQuests s s') (index : Fin maxNpc) : SameQuests s (announceDeath s' index) :=
  h.elsewhere _ rfl rfl rfl rfl

theorem send_party_update_same (h : SameQuests s s') (partyId : UInt32) : SameQuests s (sendPartyUpdate s' partyId) := by
  rw [sendPartyUpdate]
  split
  · exact h
  · exact SameQuests.fold _ (fun t mid => (SameQuests.refl t).send mid _) _ h

theorem remove_from_party_same (h : SameQuests s s') (sid : SessionId) : SameQuests s (removeFromParty s' sid) := by
  rw [removeFromParty]
  split
  · exact h
  · simp only
    have told (members : List SessionId) (message : Message) :=
      SameQuests.fold _ (fun t mid => (SameQuests.refl t).send mid message) members (h.setParty (s'.party.without sid))
    split
    · exact h.setParty _
    · refine SameQuests.ite (fun _ => ?_) (fun _ => send_party_update_same (told _ _) _)
      split
      · exact told _ _
      · exact (told _ _).send _ _

theorem on_chat_same (sid : SessionId) (chat : CsChat) : SameQuests s (onChat s sid chat) := by
  have start := SameQuests.refl s
  rw [onChat]
  refine SameQuests.ite (fun _ => start.broadcast _) (fun _ => SameQuests.ite (fun _ => ?_) (fun _ => SameQuests.ite (fun _ => ?_) (fun _ => start)))
  · refine SameQuests.perhaps (SameQuests.fold _ (fun t other => ?_) _ start) ((SameQuests.refl _).send _ _)
    exact ((SameQuests.refl t).send other _).send sid _
  · split
    · exact SameQuests.fold _ (fun t mid => (SameQuests.refl t).send mid _) _ (start.touchParty _)
    · exact start.send _ _

theorem on_party_invite_same (sid : SessionId) (req : CsPartyInvite) : SameQuests s (onPartyInvite s sid req) := by
  have touched : SameQuests s ((s.party.playerParty[sid]?).elim s s.touchParty) := by
    cases s.party.playerParty[sid]? with
    | none => exact SameQuests.refl s
    | some partyId => exact (SameQuests.refl s).touchParty partyId
  rw [onPartyInvite]
  refine SameQuests.ite (fun _ => touched.send _ _) (fun _ => ?_)
  split
  · exact touched.send _ _
  · refine SameQuests.ite (fun _ => touched.send _ _) (fun _ => SameQuests.ite (fun _ => touched.send _ _) (fun _ => ?_))
    exact (touched.setParty _).send _ _

theorem join_party_same (h : SameQuests s s') (sid : SessionId) (partyId : UInt32) : SameQuests s (joinParty s' sid partyId) :=
  SameQuests.ite (fun _ => h) (fun _ => send_party_update_same (h.setParty _) _)

theorem on_party_accept_same (sid : SessionId) (req : CsPartyAccept) : SameQuests s (onPartyAccept s sid req) := by
  have start := SameQuests.refl s
  rw [onPartyAccept]
  split
  · exact start
  · have answered := start.setParty (s.party.withoutInvite sid)
    refine SameQuests.ite (fun _ => answered) (fun _ => SameQuests.ite (fun _ => answered) (fun _ => ?_))
    exact join_party_same ((answered.setParty _).touchParty _) _ _

theorem do_accept_same : SameQuests s (doAccept s) := by
  rw [doAccept]
  split
  · exact SameQuests.refl s
  · rename_i absent
    refine ⟨rfl, fun _ => rfl, fun other => ?_, id⟩
    have entry : ({ s with sessions := s.sessions.insert s.nextSessionId {}, nextSessionId := s.nextSessionId + 1 } : ServerState).player other =
        s.player other := by
      simp only [ServerState.player, Std.ExtTreeMap.getElem?_insert]
      split
      · rename_i same
        rw [← Std.compare_eq_iff_eq.mp same, Std.ExtTreeMap.getElem?_eq_none absent]
        rfl
      · rfl
    rw [entry]
    exact ⟨rfl, rfl⟩

theorem set_unconnected_same (sid : SessionId) : SameQuests s (setUnconnected s sid) := by
  refine ⟨rfl, fun _ => rfl, fun other => ?_, id⟩
  have entry : (setUnconnected s sid).player other = s.player other := by
    simp only [ServerState.player, setUnconnected, Std.ExtTreeMap.getElem?_modify]
    split
    · rename_i same
      rw [← Std.compare_eq_iff_eq.mp same]
      cases s.sessions[sid]? <;> rfl
    · rfl
  rw [entry]
  exact ⟨rfl, rfl⟩

end Handlers

end MmorpgSimulator
