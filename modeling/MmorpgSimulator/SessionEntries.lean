import MmorpgSimulator.Entrance

set_option autoImplicit false

namespace MmorpgSimulator

-- g_inventories and g_questProgress, which are keyed by session.
def sessionMaps (s : ServerState) : Std.ExtTreeMap SessionId Inventory × Std.ExtTreeMap SessionId QuestLog := (s.inventories, s.questProgress)

def ServerState.HasEntry (s : ServerState) (sid : SessionId) : Prop := sid ∈ s.inventories ∨ sid ∈ s.questProgress

-- A handler of one session makes entries for no other.
structure EntersOwn (owner : SessionId) (s t : ServerState) : Prop where
  inventories : ∀ sid, sid ∈ t.inventories → sid ∈ s.inventories ∨ sid = owner
  logs : ∀ sid, sid ∈ t.questProgress → sid ∈ s.questProgress ∨ sid = owner

section Keys

variable {Value : Type} (map : Std.ExtTreeMap SessionId Value)

theorem mem_inserted (key other : SessionId) (value : Value) (member : other ∈ map.insert key value) : other ∈ map ∨ other = key := by
  rcases Std.ExtTreeMap.mem_insert.mp member with same | old
  · exact .inr (Std.compare_eq_iff_eq.mp same).symm
  · exact .inl old

theorem mem_inserted_if_new (key other : SessionId) (value : Value) (member : other ∈ map.insertIfNew key value) :
    other ∈ map ∨ other = key := by
  rcases Std.ExtTreeMap.mem_insertIfNew.mp member with same | old
  · exact .inr (Std.compare_eq_iff_eq.mp same).symm
  · exact .inl old

end Keys

namespace EntersOwn

variable {owner : SessionId} {s t : ServerState}

theorem refl (s : ServerState) : EntersOwn owner s s := ⟨fun _ => .inl, fun _ => .inl⟩

theorem trans {u : ServerState} (first : EntersOwn owner s t) (second : EntersOwn owner t u) : EntersOwn owner s u where
  inventories := fun sid member => (second.inventories sid member).elim (first.inventories sid) .inr
  logs := fun sid member => (second.logs sid member).elim (first.logs sid) .inr

theorem same (h : EntersOwn owner s t) (u : ServerState) (kept : sessionMaps u = sessionMaps t) : EntersOwn owner s u := by
  obtain ⟨inventories, logs⟩ := Prod.mk.inj kept
  refine ⟨?_, ?_⟩
  · rw [inventories]
    exact h.inventories
  · rw [logs]
    exact h.logs

theorem setInventory (h : EntersOwn owner s t) (inv : Inventory) : EntersOwn owner s (t.setInventory owner inv) :=
  h.trans ⟨fun sid => mem_inserted t.inventories owner sid inv, fun _ => .inl⟩

theorem touchInventory (h : EntersOwn owner s t) : EntersOwn owner s (t.touchInventory owner) :=
  h.trans ⟨fun sid => mem_inserted_if_new t.inventories owner sid {}, fun _ => .inl⟩

theorem setQuestLog (h : EntersOwn owner s t) (qp : QuestLog) : EntersOwn owner s (t.setQuestLog owner qp) :=
  h.trans ⟨fun _ => .inl, fun sid => mem_inserted t.questProgress owner sid qp⟩

theorem touchQuestLog (h : EntersOwn owner s t) : EntersOwn owner s (t.touchQuestLog owner) :=
  h.trans ⟨fun _ => .inl, fun sid => mem_inserted_if_new t.questProgress owner sid ∅⟩

theorem send (h : EntersOwn owner s t) (receiver : SessionId) (message : Message) : EntersOwn owner s (t.send receiver message) := h.same _ rfl

theorem sendCharInfo (h : EntersOwn owner s t) (sid : SessionId) : EntersOwn owner s (MmorpgSimulator.sendCharInfo t sid) := h.same _ rfl

theorem broadcast (h : EntersOwn owner s t) (message : Message) : EntersOwn owner s (t.broadcast message) := h.same _ rfl

theorem setPlayer (h : EntersOwn owner s t) (sid : SessionId) (player : PlayerData) : EntersOwn owner s (t.setPlayer sid player) := h.same _ rfl

theorem fail (h : EntersOwn owner s t) (happens : Bool) (reason : Fault) : EntersOwn owner s (t.fail happens reason) := h.same _ rfl

theorem executeProc {Row : Type} (h : EntersOwn owner s t) (proc : Database → Option (Database × Row)) :
    EntersOwn owner s (t.executeProc proc).1 := h.same _ rfl

theorem removeItemFromDb (h : EntersOwn owner s t) (itemUid : ItemUid) : EntersOwn owner s (MmorpgSimulator.removeItemFromDb t itemUid) :=
  h.same _ rfl

theorem addItemToDb (h : EntersOwn owner s t) (charUid : CharUid) (itemTid : UInt16) :
    EntersOwn owner s (MmorpgSimulator.addItemToDb t charUid itemTid).1 := h.same _ rfl

theorem equipItemDb (h : EntersOwn owner s t) (charUid : CharUid) (slot : Nat) (itemUid : ItemUid) :
    EntersOwn owner s (MmorpgSimulator.equipItemDb t charUid slot itemUid) := h.same _ rfl

theorem saveQuestProgress (h : EntersOwn owner s t) (charUid : CharUid) (questId : UInt16) (state : QuestProgress) :
    EntersOwn owner s (MmorpgSimulator.saveQuestProgress t charUid questId state) := h.same _ rfl

theorem checkLevelUp (h : EntersOwn owner s t) (sid : SessionId) : EntersOwn owner s (MmorpgSimulator.checkLevelUp t sid) := h.same _ rfl

variable (data : GameData)

theorem giveItem (h : EntersOwn owner s t) (itemId : UInt16) : EntersOwn owner s (MmorpgSimulator.giveItem data t owner itemId) := by
  rw [MmorpgSimulator.giveItem]
  simp only
  split
  · exact h.touchInventory
  · split
    · exact h.touchInventory
    · exact ((h.touchInventory.addItemToDb _ _).setInventory _).send _ _

theorem onItemUse (req : CsItemUse) : EntersOwn owner s (MmorpgSimulator.onItemUse data s owner req) := by
  have touched : EntersOwn owner s (s.touchInventory owner) := (refl s).touchInventory
  rw [MmorpgSimulator.onItemUse]
  simp only
  split
  · exact touched
  · split
    · exact touched
    · split
      · exact touched
      · exact (((((touched.setPlayer _ _).removeItemFromDb _).setInventory _).broadcast _).send _ _).sendCharInfo _

theorem onItemEquip (req : CsItemEquip) : EntersOwn owner s (MmorpgSimulator.onItemEquip data s owner req) := by
  have touched : EntersOwn owner s (s.touchInventory owner) := (refl s).touchInventory
  rw [MmorpgSimulator.onItemEquip]
  simp only
  split
  · exact touched
  · split
    · exact touched
    · split
      · exact touched.send _ _
      · exact (((((touched.setInventory _).setPlayer _ _).equipItemDb _ _ _).send _ _).send _ _).sendCharInfo _

theorem onShopBuy (req : CsShopBuy) : EntersOwn owner s (MmorpgSimulator.onShopBuy data s owner req) := by
  rw [MmorpgSimulator.onShopBuy]
  simp only
  split
  · exact (refl s).send _ _
  · split
    · exact (refl s).send _ _
    · split
      · exact (refl s).touchInventory.send _ _
      · exact ((((((refl s).touchInventory.setPlayer _ _).addItemToDb _ _).setInventory _).fail _ _).send _ _).send _ _

theorem onShopSell (req : CsShopSell) : EntersOwn owner s (MmorpgSimulator.onShopSell data s owner req) := by
  have touched : EntersOwn owner s (s.touchInventory owner) := (refl s).touchInventory
  rw [MmorpgSimulator.onShopSell]
  simp only
  split
  · exact touched.send _ _
  · split
    · exact (((((touched.removeItemFromDb _).setPlayer _ _).fail _ _).setInventory _).send _ _).send _ _
    · exact ((((touched.setPlayer _ _).fail _ _).setInventory _).send _ _).send _ _

theorem loadInventory (h : EntersOwn owner s t) : EntersOwn owner s (MmorpgSimulator.loadInventory data t owner) := by
  rw [load_inventory_eq, putOn]
  exact (((h.setInventory {}).same (fetched t owner) rfl).setInventory _).same _ rfl

theorem loadQuestProgress (h : EntersOwn owner s t) : EntersOwn owner s (MmorpgSimulator.loadQuestProgress t owner) :=
  (h.executeProc _).setQuestLog _

theorem onQuestList : EntersOwn owner s (MmorpgSimulator.onQuestList data s owner) := by
  rw [MmorpgSimulator.onQuestList]
  split
  · exact (refl s).send _ _
  · exact (refl s).touchQuestLog.send _ _

theorem onQuestAccept (req : CsQuestAccept) : EntersOwn owner s (MmorpgSimulator.onQuestAccept data s owner req) := by
  rw [MmorpgSimulator.onQuestAccept]
  simp only
  split
  · exact (refl s).send _ _
  · split
    · exact (refl s).send _ _
    · split
      · exact ((refl s).setQuestLog _).send _ _
      · split
        · exact ((refl s).setQuestLog _).send _ _
        · exact ((((refl s).setQuestLog _).setQuestLog _).saveQuestProgress _ _ _).send _ _

theorem onQuestComplete (req : CsQuestComplete) : EntersOwn owner s (MmorpgSimulator.onQuestComplete data s owner req) := by
  have touched : EntersOwn owner s (s.touchQuestLog owner) := (refl s).touchQuestLog
  rw [MmorpgSimulator.onQuestComplete]
  simp only
  split
  · exact (refl s).send _ _
  · split
    · exact (refl s).send _ _
    · split
      · exact touched.send _ _
      · split
        · exact touched.send _ _
        · have paid (log : QuestLog) (charUid : CharUid) (questId : UInt16) (state : QuestProgress) (player : PlayerData) :=
            ((touched.setQuestLog log).saveQuestProgress charUid questId state).setPlayer owner player
          split
          · exact (((((paid _ _ _ _ _).giveItem data _).send _ _).checkLevelUp _).sendCharInfo _).send _ _
          · exact ((((paid _ _ _ _ _).send _ _).checkLevelUp _).sendCharInfo _).send _ _

theorem updateQuest (h : EntersOwn owner s t) (entry : UInt16 × QuestProgress) :
    EntersOwn owner s (MmorpgSimulator.updateQuest data owner t entry) := by
  rw [MmorpgSimulator.updateQuest]
  split
  · exact ((h.setQuestLog _).saveQuestProgress _ _ _).send _ _
  · exact h

theorem updateQuestProgress (h : EntersOwn owner s t) : EntersOwn owner s (MmorpgSimulator.updateQuestProgress data t owner) :=
  Machine.foldl_keeps _ (EntersOwn owner s) (fun _ entry before => before.updateQuest data entry) _ _ h.touchQuestLog

theorem dropItem (h : EntersOwn owner s t) : EntersOwn owner s (MmorpgSimulator.dropItem data t owner) := by
  have rolled : EntersOwn owner s (rollDrop data t).1 := by
    rw [rollDrop]
    split
    · exact h
    · exact h.same _ rfl
  rw [MmorpgSimulator.dropItem]
  split
  · exact rolled.giveItem data _
  · exact rolled

end EntersOwn

def EntriesConnected (s : ServerState) : Prop := ∀ sid, s.HasEntry sid → sid ∈ s.sessions

section Handlers

variable (data : GameData) {s t : ServerState} {sid : SessionId}

theorem entries_connected_same (kept : sessionMaps t = sessionMaps s) (stays : Stays s t) (connected : EntriesConnected s) : EntriesConnected t := by
  obtain ⟨inventories, logs⟩ := Prod.mk.inj kept
  intro other
  rw [ServerState.HasEntry, inventories, logs]
  exact fun entry => stays other (connected other entry)

theorem EntersOwn.connected (h : EntersOwn sid s t) (stays : Stays s t) (here : sid ∈ s.sessions) (connected : EntriesConnected s) : EntriesConnected t := by
  have known (other : SessionId) (was : s.HasEntry other ∨ other = sid) : other ∈ t.sessions := by
    rcases was with entry | rfl
    · exact stays other (connected other entry)
    · exact stays other here
  rintro other (inventory | log)
  · exact known other ((h.inventories other inventory).imp_left .inl)
  · exact known other ((h.logs other log).imp_left .inr)

theorem quiet_stays (h : Quiet s t) : Stays s t := fun other => (h.online other).mpr

def KillerHere (sid : SessionId) (t : ServerState) : Prop := EntriesConnected t ∧ sid ∈ t.sessions

theorem killer_here_same (kept : sessionMaps t = sessionMaps s) (stays : Stays s t) (killerHere : KillerHere sid s) : KillerHere sid t :=
  ⟨entries_connected_same kept stays killerHere.1, stays sid killerHere.2⟩

theorem killer_here_enters (h : EntersOwn sid s t) (stays : Stays s t) (killerHere : KillerHere sid s) : KillerHere sid t :=
  ⟨h.connected stays killerHere.2 killerHere.1, stays sid killerHere.2⟩

theorem credit_kill_killer_here (mid : SessionId) (exp gold : UInt32) (killerHere : KillerHere sid s) :
    KillerHere sid (creditKill s mid exp gold) := by
  have stays := quiet_stays (credit_kill_quiet (Quiet.refl s) mid exp gold)
  exact killer_here_same (s := s) rfl stays killerHere

theorem credit_member_killer_here (exp gold : UInt32) (t : ServerState) (mid : SessionId) (killerHere : KillerHere sid t) :
    KillerHere sid (creditMember data sid exp gold t mid) := by
  have credited := credit_kill_killer_here mid exp gold killerHere
  have stays := quiet_stays (credit_kill_quiet (Quiet.refl t) mid exp gold)
  rw [creditMember]
  split
  · exact killerHere
  · rename_i present
    simp only
    split
    · have progressed : Stays (creditKill t mid exp gold) (updateQuestProgress data (creditKill t mid exp gold) mid) :=
        quiet_stays (update_quest_progress_quiet data (Quiet.refl _) mid)
      have unmoved : EntersOwn mid (creditKill t mid exp gold) (creditKill t mid exp gold) := EntersOwn.refl _
      have entered := unmoved.updateQuestProgress data
      exact ⟨entered.connected progressed (stays mid (not_not.mp present)) credited.1, progressed sid credited.2⟩
    · exact credited

theorem share_kill_killer_here (npc : Npc) (killerHere : KillerHere sid s) : KillerHere sid (shareKill data s sid npc) := by
  rw [shareKill]
  split
  · apply Machine.foldl_keeps _ (KillerHere sid)
    · exact fun t mid => credit_member_killer_here data _ _ t mid
    · exact killer_here_same (by rfl) (fun _ => id) killerHere
  · exact credit_kill_killer_here sid _ _ killerHere

theorem respawn_session_maps (s : ServerState) : sessionMaps (respawn s) = sessionMaps s := by
  rw [respawn]
  split
  · rfl
  · rfl

theorem kill_npc_killer_here (index : Fin maxNpc) (killerHere : KillerHere sid s) : KillerHere sid (killNpc data s sid index) := by
  have shared := share_kill_killer_here data s.npcs[index] (killer_here_same (t := announceDeath s index) rfl (fun _ => id) killerHere)
  rw [killNpc]
  generalize shareKill data (announceDeath s index) sid s.npcs[index] = t at shared ⊢
  have progressed : KillerHere sid (updateQuestProgress data t sid) :=
    killer_here_enters ((EntersOwn.refl t).updateQuestProgress data) (quiet_stays (update_quest_progress_quiet data (Quiet.refl t) sid)) shared
  have dropped : KillerHere sid (dropItem data (updateQuestProgress data t sid) sid) :=
    killer_here_enters ((EntersOwn.refl _).dropItem data) (quiet_stays (drop_item_quiet data (Quiet.refl _) sid)) progressed
  exact killer_here_same (respawn_session_maps _) (quiet_stays (respawn_quiet (Quiet.refl _))) dropped

theorem on_attack_entries (atk : CsAttack) (here : sid ∈ s.sessions) (connected : EntriesConnected s) : EntriesConnected (onAttack data s sid atk) := by
  have struck (index : Fin maxNpc) : KillerHere sid (strike s sid index) := killer_here_same rfl (fun _ => id) ⟨connected, here⟩
  rw [onAttack]
  split
  · exact connected
  · split
    · exact (kill_npc_killer_here data _ (struck _)).1
    · exact (struck _).1

theorem fold_send_session_maps (s : ServerState) (receivers : List SessionId) (message : Message) :
    sessionMaps (receivers.foldl (fun t mid => t.send mid message) s) = sessionMaps s := by
  apply Machine.foldl_frame _ sessionMaps
  exact fun _ _ => rfl

theorem on_chat_session_maps (s : ServerState) (sid : SessionId) (chat : CsChat) : sessionMaps (onChat s sid chat) = sessionMaps s := by
  have replies (reply : Message) (found : List SessionId) :
      sessionMaps (found.foldl (fun t other => (t.send other reply).send sid reply) s) = sessionMaps s := by
    apply Machine.foldl_frame _ sessionMaps
    exact fun _ _ => rfl
  rw [onChat]
  simp only
  split
  · rfl
  · split
    · split
      · exact replies _ _
      · exact replies _ _
    · split
      · split
        · exact fold_send_session_maps _ _ _
        · rfl
      · rfl

theorem send_party_update_session_maps (s : ServerState) (partyId : UInt32) : sessionMaps (sendPartyUpdate s partyId) = sessionMaps s := by
  rw [sendPartyUpdate]
  split
  · rfl
  · exact fold_send_session_maps _ _ _

theorem remove_from_party_session_maps (s : ServerState) (sid : SessionId) : sessionMaps (removeFromParty s sid) = sessionMaps s := by
  rw [removeFromParty]
  split
  · rfl
  · simp only
    split
    · rfl
    · split
      · split
        · exact fold_send_session_maps _ _ _
        · exact fold_send_session_maps _ _ _
      · exact (send_party_update_session_maps _ _).trans (fold_send_session_maps _ _ _)

theorem on_party_invite_session_maps (s : ServerState) (sid : SessionId) (req : CsPartyInvite) :
    sessionMaps (onPartyInvite s sid req) = sessionMaps s := by
  have touched : sessionMaps ((s.party.playerParty[sid]?).elim s s.touchParty) = sessionMaps s := by
    cases s.party.playerParty[sid]? <;> rfl
  rw [onPartyInvite]
  simp only
  split
  · exact touched
  · split
    · exact touched
    · split
      · exact touched
      · split <;> exact touched

theorem on_party_accept_session_maps (s : ServerState) (sid : SessionId) (req : CsPartyAccept) :
    sessionMaps (onPartyAccept s sid req) = sessionMaps s := by
  rw [onPartyAccept]
  split
  · rfl
  · simp only
    split
    · rfl
    · split
      · rfl
      · rw [joinParty]
        split
        · rfl
        · exact send_party_update_session_maps _ _

theorem on_char_select_enters (s : ServerState) (sid : SessionId) (req : CsCharSelect) : EntersOwn sid s (onCharSelect data s sid req) := by
  rw [onCharSelect]
  simp only
  split
  · exact ((EntersOwn.refl s).executeProc _).send _ _
  · have greeted (t : ServerState) (kept : sessionMaps t = sessionMaps s) : EntersOwn sid s (loadQuestProgress (loadInventory data t sid) sid) :=
      (((EntersOwn.refl s).same t kept).loadInventory data).loadQuestProgress
    exact greeted _ (by rfl)

theorem on_char_create_session_maps (s : ServerState) (sid : SessionId) (req : CsCharCreate) :
    sessionMaps (onCharCreate data s sid req) = sessionMaps s := by
  obtain ⟨sent, dbPlan, db, fault, same⟩ := on_char_create_state data s sid req
  rw [same]
  rfl

theorem handle_entries (s : ServerState) (sid : SessionId) (request : Request) (here : sid ∈ s.sessions)
    (stays : Stays s (handle data s sid request)) (connected : EntriesConnected s) : EntriesConnected (handle data s sid request) := by
  have entered (h : EntersOwn sid s (handle data s sid request)) : EntriesConnected (handle data s sid request) := h.connected stays here connected
  have idle (kept : sessionMaps (handle data s sid request) = sessionMaps s) : EntriesConnected (handle data s sid request) := entries_connected_same kept stays connected
  cases request with
  | attack req => exact on_attack_entries data req here connected
  | charSelect req => exact entered (on_char_select_enters data s sid req)
  | itemUse req => exact entered (EntersOwn.onItemUse data req)
  | itemEquip req => exact entered (EntersOwn.onItemEquip data req)
  | shopBuy req => exact entered (EntersOwn.onShopBuy data req)
  | shopSell req => exact entered (EntersOwn.onShopSell data req)
  | questList => exact entered (EntersOwn.onQuestList data)
  | questAccept req => exact entered (EntersOwn.onQuestAccept data req)
  | questComplete req => exact entered (EntersOwn.onQuestComplete data req)
  | chat req => exact idle (on_chat_session_maps s sid req)
  | partyInvite req => exact idle (on_party_invite_session_maps s sid req)
  | partyAccept req => exact idle (on_party_accept_session_maps s sid req)
  | partyLeave => exact idle (remove_from_party_session_maps s sid)
  | charCreate req => exact idle (on_char_create_session_maps data s sid req)
  | _ => exact idle rfl

end Handlers

section Departing

variable (s : ServerState) (sid : SessionId)

theorem on_disconnect_session_maps : sessionMaps (onDisconnect s sid) = (s.inventories.erase sid, s.questProgress.erase sid) := by
  have emptied : sessionMaps (onPlayerDisconnect s sid) = (s.inventories.erase sid, s.questProgress.erase sid) := by
    obtain ⟨inventories, logs⟩ := Prod.mk.inj (remove_from_party_session_maps s sid)
    rw [← inventories, ← logs]
    rfl
  rw [onDisconnect]
  split
  · exact emptied
  · split <;> exact emptied

theorem on_disconnect_entries (connected : EntriesConnected s) : EntriesConnected (onDisconnect s sid) := by
  obtain ⟨inventories, logs⟩ := Prod.mk.inj (on_disconnect_session_maps s sid)
  obtain ⟨_, _, _, _, sessions⟩ := on_disconnect_spec s sid
  intro other
  rw [ServerState.HasEntry, inventories, logs, sessions, Std.ExtTreeMap.mem_erase, Std.ExtTreeMap.mem_erase, Std.ExtTreeMap.mem_erase]
  rintro (⟨apart, inventory⟩ | ⟨apart, log⟩)
  · exact ⟨apart, connected other (.inl inventory)⟩
  · exact ⟨apart, connected other (.inr log)⟩

end Departing

end MmorpgSimulator
