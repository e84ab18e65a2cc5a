import MmorpgSimulator.Parties
import MmorpgSimulator.Server

set_option autoImplicit false

namespace MmorpgSimulator

def ServerState.line (s : ServerState) (sid : SessionId) : Option Bool := (s.sessions[sid]?).map Session.connected

def NoUpdate : Message → Prop
  | .partyUpdate _ => False
  | _ => True

def Elsewhere : Message → Prop
  | .partyInvite _ => False
  | .partyUpdate _ => False
  | .partyLeave _ => False
  | _ => True

-- A transition that is none of the party's business: the maps and the connections
-- stay, no message about parties goes out and nothing is divided by zero.
structure Quiet (s s' : ServerState) : Prop where
  party : s'.party = s.party
  lines : ∀ sid, s'.line sid = s.line sid
  silent : ∀ sid message, (sid, message) ∈ s'.sent → Elsewhere message ∨ (sid, message) ∈ s.sent
  undivided : s.party.Divisible → s'.fault = some .divideByZero → s.fault = some .divideByZero

theorem mem_line (s : ServerState) (sid : SessionId) : sid ∈ s.sessions ↔ (s.line sid).isSome := by
  rw [Std.ExtTreeMap.mem_iff_isSome_getElem?, ServerState.line, Option.isSome_map]

theorem line_set_player (s : ServerState) (sid other : SessionId) (player : PlayerData) :
    (s.setPlayer sid player).line other = s.line other := by
  simp only [ServerState.line, ServerState.setPlayer, Std.ExtTreeMap.getElem?_modify]
  split
  · rename_i same
    rw [Std.compare_eq_iff_eq.mp same]
    cases s.sessions[other]? <;> rfl
  · rfl

theorem mem_deliver (s : ServerState) (sid receiver : SessionId) (message arrived : Message)
    (member : (receiver, arrived) ∈ s.deliver sid message) : arrived = message := by
  unfold ServerState.deliver at member
  split at member
  · exact congrArg Prod.snd (List.mem_singleton.mp member)
  · exact absurd member List.not_mem_nil

namespace Quiet

variable {s s' : ServerState}

theorem refl (s : ServerState) : Quiet s s := ⟨rfl, fun _ => rfl, fun _ _ sent => .inr sent, fun _ => id⟩

theorem online (h : Quiet s s') (sid : SessionId) : sid ∈ s'.sessions ↔ sid ∈ s.sessions := by
  rw [mem_line, mem_line, h.lines]

theorem updates (h : Quiet s s') (sid : SessionId) (update : ScPartyUpdate) (sent : (sid, Message.partyUpdate update) ∈ s'.sent) :
    (sid, Message.partyUpdate update) ∈ s.sent :=
  (h.silent sid _ sent).resolve_left id

theorem trans {t : ServerState} (first : Quiet s s') (second : Quiet s' t) : Quiet s t where
  party := second.party.trans first.party
  lines := fun sid => (second.lines sid).trans (first.lines sid)
  silent := fun sid message sent => (second.silent sid message sent).elim .inl (first.silent sid message)
  undivided := fun divisible divided => first.undivided divisible (second.undivided (first.party ▸ divisible) divided)

theorem ite {condition : Prop} [Decidable condition] {t : ServerState} (yes : condition → Quiet s s')
    (no : ¬ condition → Quiet s t) : Quiet s (if condition then s' else t) := by
  split
  · exact yes ‹_›
  · exact no ‹_›

theorem perhaps {condition : Prop} [Decidable condition] {t : ServerState} (h : Quiet s s') (act : Quiet s' t) :
    Quiet s (if condition then t else s') :=
  ite (fun _ => h.trans act) (fun _ => h)

theorem fold {Item : Type} (act : ServerState → Item → ServerState) (quiet : ∀ t item, Quiet t (act t item))
    (items : List Item) (h : Quiet s s') : Quiet s (items.foldl act s') :=
  Machine.foldl_keeps act (Quiet s) (fun t item before => before.trans (quiet t item)) items s' h

theorem sends {extra : List (SessionId × Message)} (h : Quiet s s')
    (others : ∀ receiver arrived, (receiver, arrived) ∈ extra → Elsewhere arrived) :
    Quiet s { s' with sent := s'.sent ++ extra } where
  party := h.party
  lines := h.lines
  silent := by
    intro receiver message sent
    rcases List.mem_append.mp sent with old | fresh
    · exact h.silent receiver message old
    · exact .inl (others receiver message fresh)
  undivided := h.undivided

theorem send (h : Quiet s s') (sid : SessionId) (message : Message) (other : Elsewhere message) :
    Quiet s (s'.send sid message) :=
  h.sends (fun _ _ fresh => mem_deliver _ _ _ _ _ fresh ▸ other)

theorem sendAll (h : Quiet s s') (sid : SessionId) (messages : List Message) (others : ∀ message ∈ messages, Elsewhere message) :
    Quiet s (s'.sendAll sid messages) := by
  refine h.sends ?_
  intro receiver arrived fresh
  obtain ⟨message, member, delivered⟩ := List.mem_flatMap.mp fresh
  rw [mem_deliver _ _ _ _ _ delivered]
  exact others message member

theorem broadcast (h : Quiet s s') (message : Message) (other : Elsewhere message) : Quiet s (s'.broadcast message) := by
  refine h.sends ?_
  intro receiver arrived fresh
  obtain ⟨sid, _, delivered⟩ := List.mem_flatMap.mp fresh
  exact mem_deliver _ _ _ _ _ delivered ▸ other

theorem broadcastExcept (h : Quiet s s') (exceptId : SessionId) (message : Message) (other : Elsewhere message) :
    Quiet s (s'.broadcastExcept exceptId message) := by
  refine h.sends ?_
  intro receiver arrived fresh
  obtain ⟨sid, _, delivered⟩ := List.mem_flatMap.mp fresh
  exact mem_deliver _ _ _ _ _ delivered ▸ other

theorem setPlayer (h : Quiet s s') (sid : SessionId) (player : PlayerData) : Quiet s (s'.setPlayer sid player) where
  party := h.party
  lines := fun other => (line_set_player s' sid other player).trans (h.lines other)
  silent := h.silent
  undivided := h.undivided

theorem setInventory (h : Quiet s s') (sid : SessionId) (inv : Inventory) : Quiet s (s'.setInventory sid inv) :=
  ⟨h.party, h.lines, h.silent, h.undivided⟩

theorem touchInventory (h : Quiet s s') (sid : SessionId) : Quiet s (s'.touchInventory sid) :=
  ⟨h.party, h.lines, h.silent, h.undivided⟩

theorem setQuestLog (h : Quiet s s') (sid : SessionId) (qp : QuestLog) : Quiet s (s'.setQuestLog sid qp) :=
  ⟨h.party, h.lines, h.silent, h.undivided⟩

theorem touchQuestLog (h : Quiet s s') (sid : SessionId) : Quiet s (s'.touchQuestLog sid) :=
  ⟨h.party, h.lines, h.silent, h.undivided⟩

theorem rolled (h : Quiet s s') : Quiet s s'.rolled := ⟨h.party, h.lines, h.silent, h.undivided⟩

theorem setNpc (h : Quiet s s') (index : Fin maxNpc) (npc : Npc) : Quiet s (MmorpgSimulator.setNpc s' index npc) :=
  ⟨h.party, h.lines, h.silent, h.undivided⟩

theorem executeProc {Row : Type} (h : Quiet s s') (proc : Database → Option (Database × Row)) :
    Quiet s (s'.executeProc proc).1 :=
  ⟨h.party, h.lines, h.silent, h.undivided⟩

theorem fail (h : Quiet s s') (happens : Bool) (reason : Fault) (other : s.party.Divisible → happens = true → reason ≠ .divideByZero) :
    Quiet s (s'.fail happens reason) where
  party := h.party
  lines := h.lines
  silent := h.silent
  undivided := by
    intro divisible divided
    apply h.undivided divisible
    cases known : s'.fault with
    | some fault => simpa [ServerState.fail, known] using divided
    | none =>
        have raised : happens = true ∧ reason = .divideByZero := by simpa [ServerState.fail, known] using divided
        exact absurd raised.2 (other divisible raised.1)

end Quiet

section Handlers

variable {s s' : ServerState} (data : GameData)

theorem send_char_info_quiet (h : Quiet s s') (sid : SessionId) : Quiet s (sendCharInfo s' sid) := h.send _ _ (by trivial)

theorem send_all_npcs_quiet (h : Quiet s s') (sid : SessionId) : Quiet s (sendAllNpcs s' sid) := by
  refine h.sendAll _ _ ?_
  intro message member
  obtain ⟨npc, _, rfl⟩ := List.mem_map.mp member
  trivial

theorem send_other_players_quiet (h : Quiet s s') (sid : SessionId) : Quiet s (sendOtherPlayers s' sid) := by
  refine (h.sendAll _ _ ?_).broadcastExcept _ _ (by trivial)
  intro message member
  obtain ⟨other, _, rfl⟩ := List.mem_map.mp member
  trivial

theorem check_level_up_quiet (h : Quiet s s') (sid : SessionId) : Quiet s (checkLevelUp s' sid) := by
  refine (h.setPlayer _ _).sendAll _ _ ?_
  intro message member
  obtain ⟨levelUp, _, rfl⟩ := List.mem_map.mp member
  trivial

theorem spawn_npc_quiet (h : Quiet s s') (index : Fin maxNpc) : Quiet s (spawnNpc s' index) := by
  have placed : ∀ npcs uid, Quiet s { s'.rolled.rolled with npcs, nextNpcUid := uid } :=
    fun _ _ => ⟨h.party, h.lines, h.silent, h.undivided⟩
  exact (placed _ _).broadcast _ (by trivial)

theorem respawn_quiet (h : Quiet s s') : Quiet s (respawn s') := by
  unfold respawn
  split
  · exact h
  · exact spawn_npc_quiet h _

theorem on_move_quiet (sid : SessionId) (move : CsMove) : Quiet s (onMove s sid move) :=
  (((Quiet.refl s).setPlayer _ _).send _ _ (by trivial)).broadcastExcept _ _ (by trivial)

theorem roll_drop_quiet (h : Quiet s s') : Quiet s (rollDrop data s').1 := by
  unfold rollDrop
  split
  · exact h
  · exact h.rolled.fail _ _ (fun _ _ => by nofun)

theorem add_item_quiet (h : Quiet s s') (charUid : CharUid) (itemTid : UInt16) : Quiet s (addItemToDb s' charUid itemTid).1 :=
  h.executeProc _

theorem remove_item_quiet (h : Quiet s s') (itemUid : ItemUid) : Quiet s (removeItemFromDb s' itemUid) := h.executeProc _

theorem equip_item_quiet (h : Quiet s s') (charUid : CharUid) (slot : Nat) (itemUid : ItemUid) :
    Quiet s (equipItemDb s' charUid slot itemUid) :=
  h.executeProc _

theorem load_inventory_quiet (h : Quiet s s') (sid : SessionId) : Quiet s (loadInventory data s' sid) := by
  have called {Row : Type} (proc : Database → Option (Database × Row)) := (h.setInventory sid {}).executeProc proc
  refine Quiet.perhaps ?listed ((Quiet.refl _).send _ _ (by trivial))
  exact (((called _).setInventory _ _).setPlayer _ _).send _ _ (by trivial)

theorem on_item_use_quiet (sid : SessionId) (req : CsItemUse) : Quiet s (onItemUse data s sid req) := by
  have touched := (Quiet.refl s).touchInventory sid
  unfold onItemUse
  refine Quiet.ite (fun _ => touched) (fun _ => ?_)
  split
  · exact touched
  · refine Quiet.ite (fun _ => touched) (fun _ => ?_)
    refine Quiet.send (Quiet.send (Quiet.broadcast ?used _ (by trivial)) _ _ (by trivial)) _ _ (by trivial)
    exact (remove_item_quiet (touched.setPlayer _ _) _).setInventory _ _

theorem on_item_equip_quiet (sid : SessionId) (req : CsItemEquip) : Quiet s (onItemEquip data s sid req) := by
  have touched := (Quiet.refl s).touchInventory sid
  unfold onItemEquip
  refine Quiet.ite (fun _ => touched) (fun _ => ?_)
  split
  · exact touched
  · refine Quiet.ite (fun _ => touched.send _ _ (by trivial)) (fun _ => ?_)
    refine Quiet.send (Quiet.send (Quiet.send ?worn _ _ (by trivial)) _ _ (by trivial)) _ _ (by trivial)
    exact equip_item_quiet ((touched.setInventory _ _).setPlayer _ _) _ _ _

theorem on_shop_buy_quiet (sid : SessionId) (req : CsShopBuy) : Quiet s (onShopBuy data s sid req) := by
  have start := Quiet.refl s
  unfold onShopBuy
  split
  · exact start.send _ _ (by trivial)
  · refine Quiet.ite (fun _ => start.send _ _ (by trivial)) (fun _ => ?_)
    have touched := start.touchInventory sid
    simp only
    split
    · exact touched.send _ _ (by trivial)
    · refine Quiet.send (Quiet.send (Quiet.fail ?added _ _ (fun _ _ => by nofun)) _ _ (by trivial)) _ _ (by trivial)
      exact (add_item_quiet (touched.setPlayer _ _) _ _).setInventory _ _

theorem on_shop_sell_quiet (sid : SessionId) (req : CsShopSell) : Quiet s (onShopSell data s sid req) := by
  have touched := (Quiet.refl s).touchInventory sid
  unfold onShopSell
  refine Quiet.ite (fun _ => touched.send _ _ (by trivial)) (fun _ => ?_)
  refine Quiet.send (Quiet.send (Quiet.setInventory (Quiet.fail ?paid _ _ (fun _ _ => by nofun)) _ _) _ _ (by trivial))
    _ _ (by trivial)
  exact (Quiet.ite (fun _ => remove_item_quiet touched _) (fun _ => touched)).setPlayer _ _

theorem give_item_quiet (h : Quiet s s') (sid : SessionId) (itemId : UInt16) : Quiet s (giveItem data s' sid itemId) := by
  have touched := h.touchInventory sid
  unfold giveItem
  simp only
  split
  · exact touched
  · split
    · exact touched
    · exact ((add_item_quiet touched _ _).setInventory _ _).send _ _ (by trivial)

theorem load_quest_progress_quiet (h : Quiet s s') (sid : SessionId) : Quiet s (loadQuestProgress s' sid) :=
  (h.executeProc _).setQuestLog _ _

theorem save_quest_progress_quiet (h : Quiet s s') (charUid : CharUid) (questId : UInt16) (state : QuestProgress) :
    Quiet s (saveQuestProgress s' charUid questId state) :=
  h.executeProc _

theorem on_quest_list_quiet (sid : SessionId) : Quiet s (onQuestList data s sid) := by
  unfold onQuestList
  split
  · exact (Quiet.refl s).send _ _ (by trivial)
  · exact ((Quiet.refl s).touchQuestLog _).send _ _ (by trivial)

theorem on_quest_accept_quiet (sid : SessionId) (req : CsQuestAccept) : Quiet s (onQuestAccept data s sid req) := by
  have start := Quiet.refl s
  unfold onQuestAccept
  refine Quiet.ite (fun _ => start.send _ _ (by trivial)) (fun _ => ?_)
  split
  · exact start.send _ _ (by trivial)
  · have touched := start.setQuestLog sid ((s.questLog sid).insertIfNew req.questId {})
    refine Quiet.ite (fun _ => touched.send _ _ (by trivial)) (fun _ => ?_)
    refine Quiet.ite (fun _ => touched.send _ _ (by trivial)) (fun _ => ?_)
    exact (save_quest_progress_quiet (touched.setQuestLog sid _) _ _ _).send _ _ (by trivial)

theorem on_quest_complete_quiet (sid : SessionId) (req : CsQuestComplete) : Quiet s (onQuestComplete data s sid req) := by
  have start := Quiet.refl s
  unfold onQuestComplete
  refine Quiet.ite (fun _ => start.send _ _ (by trivial)) (fun _ => ?_)
  split
  · exact start.send _ _ (by trivial)
  · have touched := start.touchQuestLog sid
    simp only
    split
    · exact touched.send _ _ (by trivial)
    · refine Quiet.ite (fun _ => touched.send _ _ (by trivial)) (fun _ => ?_)
      refine Quiet.send (send_char_info_quiet (check_level_up_quiet (Quiet.send ?given _ _ (by trivial)) _) _) _ _ (by trivial)
      refine Quiet.perhaps ?paid (give_item_quiet data (Quiet.refl _) _ _)
      exact (save_quest_progress_quiet (touched.setQuestLog _ _) _ _ _).setPlayer _ _

theorem update_quest_quiet (sid : SessionId) (s : ServerState) (entry : UInt16 × QuestProgress) :
    Quiet s (updateQuest data sid s entry) := by
  unfold updateQuest
  split
  · exact (save_quest_progress_quiet ((Quiet.refl s).setQuestLog _ _) _ _ _).send _ _ (by trivial)
  · exact Quiet.refl s

theorem update_quest_progress_quiet (h : Quiet s s') (sid : SessionId) : Quiet s (updateQuestProgress data s' sid) :=
  Quiet.fold _ (update_quest_quiet data sid) _ (h.touchQuestLog sid)

theorem send_char_list_quiet (h : Quiet s s') (sid : SessionId) : Quiet s (sendCharList s' sid) :=
  ((h.executeProc _).fail _ _ (fun _ _ => by nofun)).send _ _ (by trivial)

theorem on_login_quiet (sid : SessionId) (login : CsLogin) : Quiet s (onLogin data s sid login) :=
  send_char_list_quiet ((((Quiet.refl s).executeProc _).setPlayer _ _).send _ _ (by trivial)) sid

theorem on_char_create_quiet (sid : SessionId) (req : CsCharCreate) : Quiet s (onCharCreate data s sid req) := by
  have called {Row : Type} (proc : Database → Option (Database × Row)) := (Quiet.refl s).executeProc proc
  unfold onCharCreate
  simp only
  split
  · exact send_char_list_quiet ((called _).send _ _ (by trivial)) sid
  · exact (called _).send _ _ (by trivial)

theorem send_attendance_info_quiet (h : Quiet s s') (sid : SessionId) : Quiet s (sendAttendanceInfo s' sid) :=
  (h.executeProc _).send _ _ (by trivial)

theorem on_attendance_check_quiet (sid : SessionId) : Quiet s (onAttendanceCheck s sid) :=
  ((Quiet.refl s).executeProc _).send _ _ (by trivial)

theorem fetch_name_quiet (h : Quiet s s') (sid : SessionId) (charUid : CharUid) : Quiet s (fetchName s' sid charUid) :=
  (h.executeProc _).setPlayer _ _

theorem enter_game_quiet (h : Quiet s s') (sid : SessionId) : Quiet s (enterGame data s' sid) := by
  have met := send_other_players_quiet (send_all_npcs_quiet (send_char_info_quiet h sid) sid) sid
  exact load_quest_progress_quiet (load_inventory_quiet data (send_attendance_info_quiet met sid) sid) sid

theorem on_char_select_quiet (sid : SessionId) (req : CsCharSelect) : Quiet s (onCharSelect data s sid req) := by
  have called {Row : Type} (proc : Database → Option (Database × Row)) := (Quiet.refl s).executeProc proc
  unfold onCharSelect
  simp only
  split
  · exact (called _).send _ _ (by trivial)
  · exact enter_game_quiet data (fetch_name_quiet ((called _).rolled.rolled.setPlayer _ _) _ _) _

theorem credit_kill_quiet (h : Quiet s s') (sid : SessionId) (exp gold : UInt32) : Quiet s (creditKill s' sid exp gold) :=
  check_level_up_quiet ((h.setPlayer _ _).send _ _ (by trivial)) sid

theorem credit_member_quiet (sid : SessionId) (exp gold : UInt32) (s : ServerState) (mid : SessionId) :
    Quiet s (creditMember data sid exp gold s mid) := by
  unfold creditMember
  split
  · exact Quiet.refl s
  · have credited := credit_kill_quiet (Quiet.refl s) mid exp gold
    simp only
    split
    · exact update_quest_progress_quiet data credited mid
    · exact credited

theorem drop_item_quiet (h : Quiet s s') (sid : SessionId) : Quiet s (dropItem data s' sid) := by
  have rolled := roll_drop_quiet data h
  unfold dropItem
  simp only
  split
  · exact give_item_quiet data rolled _ _
  · exact rolled

theorem touch_party_present (s : ServerState) (partyId : UInt32) (member : partyId ∈ s.party.parties) : s.touchParty partyId = s := by
  have same : s.party.parties.insertIfNew partyId {} = s.party.parties := by
    apply Std.ExtTreeMap.ext_getElem?
    intro other
    rw [Std.ExtTreeMap.getElem?_insertIfNew]
    split
    · rename_i new
      have equal := Std.LawfulEqCmp.eq_of_compare new.1
      exact absurd member (equal ▸ new.2)
    · rfl
  simp only [ServerState.touchParty, same]

theorem indexed_present (party : PartyState) (indexed : party.Indexed) (sid : SessionId) (partyId : UInt32)
    (placed : party.playerParty[sid]? = some partyId) : partyId ∈ party.parties := by
  obtain ⟨found, present, _⟩ := indexed sid partyId placed
  exact Std.ExtTreeMap.mem_iff_isSome_getElem?.mpr (by simp [present])

theorem on_chat_quiet (indexed : s.party.Indexed) (sid : SessionId) (chat : CsChat) : Quiet s (onChat s sid chat) := by
  have start := Quiet.refl s
  unfold onChat
  refine Quiet.ite (fun _ => start.broadcast _ (by trivial)) (fun _ => Quiet.ite (fun _ => ?_) (fun _ => Quiet.ite (fun _ => ?_) (fun _ => start)))
  · refine Quiet.perhaps (Quiet.fold _ (fun t other => ?_) _ start) ((Quiet.refl _).send _ _ (by trivial))
    exact ((Quiet.refl t).send other _ (by trivial)).send sid _ (by trivial)
  · split
    · rename_i partyId placed
      rw [touch_party_present s partyId (indexed_present s.party indexed sid partyId placed)]
      exact Quiet.fold _ (fun t mid => (Quiet.refl t).send mid _ (by trivial)) _ start
    · exact start.send _ _ (by trivial)

theorem share_kill_quiet (h : Quiet s s') (indexed : s.party.Indexed) (sid : SessionId) (npc : Npc) :
    Quiet s (shareKill data s' sid npc) := by
  unfold shareKill
  split
  · rename_i partyId placed
    have known := h.party ▸ placed
    rw [touch_party_present s' partyId (h.party ▸ indexed_present s.party indexed sid partyId known)]
    refine Quiet.fold _ (credit_member_quiet data sid _ _) _ (h.fail _ _ ?_)
    intro divisible zero
    rw [h.party] at zero
    exact absurd (by simpa using zero) (divisible sid partyId known)
  · exact credit_kill_quiet h sid _ _

theorem kill_npc_quiet (h : Quiet s s') (indexed : s.party.Indexed) (sid : SessionId) (index : Fin maxNpc) :
    Quiet s (killNpc data s' sid index) := by
  refine respawn_quiet (drop_item_quiet data (update_quest_progress_quiet data ?_ sid) sid)
  exact share_kill_quiet data ((h.broadcast _ (by trivial)).setNpc _ _) indexed sid _

theorem on_attack_quiet (indexed : s.party.Indexed) (sid : SessionId) (atk : CsAttack) : Quiet s (onAttack data s sid atk) := by
  have start := Quiet.refl s
  unfold onAttack
  simp only
  split
  · exact start.send _ _ (by trivial)
  · rename_i index found
    have struck : Quiet s (strike s sid index) := (start.setNpc _ _).send _ _ (by trivial)
    exact Quiet.ite (fun _ => kill_npc_quiet data struck indexed sid index) (fun _ => struck)

theorem handle_quiet (indexed : s.party.Indexed) (sid : SessionId) (request : Request) (other : request.Elsewhere) :
    Quiet s (handle data s sid request) := by
  cases request with
  | login req => exact on_login_quiet data sid req
  | charList => exact send_char_list_quiet (Quiet.refl s) sid
  | charCreate req => exact on_char_create_quiet data sid req
  | charSelect req => exact on_char_select_quiet data sid req
  | attendanceCheck => exact on_attendance_check_quiet sid
  | heartbeat => exact (Quiet.refl s).send sid _ (by trivial)
  | move req => exact on_move_quiet sid req
  | attack req => exact on_attack_quiet data indexed sid req
  | chat req => exact on_chat_quiet indexed sid req
  | itemUse req => exact on_item_use_quiet data sid req
  | itemEquip req => exact on_item_equip_quiet data sid req
  | shopOpen => exact (Quiet.refl s).send sid _ (by trivial)
  | shopBuy req => exact on_shop_buy_quiet data sid req
  | shopSell req => exact on_shop_sell_quiet data sid req
  | questList => exact on_quest_list_quiet data sid
  | questAccept req => exact on_quest_accept_quiet data sid req
  | questComplete req => exact on_quest_complete_quiet data sid req
  | partyInvite req => exact other.elim
  | partyAccept req => exact other.elim
  | partyLeave => exact other.elim

end Handlers

end MmorpgSimulator
