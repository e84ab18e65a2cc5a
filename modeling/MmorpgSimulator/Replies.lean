import MmorpgSimulator.Views

set_option autoImplicit false

namespace MmorpgSimulator

def Speaks (kind : Message → Prop) (s t : ServerState) : Prop := ∃ extra, t.sent = s.sent ++ extra ∧ ∀ entry ∈ extra, kind entry.2

namespace Speaks

variable {kind : Message → Prop} {s t u : ServerState}

theorem refl (s : ServerState) : Speaks kind s s := ⟨[], (List.append_nil _).symm, nofun⟩

theorem same (before : Speaks kind s t) (sent : u.sent = t.sent) : Speaks kind s u := by
  obtain ⟨extra, told, spoken⟩ := before
  exact ⟨extra, sent.trans told, spoken⟩

theorem adds (before : Speaks kind s t) (extra : List (SessionId × Message)) (spoken : ∀ entry ∈ extra, kind entry.2)
    (sent : u.sent = t.sent ++ extra) : Speaks kind s u := by
  obtain ⟨first, told, old⟩ := before
  refine ⟨first ++ extra, by rw [sent, told, List.append_assoc], fun entry member => ?_⟩
  rcases List.mem_append.mp member with earlier | fresh
  · exact old entry earlier
  · exact spoken entry fresh

theorem trans (first : Speaks kind s t) (second : Speaks kind t u) : Speaks kind s u := by
  obtain ⟨extra, sent, spoken⟩ := second
  exact first.adds extra spoken sent

theorem send (before : Speaks kind s t) (sid : SessionId) (message : Message) (spoken : kind message) : Speaks kind s (t.send sid message) :=
  before.adds (t.deliver sid message) (fun entry member => mem_deliver t sid entry.1 message entry.2 member ▸ spoken) rfl

theorem sendEach (before : Speaks kind s t) (receivers : List SessionId) (message : Message) (spoken : kind message)
    (sent : u.sent = t.sent ++ receivers.flatMap (fun sid => t.deliver sid message)) : Speaks kind s u := by
  refine before.adds _ (fun entry member => ?_) sent
  obtain ⟨sid, _, delivered⟩ := List.mem_flatMap.mp member
  exact mem_deliver t sid entry.1 message entry.2 delivered ▸ spoken

theorem broadcast (before : Speaks kind s t) (message : Message) (spoken : kind message) : Speaks kind s (t.broadcast message) :=
  before.sendEach t.inGame message spoken rfl

theorem broadcastExcept (before : Speaks kind s t) (exceptId : SessionId) (message : Message) (spoken : kind message) :
    Speaks kind s (t.broadcastExcept exceptId message) :=
  before.sendEach _ message spoken rfl

theorem sendAll (before : Speaks kind s t) (sid : SessionId) (messages : List Message) (spoken : ∀ message ∈ messages, kind message) :
    Speaks kind s (t.sendAll sid messages) := by
  refine before.adds (messages.flatMap (t.deliver sid)) (fun entry member => ?_) rfl
  obtain ⟨message, listed, delivered⟩ := List.mem_flatMap.mp member
  rw [mem_deliver t sid entry.1 message entry.2 delivered]
  exact spoken message listed

theorem ite {condition : Prop} [Decidable condition] (yes : condition → Speaks kind s t) (no : ¬ condition → Speaks kind s u) :
    Speaks kind s (if condition then t else u) := by
  split
  · exact yes ‹_›
  · exact no ‹_›

theorem fold {Item : Type} (act : ServerState → Item → ServerState) (each : ∀ u item, Speaks kind u (act u item)) (items : List Item)
    (before : Speaks kind s t) : Speaks kind s (items.foldl act t) :=
  Machine.foldl_keeps act (Speaks kind s) (fun u item before => before.trans (each u item)) items t before

theorem weaken {wider : Message → Prop} (before : Speaks kind s u) (within : ∀ message, kind message → wider message) :
    Speaks wider s u := by
  obtain ⟨extra, sent, spoken⟩ := before
  exact ⟨extra, sent, fun entry member => within entry.2 (spoken entry member)⟩

theorem unseen {View : Type} {view : Client → View} (before : Speaks (Hushed view) s u) (clients : SessionId → Client) (sid : SessionId) :
    Unseen view clients sid s u := by
  obtain ⟨extra, sent, spoken⟩ := before
  exact unseen_sends extra (fun message member => spoken (sid, message) member) sent

end Speaks

def Request.Answers : Request → Message → Prop
  | .login _, .loginResult _ => True
  | .login _, .charList _ => True
  | .charList, .charList _ => True
  | .charCreate _, .charCreateResult _ => True
  | .charCreate _, .charList _ => True
  | .charSelect _, message => match message with
      | .charInfo _ | .npcSpawn _ | .attendanceInfo _ | .inventoryList _ | .equipResult _ | .error _ => True
      | _ => False
  | .attendanceCheck, .attendanceResult _ => True
  | .heartbeat, .heartbeat => True
  | .move _, .moveResult _ => True
  | .move _, .charInfo _ => True
  | .attack _, message => match message with
      | .attackResult _ | .npcDeath _ | .npcSpawn _ | .expUpdate _ | .levelUp _ | .questProgress _ | .itemDrop _ => True
      | _ => False
  | .chat _, .chat _ => True
  | .chat _, .error _ => True
  | .itemUse _, message => match message with
      | .itemUseResult _ | .inventoryUpdate _ | .charInfo _ => True
      | _ => False
  | .itemEquip _, message => match message with
      | .equipResult _ | .inventoryUpdate _ | .charInfo _ => True
      | _ => False
  | .shopOpen, .shopList _ => True
  | .shopBuy _, .inventoryUpdate _ => True
  | .shopBuy _, .shopResult _ => True
  | .shopSell _, .inventoryUpdate _ => True
  | .shopSell _, .shopResult _ => True
  | .questList, .questList _ => True
  | .questList, .error _ => True
  | .questAccept _, .questAcceptResult _ => True
  | .questComplete _, message => match message with
      | .itemDrop _ | .expUpdate _ | .levelUp _ | .charInfo _ | .questReward _ => True
      | _ => False
  | .partyInvite _, .partyInvite _ => True
  | .partyInvite _, .error _ => True
  | .partyAccept _, .partyUpdate _ => True
  | .partyLeave, .partyUpdate _ => True
  | .partyLeave, .partyLeave _ => True
  | _, _ => False

section Parts

variable {kind : Message → Prop} (data : GameData) {s t : ServerState} (before : Speaks kind s t) (sid : SessionId)
include before

theorem send_char_info_speaks (info : ∀ info, kind (.charInfo info)) : Speaks kind s (sendCharInfo t sid) := before.send sid _ (info _)

theorem check_level_up_speaks (level : ∀ lvup, kind (.levelUp lvup)) : Speaks kind s (checkLevelUp t sid) := by
  refine Speaks.sendAll (t := t.setPlayer sid (levelUps (t.player sid)).1) (before.same rfl) sid _ (fun message member => ?_)
  obtain ⟨lvup, _, rfl⟩ := List.mem_map.mp member
  exact level lvup

theorem give_item_speaks (itemId : UInt16) (drop : ∀ drop, kind (.itemDrop drop)) : Speaks kind s (giveItem data t sid itemId) := by
  rw [giveItem]
  simp only
  split
  · exact before.same rfl
  · split
    · exact before.same rfl
    · exact Speaks.send (before.same rfl) sid _ (drop _)

theorem update_quest_progress_speaks (progress : ∀ prog, kind (.questProgress prog)) : Speaks kind s (updateQuestProgress data t sid) := by
  refine Speaks.fold (updateQuest data sid) (fun t entry => ?_) _ (before.same rfl)
  rw [updateQuest]
  exact .ite (fun _ => Speaks.send ((Speaks.refl t).same rfl) sid _ (progress _)) (fun _ => Speaks.refl t)

theorem send_char_list_speaks (list : ∀ list, kind (.charList list)) : Speaks kind s (sendCharList t sid) :=
  Speaks.send (before.same rfl) sid _ (list _)

theorem send_party_update_speaks (partyId : UInt32) (update : ∀ upd, kind (.partyUpdate upd)) : Speaks kind s (sendPartyUpdate t partyId) := by
  rw [sendPartyUpdate]
  split
  · exact before
  · exact .fold _ (fun t mid => (Speaks.refl t).send mid _ (update _)) _ before

theorem remove_from_party_speaks (update : ∀ upd, kind (.partyUpdate upd)) (leave : ∀ leave, kind (.partyLeave leave)) :
    Speaks kind s (removeFromParty t sid) := by
  rw [removeFromParty]
  split
  · exact before
  · simp only
    have told (members : List SessionId) (message : Message) (spoken : kind message) :
        Speaks kind s (members.foldl (fun t mid => t.send mid message) (t.setParty (t.party.without sid))) :=
      .fold _ (fun t mid => (Speaks.refl t).send mid message spoken) members (before.same rfl)
    split
    · exact before.same rfl
    · refine .ite (fun _ => ?_) (fun _ => send_party_update_speaks (told _ _ (leave _)) _ update)
      split
      · exact told _ _ (leave _)
      · exact (told _ _ (leave _)).send _ _ (leave _)

theorem credit_kill_speaks (exp gold : UInt32) (update : ∀ update, kind (.expUpdate update)) (level : ∀ lvup, kind (.levelUp lvup)) :
    Speaks kind s (creditKill t sid exp gold) := by
  have paid : Speaks kind s (t.setPlayer sid (rewarded (t.player sid) exp gold)) := before.same rfl
  exact check_level_up_speaks (paid.send sid _ (update _)) sid level

theorem share_kill_speaks (npc : Npc) (update : ∀ update, kind (.expUpdate update)) (level : ∀ lvup, kind (.levelUp lvup))
    (progress : ∀ prog, kind (.questProgress prog)) : Speaks kind s (shareKill data t sid npc) := by
  rw [shareKill]
  split
  · refine .fold _ (fun t mid => ?_) _ (before.same rfl)
    have credited (exp gold : UInt32) := credit_kill_speaks (Speaks.refl t) mid exp gold update level
    rw [creditMember]
    exact .ite (fun _ => Speaks.refl t)
      (fun _ => .ite (fun _ => update_quest_progress_speaks data (credited _ _) mid progress) (fun _ => credited _ _))
  · exact credit_kill_speaks before sid _ _ update level

theorem drop_item_speaks (drop : ∀ drop, kind (.itemDrop drop)) : Speaks kind s (dropItem data t sid) := by
  have rolled : Speaks kind s (rollDrop data t).1 := by
    rw [rollDrop]
    split
    · exact before
    · exact before.same rfl
  exact .ite (fun _ => give_item_speaks data rolled sid _ drop) (fun _ => rolled)

theorem respawn_speaks (spawn : ∀ spawn, kind (.npcSpawn spawn)) : Speaks kind s (respawn t) := by
  rw [respawn]
  split
  · exact before
  · exact Speaks.broadcast (t := { t.rolled.rolled with npcs := _, nextNpcUid := _ }) (before.same rfl) _ (spawn _)

end Parts

section Handlers

variable (data : GameData) (s : ServerState) (sid : SessionId)

theorem on_item_use_speaks (req : CsItemUse) : Speaks (Request.itemUse req).Answers s (onItemUse data s sid req) := by
  rw [onItemUse]
  simp only
  split
  · exact (Speaks.refl s).same rfl
  · split
    · exact (Speaks.refl s).same rfl
    · refine .ite (fun _ => (Speaks.refl s).same rfl) (fun _ => ?_)
      have start (t : ServerState) (sent : t.sent = s.sent) : Speaks (Request.itemUse req).Answers s t := (Speaks.refl s).same sent
      exact send_char_info_speaks (((start _ (by rfl)).broadcast _ (by trivial)).send sid _ (by trivial)) sid (fun _ => trivial)

theorem on_item_equip_speaks (req : CsItemEquip) : Speaks (Request.itemEquip req).Answers s (onItemEquip data s sid req) := by
  have start (t : ServerState) (sent : t.sent = s.sent) : Speaks (Request.itemEquip req).Answers s t := (Speaks.refl s).same sent
  rw [onItemEquip]
  simp only
  split
  · exact start _ rfl
  · split
    · exact start _ rfl
    · refine .ite (fun _ => (start _ (by rfl)).send sid _ (by trivial)) (fun _ => ?_)
      exact send_char_info_speaks (((start _ (by rfl)).send sid _ (by trivial)).send sid _ (by trivial)) sid (fun _ => trivial)

theorem on_shop_buy_speaks (req : CsShopBuy) : Speaks (Request.shopBuy req).Answers s (onShopBuy data s sid req) := by
  have start (t : ServerState) (sent : t.sent = s.sent) : Speaks (Request.shopBuy req).Answers s t := (Speaks.refl s).same sent
  rw [onShopBuy]
  simp only
  split
  · exact (start s rfl).send sid _ (by trivial)
  · refine .ite (fun _ => (start s rfl).send sid _ (by trivial)) (fun _ => ?_)
    split
    · exact (start _ (by rfl)).send sid _ (by trivial)
    · exact ((start _ (by rfl)).send sid _ (by trivial)).send sid _ (by trivial)

theorem on_shop_sell_speaks (req : CsShopSell) : Speaks (Request.shopSell req).Answers s (onShopSell data s sid req) := by
  have start (t : ServerState) (sent : t.sent = s.sent) : Speaks (Request.shopSell req).Answers s t := (Speaks.refl s).same sent
  rw [onShopSell]
  simp only
  refine .ite (fun _ => (start _ (by rfl)).send sid _ (by trivial)) (fun _ => ?_)
  have removed (t : ServerState) (condition : Prop) [Decidable condition] (itemUid : ItemUid) :
      (if condition then removeItemFromDb t itemUid else t).sent = t.sent := by
    split <;> rfl
  exact ((start _ (by exact removed _ _ _)).send sid _ (by trivial)).send sid _ (by trivial)

theorem on_quest_accept_speaks (req : CsQuestAccept) : Speaks (Request.questAccept req).Answers s (onQuestAccept data s sid req) := by
  have start (t : ServerState) (sent : t.sent = s.sent) : Speaks (Request.questAccept req).Answers s t := (Speaks.refl s).same sent
  rw [onQuestAccept]
  simp only
  refine .ite (fun _ => (start s rfl).send sid _ (by trivial)) (fun _ => ?_)
  split
  · exact (start s rfl).send sid _ (by trivial)
  · exact .ite (fun _ => (start _ (by rfl)).send sid _ (by trivial))
      (fun _ => .ite (fun _ => (start _ (by rfl)).send sid _ (by trivial)) (fun _ => (start _ (by rfl)).send sid _ (by trivial)))

theorem on_quest_complete_speaks (req : CsQuestComplete) : Speaks (Request.questComplete req).Answers s (onQuestComplete data s sid req) := by
  have start (t : ServerState) (sent : t.sent = s.sent) : Speaks (Request.questComplete req).Answers s t := (Speaks.refl s).same sent
  rw [onQuestComplete]
  simp only
  refine .ite (fun _ => (start s rfl).send sid _ (by trivial)) (fun _ => ?_)
  split
  · exact (start s rfl).send sid _ (by trivial)
  · split
    · exact (start _ (by rfl)).send sid _ (by trivial)
    · refine .ite (fun _ => (start _ (by rfl)).send sid _ (by trivial)) (fun _ => ?_)
      have given (t : ServerState) (sent : t.sent = s.sent) (itemId : UInt16) :
          Speaks (Request.questComplete req).Answers s (if itemId > 0 then giveItem data t sid itemId else t) :=
        .ite (fun _ => give_item_speaks data (start t sent) sid itemId (fun _ => trivial)) (fun _ => start t sent)
      refine Speaks.send (send_char_info_speaks (check_level_up_speaks (Speaks.send (given _ ?_ _) sid _ (by trivial)) sid ?_) sid ?_)
        sid _ (by trivial)
      · rfl
      · exact fun _ => trivial
      · exact fun _ => trivial

theorem on_attack_speaks (req : CsAttack) : Speaks (Request.attack req).Answers s (onAttack data s sid req) := by
  rw [onAttack]
  split
  · exact (Speaks.refl s).send sid _ (by trivial)
  · rename_i index _
    have struck : Speaks (Request.attack req).Answers s (strike s sid index) :=
      Speaks.send (t := setNpc s index (struck (s.player sid) s.npcs[index])) ((Speaks.refl s).same rfl) sid _ (by trivial)
    refine .ite (fun _ => ?_) (fun _ => struck)
    have announced : Speaks (Request.attack req).Answers s (announceDeath (strike s sid index) index) :=
      Speaks.same (struck.broadcast _ (by trivial)) rfl
    have shared := share_kill_speaks data announced sid (strike s sid index).npcs[index] (fun _ => trivial) (fun _ => trivial) (fun _ => trivial)
    have counted := update_quest_progress_speaks data shared sid (fun _ => trivial)
    exact respawn_speaks (drop_item_speaks data counted sid (fun _ => trivial)) (fun _ => trivial)

theorem on_chat_speaks (req : CsChat) : Speaks (Request.chat req).Answers s (onChat s sid req) := by
  have start : Speaks (Request.chat req).Answers s s := Speaks.refl s
  rw [onChat]
  refine .ite (fun _ => start.broadcast _ (by trivial)) (fun _ => .ite (fun _ => ?_) (fun _ => .ite (fun _ => ?_) (fun _ => start)))
  · have replied (reply : ScChat) : Speaks (Request.chat req).Answers s
        ((sessionsNamed s req.targetName).foldl (fun t other => (t.send other (.chat reply)).send sid (.chat reply)) s) :=
      start.fold _ (fun t other => ((Speaks.refl t).send other _ trivial).send sid _ trivial) _
    exact .ite (fun _ => (replied _).send sid _ (by trivial)) (fun _ => replied _)
  · split
    · exact .fold _ (fun t mid => (Speaks.refl t).send mid _ (by trivial)) _ (start.same (by rfl))
    · exact start.send sid _ (by trivial)

theorem on_party_invite_speaks (req : CsPartyInvite) : Speaks (Request.partyInvite req).Answers s (onPartyInvite s sid req) := by
  have touched : Speaks (Request.partyInvite req).Answers s ((s.party.playerParty[sid]?).elim s s.touchParty) := by
    cases s.party.playerParty[sid]? <;> exact (Speaks.refl s).same rfl
  rw [onPartyInvite]
  refine .ite (fun _ => touched.send sid _ (by trivial)) (fun _ => ?_)
  split
  · exact touched.send sid _ (by trivial)
  · exact .ite (fun _ => touched.send sid _ (by trivial)) (fun _ => .ite (fun _ => touched.send sid _ (by trivial))
      (fun _ => Speaks.send (touched.same (by rfl)) _ _ (by trivial)))

theorem on_party_accept_speaks (req : CsPartyAccept) : Speaks (Request.partyAccept req).Answers s (onPartyAccept s sid req) := by
  have start (t : ServerState) (sent : t.sent = s.sent) : Speaks (Request.partyAccept req).Answers s t := (Speaks.refl s).same sent
  rw [onPartyAccept]
  split
  · exact start s rfl
  · refine .ite (fun _ => start _ (by rfl)) (fun _ => .ite (fun _ => start _ (by rfl)) (fun _ => ?_))
    rw [joinParty]
    exact .ite (fun _ => start _ (by rfl)) (fun _ => send_party_update_speaks (start _ (by rfl)) _ (fun _ => trivial))

theorem on_char_create_speaks (req : CsCharCreate) : Speaks (Request.charCreate req).Answers s (onCharCreate data s sid req) := by
  have start (t : ServerState) (sent : t.sent = s.sent) : Speaks (Request.charCreate req).Answers s t := (Speaks.refl s).same sent
  rw [onCharCreate]
  exact .ite (fun _ => send_char_list_speaks ((start _ (by rfl)).send sid _ (by trivial)) sid (fun _ => trivial))
    (fun _ => (start _ (by rfl)).send sid _ (by trivial))

theorem load_inventory_speaks (kind : Message → Prop) (list : ∀ list, kind (.inventoryList list)) (equip : ∀ worn, kind (.equipResult worn)) :
    Speaks kind s (loadInventory data s sid) := by
  have start (t : ServerState) (sent : t.sent = s.sent) : Speaks kind s t := (Speaks.refl s).same sent
  rw [loadInventory]
  exact .ite (fun _ => ((start _ (by rfl)).send sid _ (list _)).send sid _ (equip _)) (fun _ => (start _ (by rfl)).send sid _ (list _))

theorem enter_game_speaks (req : CsCharSelect) : Speaks (Request.charSelect req).Answers s (enterGame data s sid) := by
  have informed : Speaks (Request.charSelect req).Answers s (sendCharInfo s sid) := send_char_info_speaks (Speaks.refl s) sid (fun _ => trivial)
  have spawned : Speaks (Request.charSelect req).Answers s (sendAllNpcs (sendCharInfo s sid) sid) := by
    refine informed.sendAll sid _ (fun message member => ?_)
    obtain ⟨npc, _, rfl⟩ := List.mem_map.mp member
    trivial
  have met : Speaks (Request.charSelect req).Answers s (sendOtherPlayers (sendAllNpcs (sendCharInfo s sid) sid) sid) := by
    refine Speaks.broadcastExcept (spawned.sendAll sid _ (fun message member => ?_)) sid _ (by trivial)
    obtain ⟨other, _, rfl⟩ := List.mem_map.mp member
    trivial
  have attended : Speaks (Request.charSelect req).Answers s
      (sendAttendanceInfo (sendOtherPlayers (sendAllNpcs (sendCharInfo s sid) sid) sid) sid) :=
    Speaks.send (met.same (by rfl)) sid _ (by trivial)
  have dressed := attended.trans (load_inventory_speaks data _ sid _ (fun _ => trivial) (fun _ => trivial))
  exact dressed.same rfl

theorem on_char_select_speaks (req : CsCharSelect) : Speaks (Request.charSelect req).Answers s (onCharSelect data s sid req) := by
  rw [onCharSelect]
  simp only
  split
  · exact Speaks.send ((Speaks.refl s).same (by rfl)) sid _ (by trivial)
  · exact Speaks.trans ((Speaks.refl s).same (by rfl)) (enter_game_speaks data _ sid req)

theorem handle_speaks (request : Request) : Speaks request.Answers s (handle data s sid request) := by
  have start (request : Request) (t : ServerState) (sent : t.sent = s.sent) : Speaks request.Answers s t := (Speaks.refl s).same sent
  cases request with
  | login req => exact send_char_list_speaks ((start _ _ (by rfl)).send sid _ (by trivial)) sid (fun _ => trivial)
  | charList => exact send_char_list_speaks (Speaks.refl s) sid (fun _ => trivial)
  | charCreate req => exact on_char_create_speaks data s sid req
  | charSelect req => exact on_char_select_speaks data s sid req
  | attendanceCheck => exact (start _ _ (by rfl)).send sid _ (by trivial)
  | heartbeat => exact (start _ s rfl).send sid _ (by trivial)
  | move req => exact ((start _ _ (by rfl)).send sid _ (by trivial)).broadcastExcept sid _ (by trivial)
  | attack req => exact on_attack_speaks data s sid req
  | chat req => exact on_chat_speaks s sid req
  | itemUse req => exact on_item_use_speaks data s sid req
  | itemEquip req => exact on_item_equip_speaks data s sid req
  | shopOpen => exact (start _ s rfl).send sid _ (by trivial)
  | shopBuy req => exact on_shop_buy_speaks data s sid req
  | shopSell req => exact on_shop_sell_speaks data s sid req
  | questList =>
      exact .ite (fun _ => (start _ s rfl).send sid _ (by trivial)) (fun _ => (start _ _ (by rfl)).send sid _ (by trivial))
  | questAccept req => exact on_quest_accept_speaks data s sid req
  | questComplete req => exact on_quest_complete_speaks data s sid req
  | partyInvite req => exact on_party_invite_speaks s sid req
  | partyAccept req => exact on_party_accept_speaks s sid req
  | partyLeave => exact remove_from_party_speaks (Speaks.refl s) sid (fun _ => trivial) (fun _ => trivial)

def Farewell : Message → Prop
  | .partyUpdate _ => True
  | .partyLeave _ => True
  | .charLeave _ => True
  | _ => False

theorem on_disconnect_speaks : Speaks Farewell s (onDisconnect s sid) := by
  have removed : Speaks Farewell s (removeFromParty s sid) :=
    remove_from_party_speaks (Speaks.refl s) sid (fun _ => trivial) (fun _ => trivial)
  have left : Speaks Farewell s (onPlayerDisconnect s sid) := removed.same rfl
  rw [onDisconnect]
  split
  · exact left.same rfl
  · split
    · exact Speaks.same (left.broadcastExcept sid _ (by trivial)) rfl
    · exact left.same rfl

end Handlers

end MmorpgSimulator
