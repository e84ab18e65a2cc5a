import MmorpgSimulator.Herd
import MmorpgSimulator.Standstill

set_option autoImplicit false

namespace MmorpgSimulator

-- What a request of one session leaves alone: the NPCs and the counter of their uids, the database, the parties
-- and everything that belongs to the other sessions, what they are sent included.
structure Contained (sid : SessionId) (s t : ServerState) : Prop where
  npcs : herd t = herd s
  db : t.db = s.db
  party : t.party = s.party
  players : ∀ other, other ≠ sid → t.player other = s.player other
  inventories : ∀ other, other ≠ sid → t.inventory other = s.inventory other
  logs : ∀ other, other ≠ sid → t.questLog other = s.questLog other
  news : ∀ other, other ≠ sid → inbox t.sent other = inbox s.sent other

def Unheard (s : ServerState) (sid : SessionId) (receivers : List SessionId) : Prop :=
  ∀ other ∈ receivers, other ≠ sid → s.line other ≠ some true

-- The next call is not carried out, or finds everything already as it would leave it.
def Uneventful (s : ServerState) (already : Prop) : Prop := s.outcome = .failed ∨ already

theorem mem_deliver_iff (s : ServerState) (sid receiver : SessionId) (message arrived : Message) :
    (receiver, arrived) ∈ s.deliver sid message ↔ receiver = sid ∧ arrived = message ∧ s.line sid = some true := by
  rw [deliver_line]
  by_cases open_ : s.line sid = some true <;> simp [open_]

theorem told_iff (s : ServerState) (receivers : List SessionId) (message arrived : Message) (other : SessionId) :
    (other, arrived) ∈ receivers.flatMap (fun mid => s.deliver mid message) ↔
      other ∈ receivers ∧ arrived = message ∧ s.line other = some true := by
  rw [List.mem_flatMap]
  constructor
  · rintro ⟨receiver, listed, delivered⟩
    obtain ⟨rfl, same, open_⟩ := (mem_deliver_iff s receiver other message arrived).mp delivered
    exact ⟨listed, same, open_⟩
  · rintro ⟨listed, same, open_⟩
    exact ⟨other, listed, (mem_deliver_iff s other other message arrived).mpr ⟨rfl, same, open_⟩⟩

namespace Contained

variable {s t : ServerState} {sid : SessionId}

theorem refl (s : ServerState) (sid : SessionId) : Contained sid s s :=
  ⟨rfl, rfl, rfl, fun _ _ => rfl, fun _ _ => rfl, fun _ _ => rfl, fun _ _ => rfl⟩

theorem trans {u : ServerState} (first : Contained sid s t) (second : Contained sid t u) : Contained sid s u where
  npcs := second.npcs.trans first.npcs
  db := second.db.trans first.db
  party := second.party.trans first.party
  players := fun other apart => (second.players other apart).trans (first.players other apart)
  inventories := fun other apart => (second.inventories other apart).trans (first.inventories other apart)
  logs := fun other apart => (second.logs other apart).trans (first.logs other apart)
  news := fun other apart => (second.news other apart).trans (first.news other apart)

theorem symm (h : Contained sid s t) : Contained sid t s where
  npcs := h.npcs.symm
  db := h.db.symm
  party := h.party.symm
  players := fun other apart => (h.players other apart).symm
  inventories := fun other apart => (h.inventories other apart).symm
  logs := fun other apart => (h.logs other apart).symm
  news := fun other apart => (h.news other apart).symm

theorem between {s' t' : ServerState} (before : Contained sid s s') (after : Contained sid t' t) :
    Contained sid s t ↔ Contained sid s' t' :=
  ⟨fun h => before.symm.trans (h.trans after.symm), fun h => before.trans (h.trans after)⟩

theorem setPlayer (h : Contained sid s t) (player : PlayerData) : Contained sid s (t.setPlayer sid player) where
  npcs := h.npcs
  db := h.db
  party := h.party
  players := fun other apart => (player_set_other t sid other player apart).trans (h.players other apart)
  inventories := h.inventories
  logs := h.logs
  news := h.news

theorem setInventory (h : Contained sid s t) (inv : Inventory) : Contained sid s (t.setInventory sid inv) where
  npcs := h.npcs
  db := h.db
  party := h.party
  players := h.players
  inventories := fun other apart => (inventory_set_other t sid other inv apart).trans (h.inventories other apart)
  logs := h.logs
  news := h.news

theorem touchInventory (h : Contained sid s t) : Contained sid s (t.touchInventory sid) where
  npcs := h.npcs
  db := h.db
  party := h.party
  players := h.players
  inventories := fun other apart => (inventory_touch t sid other).trans (h.inventories other apart)
  logs := h.logs
  news := h.news

theorem setQuestLog (h : Contained sid s t) (qp : QuestLog) : Contained sid s (t.setQuestLog sid qp) where
  npcs := h.npcs
  db := h.db
  party := h.party
  players := h.players
  inventories := h.inventories
  logs := fun other apart => (quest_log_set_other t sid other qp apart).trans (h.logs other apart)
  news := h.news

theorem touchQuestLog (h : Contained sid s t) : Contained sid s (t.touchQuestLog sid) where
  npcs := h.npcs
  db := h.db
  party := h.party
  players := h.players
  inventories := h.inventories
  logs := fun other apart => (quest_log_touch t sid other).trans (h.logs other apart)
  news := h.news

theorem fail (h : Contained sid s t) (happens : Bool) (reason : Fault) : Contained sid s (t.fail happens reason) :=
  ⟨h.npcs, h.db, h.party, h.players, h.inventories, h.logs, h.news⟩

theorem call {Row : Type} (h : Contained sid s t) (proc : Database → Option (Database × Row)) (same : t.procDb proc = t.db) :
    Contained sid s (t.executeProc proc).1 :=
  ⟨h.npcs, same.trans h.db, h.party, h.players, h.inventories, h.logs, h.news⟩

theorem sends (h : Contained sid s t) (extra : List (SessionId × Message)) (own : ∀ entry ∈ extra, entry.1 = sid) :
    Contained sid s { t with sent := t.sent ++ extra } where
  npcs := h.npcs
  db := h.db
  party := h.party
  players := h.players
  inventories := h.inventories
  logs := h.logs
  news := by
    intro other apart
    have silent : inbox extra other = [] := by
      rw [inbox, List.filterMap_eq_nil_iff]
      intro entry member
      exact if_neg (fun same => apart (same.symm.trans (own entry member)))
    rw [inbox_append, silent, List.append_nil]
    exact h.news other apart

theorem tell (h : Contained sid s t) (receivers : List SessionId) (message : Message) (unheard : Unheard t sid receivers) :
    Contained sid s (t.tell receivers message) := by
  apply h.sends
  rintro ⟨other, arrived⟩ member
  obtain ⟨listed, _, open_⟩ := (told_iff t receivers message arrived other).mp member
  by_contra apart
  exact unheard other listed apart open_

theorem sendAll (h : Contained sid s t) (messages : List Message) : Contained sid s (t.sendAll sid messages) := by
  apply h.sends
  rintro ⟨other, arrived⟩ member
  obtain ⟨message, _, delivered⟩ := List.mem_flatMap.mp member
  exact ((mem_deliver_iff t sid other message arrived).mp delivered).1

theorem send (h : Contained sid s t) (message : Message) : Contained sid s (t.send sid message) := by
  have own := h.sendAll [message]
  rwa [ServerState.sendAll, List.flatMap_singleton] at own

theorem sendCharInfo (h : Contained sid s t) : Contained sid s (MmorpgSimulator.sendCharInfo t sid) := h.send _

theorem checkLevelUp (h : Contained sid s t) : Contained sid s (MmorpgSimulator.checkLevelUp t sid) := (h.setPlayer _).sendAll _

theorem spoken (h : Contained sid s t) (extra : List (SessionId × Message)) (sent : t.sent = s.sent ++ extra) (other : SessionId)
    (message : Message) (member : (other, message) ∈ extra) : other = sid := by
  by_contra apart
  have silent := h.news other apart
  rw [sent, inbox_append, List.append_right_eq_self] at silent
  have arrived := (mem_inbox extra other message).mpr member
  rw [silent] at arrived
  exact absurd arrived List.not_mem_nil

end Contained

section Messages

variable {s t u : ServerState} {sid : SessionId}

theorem Contained.unheard (h : Contained sid s t) (receivers : List SessionId) (message : Message)
    (prior : List (SessionId × Message)) (earlier : s.sent <+: prior)
    (sent : prior ++ receivers.flatMap (fun mid => u.deliver mid message) <+: t.sent) : Unheard u sid receivers := by
  intro other listed apart open_
  obtain ⟨before, rfl⟩ := earlier
  obtain ⟨after, same⟩ := sent
  have told := (told_iff u receivers message message other).mpr ⟨listed, rfl, open_⟩
  refine apart (h.spoken (before ++ receivers.flatMap (fun mid => u.deliver mid message) ++ after) ?_ other message ?_)
  · rw [← same, List.append_assoc, List.append_assoc, List.append_assoc]
  · exact List.mem_append_left after (List.mem_append_right before told)

theorem unheard_set_player (s : ServerState) (sid : SessionId) (player : PlayerData) :
    Unheard (s.setPlayer sid player) sid (s.setPlayer sid player).inGame ↔ Unheard s sid s.inGame := by
  have listed (other : SessionId) (apart : other ≠ sid) : other ∈ (s.setPlayer sid player).inGame ↔ other ∈ s.inGame := by
    rw [mem_in_game, mem_in_game, player_set_other s sid other player apart]
  constructor
  · intro unheard other playing apart
    rw [← line_set_player s sid other player]
    exact unheard other ((listed other apart).mpr playing) apart
  · intro unheard other playing apart
    rw [line_set_player s sid other player]
    exact unheard other ((listed other apart).mp playing) apart

theorem call_same_iff {Row : Type} (s : ServerState) (proc : Database → Database × Row) :
    s.procDb (fun db => some (proc db)) = s.db ↔ s.outcome = .failed ∨ (proc s.db).1 = s.db := by
  rw [ServerState.procDb]
  cases s.outcome <;> simp

theorem call_contained {Row : Type} (s : ServerState) (sid : SessionId) (proc : Database → Option (Database × Row)) :
    Contained sid s (s.executeProc proc).1 ↔ s.procDb proc = s.db :=
  ⟨fun h => h.db, (Contained.refl s sid).call proc⟩

theorem write_contained (s : ServerState) (sid : SessionId) (proc : Database → Database) :
    Contained sid s (s.executeProc (fun db => some (proc db, ()))).1 ↔ s.outcome = .failed ∨ proc s.db = s.db :=
  (call_contained s sid _).trans (call_same_iff s (fun db => (proc db, ())))

end Messages

section Conditions

variable (data : GameData) (s : ServerState) (sid : SessionId)

def itemIn (slot : UInt8) : Option ItemData :=
  if maxInventory ≤ slot.toNat ∨ ((s.inventory sid).slot slot.toNat).itemTid = 0 then none
  else data.findItem ((s.inventory sid).slot slot.toNat).itemTid

def uidIn (slot : UInt8) : ItemUid := ((s.inventory sid).slot slot.toNat).itemUid

def questState (questId : UInt16) : QuestProgress := ((s.questLog sid)[questId]?).getD {}

def Harmless : Request → Prop
  | .attendanceCheck => Uneventful s (s.db.attended (s.player sid).charUid = true)
  | .move _ => Unheard s sid s.inGame
  | .attack req => findTarget s (s.player sid) req.targetUid = none
  | .chat chat =>
      (chat.channel = 0 → Unheard s sid s.inGame) ∧ (chat.channel = 1 → Unheard s sid (sessionsNamed s chat.targetName)) ∧
        (chat.channel = 2 → ∀ partyId : UInt32, s.party.playerParty[sid]? = some partyId → Unheard s sid (s.party.membersOf partyId))
  | .itemUse req =>
      ∀ item, itemIn data s sid req.slot = some item → item.type = consumableType →
        Unheard s sid s.inGame ∧ Uneventful s (s.db.Gone (uidIn s sid req.slot))
  | .itemEquip req =>
      ∀ item, itemIn data s sid req.slot = some item → item.type ≠ consumableType →
        Uneventful s (s.db.equipment (s.player sid).charUid (equipSlotOf item) = some (uidIn s sid req.slot))
  | .shopBuy req =>
      ∀ item, data.findItem req.itemId = some item → item.price.toUInt64 ≤ (s.player sid).gold →
        findEmptySlot (s.inventory sid) ≠ none → Uneventful s False
  | .shopSell req =>
      req.slot.toNat < maxInventory → ((s.inventory sid).slot req.slot.toNat).itemTid ≠ 0 → uidIn s sid req.slot ≠ 0 →
        Uneventful s (s.db.Gone (uidIn s sid req.slot))
  | .questAccept req =>
      isNearQuestNpc (s.player sid) = true → (data.findQuest req.questId).isSome →
        (questState s sid req.questId).status ∉ [1, 2, 3] →
          Uneventful s ((s.db.questProgress (s.player sid).charUid)[req.questId]? = some ⟨1, 0⟩)
  | .questComplete req =>
      isNearQuestNpc (s.player sid) = true → ∀ quest, data.findQuest req.questId = some quest →
        (questState s sid req.questId).status = 2 →
          Uneventful s ((s.db.questProgress (s.player sid).charUid)[req.questId]? =
            some { questState s sid req.questId with status := 3 }) ∧
          (0 < quest.rewardItemId → findEmptySlot (s.inventory sid) ≠ none → (data.findItem quest.rewardItemId).isSome →
            s.dbPlan.tail.headD .ok = .failed)
  | .partyInvite req =>
      ∀ target, invitee s sid req = some target → s.party.pendingInvites[target]? = some sid ∧ s.line target ≠ some true
  | .partyAccept _ => s.party.pendingInvites[sid]? = none
  | .partyLeave => s.party.playerParty[sid]? = none
  | _ => True

end Conditions

section Handlers

variable (data : GameData) (s : ServerState) (sid : SessionId)

theorem on_attendance_check_contained :
    Contained sid s (onAttendanceCheck s sid) ↔ Uneventful s (s.db.attended (s.player sid).charUid = true) := by
  rw [Uneventful, ← attendance_check_same_iff, ← call_same_iff s (fun db => db.spAttendanceCheck _)]
  exact ⟨fun h => h.db, fun same => ((Contained.refl s sid).call _ same).send _⟩

theorem move_contained (player : PlayerData) (reply news : Message) :
    Contained sid s (((s.setPlayer sid player).send sid reply).broadcastExcept sid news) ↔ Unheard s sid s.inGame := by
  rw [← unheard_set_player s sid player]
  constructor
  · intro h other listed apart
    have unheard := h.unheard (u := s.setPlayer sid player) ((s.setPlayer sid player).inGame.filter (fun mid => mid ≠ sid)) news _
      (List.prefix_append _ _) List.prefix_rfl
    exact unheard other (List.mem_filter.mpr ⟨listed, decide_eq_true apart⟩) apart
  · intro unheard
    refine (((Contained.refl s sid).setPlayer player).send reply).tell _ news ?_
    intro other listed apart
    exact unheard other (List.mem_filter.mp listed).1 apart

theorem on_move_contained (req : CsMove) : Contained sid s (onMove s sid req) ↔ Unheard s sid s.inGame :=
  move_contained s sid _ _ _

theorem on_attack_contained (populated : Populated s) (req : CsAttack) :
    Contained sid s (onAttack data s sid req) ↔ findTarget s (s.player sid) req.targetUid = none := by
  cases target : findTarget s (s.player sid) req.targetUid with
  | none =>
      simp only [onAttack, target, iff_true]
      exact (Contained.refl s sid).send _
  | some index => exact iff_of_false (fun h => on_attack_moves data s sid index populated req target h.npcs) (by simp)

theorem fold_replies (found : List SessionId) (reply : Message) :
    found.foldl (fun t other => (t.send other reply).send sid reply) s =
      { s with sent := s.sent ++ found.flatMap (fun other => s.deliver other reply ++ s.deliver sid reply) } := by
  induction found generalizing s with
  | nil => simp
  | cons first rest ih =>
      rw [List.foldl_cons, ih]
      simp only [ServerState.send, List.flatMap_cons, List.append_assoc]
      rfl

theorem replies_contained (found : List SessionId) (reply : Message) :
    Contained sid s (found.foldl (fun t other => (t.send other reply).send sid reply) s) ↔ Unheard s sid found := by
  rw [fold_replies]
  constructor
  · intro h other listed apart open_
    have direct := (mem_deliver_iff s other other reply reply).mpr ⟨rfl, rfl, open_⟩
    exact apart (h.spoken _ rfl other reply (List.mem_flatMap.mpr ⟨other, listed, List.mem_append_left _ direct⟩))
  · intro unheard
    apply (Contained.refl s sid).sends
    rintro ⟨receiver, arrived⟩ member
    obtain ⟨other, listed, delivered⟩ := List.mem_flatMap.mp member
    by_contra apart
    rcases List.mem_append.mp delivered with direct | echo
    · obtain ⟨rfl, _, open_⟩ := (mem_deliver_iff s other receiver reply arrived).mp direct
      exact unheard receiver listed apart open_
    · exact apart ((mem_deliver_iff s sid receiver reply arrived).mp echo).1

theorem tell_contained (receivers : List SessionId) (message : Message) :
    Contained sid s (s.tell receivers message) ↔ Unheard s sid receivers := by
  constructor
  · intro h
    exact h.unheard receivers message s.sent List.prefix_rfl List.prefix_rfl
  · exact (Contained.refl s sid).tell receivers message

theorem on_chat_contained (indexed : s.party.Indexed) (chat : CsChat) :
    Contained sid s (onChat s sid chat) ↔ Harmless data s sid (.chat chat) := by
  have start := Contained.refl s sid
  rw [onChat]
  simp only
  by_cases all : chat.channel = 0
  · have condition : Harmless data s sid (.chat chat) ↔ Unheard s sid s.inGame := by simp [Harmless, all]
    rw [if_pos all, condition]
    exact tell_contained s sid s.inGame _
  · rw [if_neg all]
    by_cases whisper : chat.channel = 1
    · have condition : Harmless data s sid (.chat chat) ↔ Unheard s sid (sessionsNamed s chat.targetName) := by
        simp [Harmless, whisper]
      rw [if_pos whisper, condition, ← replies_contained]
      split
      · rename_i nobody
        rw [List.isEmpty_iff.mp nobody]
        exact iff_of_true (start.send _) start
      · rfl
    · rw [if_neg whisper]
      by_cases partyTalk : chat.channel = 2
      · rw [if_pos partyTalk]
        cases placed : s.party.playerParty[sid]? with
        | none =>
            refine iff_of_true (start.send _) ?_
            simp [Harmless, partyTalk, placed]
        | some partyId =>
            have condition : Harmless data s sid (.chat chat) ↔ Unheard s sid (s.party.membersOf partyId) := by
              simp [Harmless, partyTalk, placed]
            simp only
            rw [touch_party_present s partyId (indexed_present s.party indexed sid partyId placed), fold_send, condition]
            exact tell_contained s sid _ _
      · rw [if_neg partyTalk]
        exact iff_of_true start ⟨fun zero => absurd zero all, fun one => absurd one whisper, fun two => absurd two partyTalk⟩

theorem used_contained (player : PlayerData) (inv : Inventory) (itemUid : ItemUid) (news reply : Message) :
    Contained sid s (sendCharInfo ((((removeItemFromDb ((s.touchInventory sid).setPlayer sid player) itemUid).setInventory sid
      inv).broadcast news).send sid reply) sid) ↔ Unheard s sid s.inGame ∧ Uneventful s (s.db.Gone itemUid) := by
  rw [Uneventful, ← inventory_remove_same_iff, ← call_same_iff s (fun db => (db.spInventoryRemove itemUid, ())),
    ← unheard_set_player s sid player]
  constructor
  · intro h
    exact ⟨h.unheard _ news s.sent List.prefix_rfl ((List.prefix_append _ _).trans (List.prefix_append _ _)), h.db⟩
  · rintro ⟨unheard, same⟩
    have removed := (((Contained.refl s sid).touchInventory.setPlayer player).call (fun db => some (db.spInventoryRemove itemUid, ()))
      same).setInventory inv
    exact (((removed.tell _ news unheard).send reply)).sendCharInfo

theorem on_item_use_contained (req : CsItemUse) : Contained sid s (onItemUse data s sid req) ↔ Harmless data s sid (.itemUse req) := by
  have touched := (Contained.refl s sid).touchInventory
  rw [onItemUse, Harmless, itemIn]
  simp only [inventory_touch]
  split
  · exact iff_of_true touched (by simp)
  · cases known : data.findItem ((s.inventory sid).slot req.slot.toNat).itemTid with
    | none => exact iff_of_true touched (by simp)
    | some item =>
        simp only [Option.some.injEq, forall_eq']
        split
        · rename_i worn
          exact iff_of_true touched (fun consumable => absurd consumable worn)
        · rename_i consumable
          rw [not_not] at consumable
          exact (used_contained s sid _ _ _ _ _).trans ⟨fun harmless _ => harmless, fun harmless => harmless consumable⟩

theorem on_item_equip_contained (req : CsItemEquip) :
    Contained sid s (onItemEquip data s sid req) ↔ Harmless data s sid (.itemEquip req) := by
  have touched := (Contained.refl s sid).touchInventory
  rw [onItemEquip, Harmless, itemIn]
  simp only [inventory_touch]
  split
  · exact iff_of_true touched (by simp)
  · cases known : data.findItem ((s.inventory sid).slot req.slot.toNat).itemTid with
    | none => exact iff_of_true touched (by simp)
    | some item =>
        simp only [Option.some.injEq, forall_eq']
        split
        · rename_i consumable
          exact iff_of_true (touched.send _) (fun worn => absurd consumable worn)
        · rename_i worn
          have uid : (equippedPlayer (s.player sid) item).charUid = (s.player sid).charUid := by
            rw [equippedPlayer]
            split <;> rfl
          rw [uid]
          have before := (touched.setInventory (equippedInventory (s.inventory sid) req.slot.toNat item)).setPlayer
            (equippedPlayer (s.player sid) item)
          refine (before.between (((Contained.refl _ sid).send _).send _).sendCharInfo).trans ((write_contained _ sid _).trans ?_)
          refine Iff.trans (or_congr_right (equip_item_same_iff s.db _ _ _)) ?_
          exact ⟨fun harmless _ => harmless, fun harmless => harmless worn⟩

theorem add_item_contained (charUid : CharUid) (itemTid : UInt16) :
    Contained sid s (addItemToDb s charUid itemTid).1 ↔ Uneventful s False := by
  refine (call_contained s sid _).trans ((call_same_iff s (fun db => db.spInventoryAdd charUid itemTid)).trans ?_)
  refine or_congr_right (iff_of_false ?_ id)
  intro same
  exact Nat.succ_ne_self _ (congrArg (fun db : Database => db.inventory.nextUid) same)

theorem on_shop_buy_contained (req : CsShopBuy) : Contained sid s (onShopBuy data s sid req) ↔ Harmless data s sid (.shopBuy req) := by
  have start := Contained.refl s sid
  rw [onShopBuy, Harmless]
  simp only [inventory_touch]
  cases known : data.findItem req.itemId with
  | none => exact iff_of_true (start.send _) (by simp)
  | some item =>
      simp only [Option.some.injEq, forall_eq']
      split
      · rename_i poor
        exact iff_of_true (start.send _) (fun affordable => absurd poor (UInt64.not_lt.mpr affordable))
      · rename_i affordable
        cases free : findEmptySlot (s.inventory sid) with
        | none => exact iff_of_true (start.touchInventory.send _) (fun _ full => absurd rfl full)
        | some slot =>
            have before := start.touchInventory.setPlayer { s.player sid with gold := (s.player sid).gold - item.price.toUInt64 }
            refine Iff.trans (before.between ((((Contained.refl _ sid).setInventory _).fail _ _).send _ |>.send _)) ?_
            refine (add_item_contained _ sid _ _).trans ?_
            exact ⟨fun harmless _ _ => harmless, fun harmless => harmless (UInt64.not_lt.mp affordable) (by simp)⟩

theorem on_shop_sell_contained (req : CsShopSell) : Contained sid s (onShopSell data s sid req) ↔ Harmless data s sid (.shopSell req) := by
  have start := (Contained.refl s sid).touchInventory
  rw [onShopSell, Harmless]
  simp only [inventory_touch]
  split
  · rename_i refused
    refine iff_of_true (start.send _) (fun slot taken => ?_)
    rcases refused with beyond | free
    · exact absurd slot (Nat.not_lt.mpr beyond)
    · exact absurd free taken
  · rename_i accepted
    obtain ⟨slot, taken⟩ := not_or.mp accepted
    refine Iff.trans (start.between (((((Contained.refl _ sid).setPlayer _).fail _ _).setInventory _).send _ |>.send _)) ?_
    split
    · rename_i stored
      refine (write_contained _ sid _).trans (Iff.trans (or_congr_right (inventory_remove_same_iff s.db _)) ?_)
      exact ⟨fun harmless _ _ _ => harmless, fun harmless => harmless (Nat.not_le.mp slot) taken stored⟩
    · rename_i unstored
      exact iff_of_true (Contained.refl _ sid) (fun _ _ stored => absurd stored unstored)

theorem on_quest_list_contained : Contained sid s (onQuestList data s sid) := by
  rw [onQuestList]
  split
  · exact (Contained.refl s sid).send _
  · exact (Contained.refl s sid).touchQuestLog.send _

theorem on_quest_accept_contained (req : CsQuestAccept) :
    Contained sid s (onQuestAccept data s sid req) ↔ Harmless data s sid (.questAccept req) := by
  have start := Contained.refl s sid
  rw [onQuestAccept, Harmless, questState]
  simp only
  split
  · rename_i far
    exact iff_of_true (start.send _) (fun near => by simp [near] at far)
  · rename_i near
    cases known : data.findQuest req.questId with
    | none => exact iff_of_true (start.send _) (by simp)
    | some quest =>
        have noted := start.setQuestLog ((s.questLog sid).insertIfNew req.questId {})
        generalize ((s.questLog sid)[req.questId]?).getD {} = state
        simp only
        split
        · rename_i taken
          refine iff_of_true (noted.send _) (fun _ _ fresh => absurd ?_ fresh)
          rcases taken with accepted | completable <;> simp [*]
        · rename_i untaken
          split
          · rename_i done
            exact iff_of_true (noted.send _) (fun _ _ fresh => absurd (by simp [done]) fresh)
          · rename_i undone
            have fresh : state.status ∉ [1, 2, 3] := by simpa [undone, not_or] using untaken
            refine Iff.trans ((noted.setQuestLog _).between ((Contained.refl _ sid).send _)) ((write_contained _ sid _).trans ?_)
            refine Iff.trans (or_congr_right (quest_save_same_iff s.db _ _ _)) ?_
            exact ⟨fun harmless _ _ _ => harmless, fun harmless => harmless (by simpa using near) rfl fresh⟩

def Withheld (itemId : UInt16) : Prop :=
  findEmptySlot (s.inventory sid) ≠ none → (data.findItem itemId).isSome → Uneventful s False

theorem give_item_effect (itemId : UInt16) :
    (Contained sid s (giveItem data s sid itemId) ∧ Withheld data s sid itemId) ∨
      ((giveItem data s sid itemId).db.inventory.nextUid = s.db.inventory.nextUid + 1 ∧ ¬ Withheld data s sid itemId) := by
  have touched := (Contained.refl s sid).touchInventory
  rw [giveItem, Withheld]
  simp only [inventory_touch]
  cases free : findEmptySlot (s.inventory sid) with
  | none => exact .inl ⟨touched, fun full => absurd rfl full⟩
  | some slot =>
      cases known : data.findItem itemId with
      | none => exact .inl ⟨touched, (by simp)⟩
      | some item =>
          by_cases failed : s.outcome = .failed
          · have call := (add_item_contained (s.touchInventory sid) sid ((s.touchInventory sid).player sid).charUid itemId).mpr (.inl failed)
            exact .inl ⟨((touched.trans call).setInventory _).send _, fun _ _ => .inl failed⟩
          · refine .inr ⟨?_, fun withheld => (withheld (by simp) rfl).elim failed id⟩
            have added : s.procDb (fun db => some (db.spInventoryAdd (s.player sid).charUid itemId)) =
                (s.db.spInventoryAdd (s.player sid).charUid itemId).1 := by
              rw [ServerState.procDb]
              cases outcome : s.outcome with
              | failed => exact absurd outcome failed
              | _ => rfl
            exact congrArg (fun db : Database => db.inventory.nextUid) added

theorem save_counter (charUid : CharUid) (questId : UInt16) (state : QuestProgress) :
    (saveQuestProgress s charUid questId state).db.inventory.nextUid = s.db.inventory.nextUid := by
  show (s.procDb (fun db => some (db.spQuestSave charUid questId state, ()))).inventory.nextUid = s.db.inventory.nextUid
  rw [ServerState.procDb]
  cases s.outcome <;> rfl

theorem saved_and_given_contained (t : ServerState) (charUid : CharUid) (questId : UInt16) (state : QuestProgress)
    (player : PlayerData) (itemId : UInt16) :
    Contained sid t (giveItem data ((saveQuestProgress t charUid questId state).setPlayer sid player) sid itemId) ↔
      Contained sid t (saveQuestProgress t charUid questId state) ∧
        Withheld data ((saveQuestProgress t charUid questId state).setPlayer sid player) sid itemId := by
  have paid := (Contained.refl (saveQuestProgress t charUid questId state) sid).setPlayer player
  rcases give_item_effect data ((saveQuestProgress t charUid questId state).setPlayer sid player) sid itemId with
    ⟨kept, withheld⟩ | ⟨counted, given⟩
  · rw [and_iff_left withheld]
    exact (Contained.refl t sid).between (paid.trans kept)
  · refine iff_of_false (fun h => ?_) (fun both => given both.2)
    have same := congrArg (fun db : Database => db.inventory.nextUid) h.db
    rw [counted] at same
    exact Nat.succ_ne_self _ ((congrArg Nat.succ (save_counter t charUid questId state)).symm.trans same)

theorem paid_contained (t : ServerState) (charUid : CharUid) (questId : UInt16) (state : QuestProgress) (player : PlayerData)
    (itemId : UInt16) :
    Contained sid t (if itemId > 0 then giveItem data ((saveQuestProgress t charUid questId state).setPlayer sid player) sid itemId
      else (saveQuestProgress t charUid questId state).setPlayer sid player) ↔
      Uneventful t ((t.db.questProgress charUid)[questId]? = some state) ∧
        (0 < itemId → findEmptySlot (t.inventory sid) ≠ none → (data.findItem itemId).isSome → t.dbPlan.tail.headD .ok = .failed) := by
  have saved : Contained sid t (saveQuestProgress t charUid questId state) ↔
      Uneventful t ((t.db.questProgress charUid)[questId]? = some state) :=
    (write_contained t sid _).trans (or_congr_right (quest_save_same_iff t.db charUid questId state))
  rw [← saved]
  split
  · rename_i rewarded
    refine (saved_and_given_contained data sid t charUid questId state player itemId).trans (and_congr_right (fun _ => ?_))
    have plan : Uneventful ((saveQuestProgress t charUid questId state).setPlayer sid player) False ↔
        t.dbPlan.tail.headD .ok = .failed := or_iff_left id
    exact ⟨fun withheld _ full known => plan.mp (withheld full known), fun failed full known => plan.mpr (failed rewarded full known)⟩
  · rename_i unrewarded
    rw [and_iff_left (fun rewarded => absurd rewarded unrewarded)]
    exact (Contained.refl t sid).between ((Contained.refl _ sid).setPlayer player)

theorem on_quest_complete_contained (req : CsQuestComplete) :
    Contained sid s (onQuestComplete data s sid req) ↔ Harmless data s sid (.questComplete req) := by
  have start := Contained.refl s sid
  rw [onQuestComplete, Harmless, questState]
  simp only [quest_log_touch]
  split
  · rename_i far
    exact iff_of_true (start.send _) (fun near => by simp [near] at far)
  · rename_i near
    cases known : data.findQuest req.questId with
    | none => exact iff_of_true (start.send _) (by simp)
    | some quest =>
        simp only [Option.some.injEq, forall_eq']
        cases logged : (s.questLog sid)[req.questId]? with
        | none => exact iff_of_true (start.touchQuestLog.send _) (fun _ done => absurd done (by decide))
        | some state =>
            simp only [Option.getD_some]
            split
            · rename_i undone
              exact iff_of_true (start.touchQuestLog.send _) (fun _ done => absurd done undone)
            · rename_i done
              have here : isNearQuestNpc (s.player sid) = true := by simpa using near
              have done : state.status = 2 := not_not.mp done
              refine Iff.trans ((start.touchQuestLog.setQuestLog _).between
                (((((Contained.refl _ sid).send _).checkLevelUp).sendCharInfo).send _)) ((paid_contained data sid _ _ _ _ _ _).trans ?_)
              exact ⟨fun harmless _ _ => harmless, fun harmless => harmless here done⟩

theorem on_party_invite_contained (indexed : s.party.Indexed) (req : CsPartyInvite) :
    Contained sid s (onPartyInvite s sid req) ↔ Harmless data s sid (.partyInvite req) := by
  rw [Harmless]
  rcases on_party_invite_spec s sid indexed req with ⟨reason, nobody, refused⟩ | ⟨target, invited, carried⟩
  · rw [refused, nobody]
    exact iff_of_true ((Contained.refl s sid).send _) (by simp)
  · have other : target ≠ sid := by
      rw [invitee] at invited
      split at invited
      · exact absurd invited (by simp)
      · have chosen := (Option.filter_eq_some_iff.mp invited).2
        rw [decide_eq_true_iff] at chosen
        exact chosen.1
    rw [carried, invited]
    simp only [Option.some.injEq, forall_eq']
    constructor
    · intro h
      have same := (insert_same_iff s.party.pendingInvites target sid).mp (congrArg PartyState.pendingInvites h.party)
      refine ⟨same, h.unheard [target] (.partyInvite { inviterName := strncpyS (s.player sid).name 19 }) s.sent List.prefix_rfl ?_
        target (List.mem_singleton_self _) other⟩
      rw [List.flatMap_singleton]
      exact List.prefix_rfl
    · rintro ⟨pending, unheard⟩
      have same : s.setParty { s.party with pendingInvites := s.party.pendingInvites.insert target sid } = s := by
        rw [(insert_same_iff _ _ _).mpr pending]
        rfl
      rw [invite, same, ServerState.send, deliver_line, if_neg unheard, List.append_nil]
      exact Contained.refl s sid

theorem on_party_accept_pending (req : CsPartyAccept) :
    (onPartyAccept s sid req).party.pendingInvites = s.party.pendingInvites.erase sid := by
  rw [onPartyAccept]
  cases invited : s.party.pendingInvites[sid]? with
  | none => exact ((erase_same_iff _ _).mpr invited).symm
  | some inviterId =>
      simp only
      split
      · rfl
      · split
        · rfl
        · have entered := PartyState.party_of_pending (s.party.withoutInvite sid) inviterId
          rw [joinParty]
          split
          · exact entered
          · rw [send_party_update_tells]
            exact entered

theorem on_party_accept_contained (req : CsPartyAccept) :
    Contained sid s (onPartyAccept s sid req) ↔ Harmless data s sid (.partyAccept req) := by
  rw [Harmless, ← erase_same_iff, ← on_party_accept_pending s sid req]
  constructor
  · exact fun h => congrArg PartyState.pendingInvites h.party
  · intro same
    rw [on_party_accept_pending, erase_same_iff] at same
    rw [onPartyAccept, same]
    exact Contained.refl s sid

theorem on_party_leave_contained : Contained sid s (onPartyLeave s sid) ↔ s.party.playerParty[sid]? = none := by
  constructor
  · intro h
    cases placed : s.party.playerParty[sid]? with
    | none => rfl
    | some partyId =>
        have left := (remove_from_party_settles s sid).party
        rw [show removeFromParty s sid = onPartyLeave s sid from rfl, h.party] at left
        rw [left] at placed
        exact absurd rfl (PartyState.without_shrinks s.party sid sid partyId placed).1
  · intro unplaced
    rw [onPartyLeave, remove_unplaced s sid unplaced]
    exact Contained.refl s sid

end Handlers

section Packets

variable (data : GameData)

def preSelection : List PacketType := [.csLogin, .csCharList, .csCharCreate, .csCharSelect, .csHeartbeat]

def Gameplay : Request → Prop
  | .login _ => False
  | .charList => False
  | .charCreate _ => False
  | .charSelect _ => False
  | .heartbeat => False
  | _ => True

theorem decoded_gameplay (code : UInt16) (payload : Bytes) (request : Request) (later : ∀ type ∈ preSelection, type.code ≠ code)
    (decoded : (handlerFor code).bind (decodeRequest payload) = some request) : Gameplay request := by
  obtain ⟨type, found, read⟩ := Option.bind_eq_some_iff.mp decoded
  have coded : type.code = code := by simpa using List.find?_some found
  have other : type ∉ preSelection := fun listed => later type listed coded
  cases type <;> first
    | exact absurd (by decide) other
    | (cases read <;> trivial)

theorem handle_contained (s : ServerState) (sid : SessionId) (indexed : s.party.Indexed) (populated : Populated s) (request : Request)
    (gameplay : Gameplay request) : Contained sid s (handle data s sid request) ↔ Harmless data s sid request := by
  cases request with
  | attendanceCheck => exact on_attendance_check_contained s sid
  | move req => exact on_move_contained s sid req
  | attack req => exact on_attack_contained data s sid populated req
  | chat req => exact on_chat_contained data s sid indexed req
  | itemUse req => exact on_item_use_contained data s sid req
  | itemEquip req => exact on_item_equip_contained data s sid req
  | shopOpen => exact iff_of_true ((Contained.refl s sid).send _) trivial
  | shopBuy req => exact on_shop_buy_contained data s sid req
  | shopSell req => exact on_shop_sell_contained data s sid req
  | questList => exact iff_of_true (on_quest_list_contained data s sid) trivial
  | questAccept req => exact on_quest_accept_contained data s sid req
  | questComplete req => exact on_quest_complete_contained data s sid req
  | partyInvite req => exact on_party_invite_contained data s sid indexed req
  | partyAccept req => exact on_party_accept_contained data s sid req
  | partyLeave => exact on_party_leave_contained s sid
  | _ => exact gameplay.elim

variable (db : Database) (draw : Nat → Nat)

-- No handler looks at loggedIn: before and after the choice of a character alike, a
-- packet is contained exactly where what its handler would do is void.
theorem packet_contained_iff (inputs : List Input) (answers : Input) (sid : SessionId) (code : UInt16) (payload : Bytes)
    (later : ∀ type ∈ preSelection, type.code ≠ code) :
    Contained sid (facing (Machine.run (step data) (boot db draw) inputs) answers)
        (handlePacket data (facing (Machine.run (step data) (boot db draw) inputs) answers) sid code payload) ↔
      ∀ request, (handlerFor code).bind (decodeRequest payload) = some request →
        Harmless data (facing (Machine.run (step data) (boot db draw) inputs) answers) sid request := by
  have indexed := (run_party_invariant data db draw inputs).indexed
  have populated := run_populated data db draw inputs
  generalize Machine.run (step data) (boot db draw) inputs = s at indexed populated ⊢
  rw [handlePacket]
  cases decoded : (handlerFor code).bind (decodeRequest payload) with
  | none => exact iff_of_true (Contained.refl _ sid) nofun
  | some request =>
      have gameplay := decoded_gameplay code payload request later decoded
      have same := handle_contained data (facing s answers) sid indexed populated request gameplay
      exact same.trans ⟨fun harmless _ equal => Option.some.inj equal ▸ harmless, fun harmless => harmless request rfl⟩

def oneEntered : List Input :=
  [⟨.accept, [], []⟩, ⟨.accept, [], []⟩, ⟨.packet 1 (.login ⟨[49]⟩), [], []⟩, ⟨.packet 1 (.charSelect ⟨1⟩), [], []⟩]

theorem stranger_collects_attendance :
    (2 : SessionId) ∈ (Machine.run (step emptyData) (boot twoCharacters (fun _ => 0)) oneEntered).sessions ∧
    ((Machine.run (step emptyData) (boot twoCharacters (fun _ => 0)) oneEntered).player 2).loggedIn = false ∧
      PacketType.csAttendanceCheck ∉ preSelection ∧
        ¬ Contained 2 (facing (Machine.run (step emptyData) (boot twoCharacters (fun _ => 0)) oneEntered) ⟨.accept, [], []⟩)
          (handlePacket emptyData (facing (Machine.run (step emptyData) (boot twoCharacters (fun _ => 0)) oneEntered) ⟨.accept, [], []⟩)
            2 PacketType.csAttendanceCheck.code []) := by
  refine ⟨by decide +kernel, by decide +kernel, by decide, fun contained => ?_⟩
  have paid : (handlePacket emptyData (facing (Machine.run (step emptyData) (boot twoCharacters (fun _ => 0)) oneEntered)
      ⟨.accept, [], []⟩) 2 PacketType.csAttendanceCheck.code []).db.attendance = [(0, 0)] := by
    decide +kernel
  rw [contained.db] at paid
  exact absurd paid (by decide +kernel)

theorem stranger_leaves_nothing :
    Contained 2 (facing (Machine.run (step emptyData) (boot twoCharacters (fun _ => 0)) oneEntered) ⟨.accept, [], []⟩)
      (handlePacket emptyData (facing (Machine.run (step emptyData) (boot twoCharacters (fun _ => 0)) oneEntered) ⟨.accept, [], []⟩)
        2 PacketType.csPartyLeave.code []) := by
  refine (packet_contained_iff emptyData twoCharacters (fun _ => 0) oneEntered ⟨.accept, [], []⟩ 2 _ [] (by decide)).mpr ?_
  intro request decoded
  have left : request = .partyLeave := (Option.some.inj decoded).symm
  rw [left]
  show (Machine.run (step emptyData) (boot twoCharacters (fun _ => 0)) oneEntered).party.playerParty[(2 : SessionId)]? = none
  decide +kernel

end Packets

end MmorpgSimulator
