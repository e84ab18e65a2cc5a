import MmorpgSimulator.ProgressViews

set_option autoImplicit false

namespace MmorpgSimulator

section Results

variable (data : GameData) (s : ServerState) (sid : SessionId)

def purchase (req : CsShopBuy) : Option (ItemData × Nat) :=
  (data.findItem req.itemId).bind (fun item =>
    if (s.player sid).gold < item.price.toUInt64 then none
    else (findEmptySlot (s.inventory sid)).map (fun slot => (item, slot)))

def shopBuyResult (req : CsShopBuy) : ScShopResult :=
  match data.findItem req.itemId with
  | none => { message := text "Item not found", remainGold := (s.player sid).gold }
  | some item =>
      if (s.player sid).gold < item.price.toUInt64 then { message := text "Not enough gold", remainGold := (s.player sid).gold }
      else if (findEmptySlot (s.inventory sid)).isNone then { message := text "Inventory full", remainGold := (s.player sid).gold }
      else { success := 1, itemId := req.itemId, remainGold := (s.player sid).gold - item.price.toUInt64, message := item.name }

def addedUid : ItemUid := if s.outcome = .ok then s.db.inventory.nextUid else 0

theorem add_item_answer (charUid : CharUid) (itemTid : UInt16) : (addItemToDb s charUid itemTid).2 = addedUid s := by
  rw [addItemToDb, addedUid]
  simp only [ServerState.executeProc, ServerState.procReply]
  cases s.outcome <;> rfl

def charged (player : PlayerData) (price : UInt32) : PlayerData := { player with gold := player.gold - price.toUInt64 }

structure Buys (t : ServerState) (item : ItemData) (slot : Nat) (req : CsShopBuy) : Prop where
  player : t.player sid = charged (s.player sid) item.price
  inventory : t.inventory sid = (s.inventory sid).setSlot slot ⟨addedUid s, req.itemId⟩
  db : t.db = s.procDb (fun db => some (db.spInventoryAdd (s.player sid).charUid req.itemId))
  fault : t.fault = (s.fault <|> if strcpyFits 32 item.name then none else some Fault.invalidParameter)

structure Untouched (t : ServerState) : Prop where
  player : t.player sid = s.player sid
  inventory : t.inventory sid = s.inventory sid
  db : t.db = s.db
  fault : t.fault = s.fault

theorem purchase_spec (req : CsShopBuy) (item : ItemData) (slot : Nat) (bought : purchase data s sid req = some (item, slot)) :
    data.findItem req.itemId = some item ∧ ¬ (s.player sid).gold < item.price.toUInt64 ∧ findEmptySlot (s.inventory sid) = some slot := by
  rw [purchase, Option.bind_eq_some_iff] at bought
  obtain ⟨found, known, rest⟩ := bought
  split at rest
  · exact absurd rest nofun
  · rename_i enough
    obtain ⟨free, room, same⟩ := Option.map_eq_some_iff.mp rest
    obtain ⟨rfl, rfl⟩ := Prod.mk.inj same
    exact ⟨known, enough, room⟩

theorem on_shop_buy_refused (req : CsShopBuy) (refused : purchase data s sid req = none) :
    Untouched s sid (onShopBuy data s sid req) ∧ (shopBuyResult data s sid req).success = 0 ∧
      (shopBuyResult data s sid req).remainGold = (s.player sid).gold ∧
        (onShopBuy data s sid req).sent = s.sent ++ s.deliver sid (.shopResult (shopBuyResult data s sid req)) := by
  rw [onShopBuy, shopBuyResult]
  cases known : data.findItem req.itemId with
  | none => exact ⟨⟨rfl, rfl, rfl, rfl⟩, rfl, rfl, rfl⟩
  | some item =>
      simp only [inventory_touch]
      by_cases poor : (s.player sid).gold < item.price.toUInt64
      · rw [if_pos poor, if_pos poor]
        exact ⟨⟨rfl, rfl, rfl, rfl⟩, rfl, rfl, rfl⟩
      · rw [if_neg poor, if_neg poor]
        cases free : findEmptySlot (s.inventory sid) with
        | none => exact ⟨⟨rfl, inventory_touch s sid sid, rfl, rfl⟩, rfl, rfl, rfl⟩
        | some slot => simp [purchase, known, poor, free] at refused

theorem on_shop_buy_done (req : CsShopBuy) (item : ItemData) (slot : Nat) (bought : purchase data s sid req = some (item, slot))
    (here : sid ∈ s.sessions) :
    Buys s sid (onShopBuy data s sid req) item slot req ∧ (shopBuyResult data s sid req).success = 1 ∧
      (shopBuyResult data s sid req).remainGold = (s.player sid).gold - item.price.toUInt64 ∧
        (onShopBuy data s sid req).sent = s.sent ++ s.deliver sid (.inventoryUpdate
          { slot := UInt8.ofNat slot, itemId := item.id, itemName := strncpyS item.name 31 }) ++
            s.deliver sid (.shopResult (shopBuyResult data s sid req)) := by
  obtain ⟨known, enough, free⟩ := purchase_spec data s sid req item slot bought
  have result : shopBuyResult data s sid req =
      { success := 1, itemId := req.itemId, remainGold := (s.player sid).gold - item.price.toUInt64, message := item.name } := by
    simp [shopBuyResult, known, enough, free]
  let paid := charged (s.player sid) item.price
  let added := addItemToDb ((s.touchInventory sid).setPlayer sid paid) paid.charUid req.itemId
  let stored := (added.1.setInventory sid ((s.inventory sid).setSlot slot ⟨added.2, req.itemId⟩)).fail (!strcpyFits 32 item.name)
    .invalidParameter
  have acts : onShopBuy data s sid req =
      (stored.send sid (.inventoryUpdate { slot := UInt8.ofNat slot, itemId := item.id, itemName := strncpyS item.name 31 })).send sid
        (.shopResult { success := 1, itemId := req.itemId, remainGold := paid.gold, message := item.name }) := by
    rw [onShopBuy]
    simp only [known, inventory_touch, if_neg enough, free]
    rfl
  have told (message : Message) : stored.deliver sid message = s.deliver sid message := by
    change ((s.touchInventory sid).setPlayer sid paid).deliver sid message = _
    rw [deliver_line, deliver_line, line_set_player]
    rfl
  rw [result, acts]
  refine ⟨⟨?_, ?_, ?_, ?_⟩, rfl, rfl, ?_⟩
  · exact player_set_self (s.touchInventory sid) sid paid here
  · have answer : added.2 = addedUid s := add_item_answer _ _ _
    rw [← answer]
    exact inventory_set_self added.1 sid _
  · rfl
  · change (s.fault <|> _) = _
    cases fits : strcpyFits 32 item.name <;> rfl
  · rw [← told, ← told]
    rfl

end Results

section GoldView

variable (data : GameData)

def Barters (input : Input) : Prop :=
  ∃ sid request, input.event = .packet sid request ∧ ((∃ req, request = .shopBuy req) ∨ ∃ req, request = .shopSell req)

def ShowsPurses (scene : Scene) : Prop :=
  ∀ sid, scene.server.line sid = some true → shownGold (scene.clients sid) = scene.server.gold sid

def selling (s : ServerState) (input : Input) : Option (SessionId × CsShopSell) :=
  match requesting s input with
  | some (sid, .shopSell req) => some (sid, req)
  | _ => none

-- A sale by a connected client names an occupied slot, or the seller has no gold to be misled about.
def sellsHeld (scene : Scene) (input : Input) : Prop :=
  ∀ sale ∈ selling scene.server input, scene.server.line sale.1 = some true →
    occupied (scene.server.inventory sale.1) sale.2.slot ∨ scene.server.gold sale.1 = 0

instance (scene : Scene) (input : Input) : Decidable (sellsHeld scene input) :=
  match sells : selling scene.server input with
  | none => .isTrue (by simp [sellsHeld, sells])
  | some sale =>
      @decidable_of_iff' _ (scene.server.line sale.1 = some true →
        occupied (scene.server.inventory sale.1) sale.2.slot ∨ scene.server.gold sale.1 = 0) (by simp [sellsHeld, sells]) inferInstance

structure Quotes (s t : ServerState) (owner : SessionId) (sum : UInt64) : Prop where
  lines : ∀ sid, t.line sid = s.line sid
  golds : ∀ sid, sid ≠ owner → t.gold sid = s.gold sid
  sent : ∃ news reply, t.sent = s.sent ++ news ++ s.deliver owner (.shopResult reply) ∧ (∀ entry ∈ news, entry.1 = owner) ∧
    reply.remainGold = sum

variable {s t : ServerState} {owner : SessionId} {sum : UInt64} (clients : SessionId → Client)

theorem Quotes.elsewhere (quotes : Quotes s t owner sum) (sid : SessionId) (apart : sid ≠ owner) :
    shown clients t sid = shown clients s sid := by
  obtain ⟨news, reply, sent, own, _⟩ := quotes.sent
  rw [List.append_assoc] at sent
  have quiet : Unseen (fun client : Client => client) clients sid s t := by
    apply elsewhere_unseen _ _ sent
    intro entry member
    rcases List.mem_append.mp member with told | answered
    · rw [own entry told]
      exact apart.symm
    · rw [deliver_to s owner _ entry answered]
      exact apart.symm
  exact quiet

theorem Quotes.shown_gold (quotes : Quotes s t owner sum) (open_ : s.line owner = some true) :
    (shown clients t owner).myPlayer.gold = sum := by
  obtain ⟨news, reply, sent, _, remains⟩ := quotes.sent
  rw [List.append_assoc] at sent
  rw [shown_sends clients owner s t _ sent, inbox_append, inbox_deliver, if_pos ⟨rfl, open_⟩, List.foldl_append]
  exact remains

theorem on_shop_buy_quotes (sid : SessionId) (req : CsShopBuy) (here : sid ∈ s.sessions) :
    Quotes s (onShopBuy data s sid req) sid ((onShopBuy data s sid req).gold sid) := by
  have frame : (∀ other, (onShopBuy data s sid req).line other = s.line other) ∧
      ∀ other, other ≠ sid → (onShopBuy data s sid req).gold other = s.gold other := by
    rcases on_shop_buy_becomes data s sid req here with ⟨_, after⟩ | ⟨item, slot, uid, _, _, _, _, after⟩
    · exact ⟨after.lines, fun other _ => after.golds other⟩
    · refine ⟨after.lines, fun other apart => ?_⟩
      exact (after.golds other).trans (Function.update_of_ne apart _ _)
  refine ⟨frame.1, frame.2, ?_⟩
  cases bought : purchase data s sid req with
  | none =>
      obtain ⟨kept, _, remains, sent⟩ := on_shop_buy_refused data s sid req bought
      refine ⟨[], _, by simpa using sent, nofun, remains.trans ?_⟩
      exact (congrArg PlayerData.gold kept.player).symm
  | some pair =>
      obtain ⟨buys, _, remains, sent⟩ := on_shop_buy_done data s sid req pair.1 pair.2 bought here
      refine ⟨_, _, sent, fun entry member => deliver_to s sid _ entry member, remains.trans ?_⟩
      exact (congrArg PlayerData.gold buys.player).symm

theorem on_shop_sell_refused (sid : SessionId) (req : CsShopSell) (empty : ¬ occupied (s.inventory sid) req.slot) :
    onShopSell data s sid req = (s.touchInventory sid).send sid (.shopResult { message := text "Invalid slot" }) := by
  rw [onShopSell]
  simp only [inventory_touch]
  rw [if_pos ((occupied_or_refused _ _).mpr empty)]

theorem on_shop_sell_done (sid : SessionId) (req : CsShopSell) (held : occupied (s.inventory sid) req.slot) (here : sid ∈ s.sessions) :
    ∃ reply : ScShopResult,
      Becomes s (onShopSell data s sid req) (Function.update s.inventory sid ((s.inventory sid).setSlot req.slot.toNat {}))
        (Function.update s.gold sid reply.remainGold) (fun _ => []) ∧
      (onShopSell data s sid req).sent = s.sent ++ s.deliver sid (.inventoryUpdate { slot := req.slot, itemId := 0 }) ++
        s.deliver sid (.shopResult reply) := by
  let sold := (s.inventory sid).slot req.slot.toNat
  let item := data.findItem sold.itemTid
  let name := (item.map ItemData.name).getD (text "Unknown")
  let paid := { s.player sid with gold := (s.player sid).gold + ((item.map (fun item : ItemData => item.price / 5)).getD 0).toUInt64 }
  let removed := if sold.itemUid ≠ 0 then removeItemFromDb (s.touchInventory sid) sold.itemUid else s.touchInventory sid
  let cleared := ((removed.setPlayer sid paid).fail (!strcpyFits 32 name) .invalidParameter).setInventory sid
    ((s.inventory sid).setSlot req.slot.toNat {})
  have acts : onShopSell data s sid req = (cleared.send sid (.inventoryUpdate { slot := req.slot, itemId := 0 })).send sid
      (.shopResult { success := 2, itemId := sold.itemTid, remainGold := paid.gold, message := name }) := by
    rw [onShopSell]
    simp only [inventory_touch]
    rw [if_neg (fun bad => (occupied_or_refused _ _).mp bad held)]
  have kept : removed.sessions = s.sessions ∧ removed.sent = s.sent := by
    dsimp only [removed]
    split <;> exact ⟨rfl, rfl⟩
  have stored : cleared.sessions = (s.setPlayer sid paid).sessions := by
    change (removed.setPlayer sid paid).sessions = _
    simp only [ServerState.setPlayer, kept.1]
  have told (message : Message) : cleared.deliver sid message = s.deliver sid message := by
    rw [deliver_line, deliver_line, line_same (s.setPlayer sid paid) cleared stored, line_set_player]
  have unsent : cleared.sent = s.sent := kept.2
  refine ⟨{ success := 2, itemId := sold.itemTid, remainGold := paid.gold, message := name }, ?_, ?_⟩
  · rw [acts]
    have touched := (Becomes.start s).touchInventory sid
    have gone := touched.perhaps (sold.itemUid ≠ 0) (touched.executeProc (fun db => some (db.spInventoryRemove sold.itemUid, ())))
    exact ((((gone.setPlayer sid paid here).fail _ _).setInventory sid _).send sid _ (by rfl)).send sid _ (by rfl)
  · rw [acts, ← told, ← told, ← unsent]
    rfl

theorem on_shop_sell_quotes (sid : SessionId) (req : CsShopSell) (here : sid ∈ s.sessions) :
    Quotes s (onShopSell data s sid req) sid
      (if occupied (s.inventory sid) req.slot then (onShopSell data s sid req).gold sid else 0) := by
  by_cases held : occupied (s.inventory sid) req.slot
  · obtain ⟨reply, after, sent⟩ := on_shop_sell_done data sid req held here
    rw [if_pos held]
    refine ⟨after.lines, fun other apart => ?_, _, reply, sent, fun entry member => deliver_to s sid _ entry member, ?_⟩
    · exact (after.golds other).trans (Function.update_of_ne apart _ _)
    · exact ((after.golds sid).trans (Function.update_self _ _ _)).symm
  · rw [if_neg held, on_shop_sell_refused data sid req held]
    have told : (s.touchInventory sid).deliver sid (.shopResult { message := text "Invalid slot" }) =
        s.deliver sid (.shopResult { message := text "Invalid slot" }) := rfl
    refine ⟨fun _ => rfl, fun _ _ => rfl, [], { message := text "Invalid slot" }, ?_, nofun, rfl⟩
    rw [List.append_nil, ← told]
    rfl

variable {clients} in
theorem Quotes.shows_iff (quotes : Quotes s t owner sum)
    (shows : ∀ sid, s.line sid = some true → shownGold (shown clients s sid) = s.gold sid) :
    (∀ sid, t.line sid = some true → shownGold (shown clients t sid) = t.gold sid) ↔
      (s.line owner = some true → sum = t.gold owner) := by
  constructor
  · intro after open_
    have told := after owner ((quotes.lines owner).trans open_)
    rwa [shownGold, quotes.shown_gold clients open_] at told
  · intro right sid open_
    rw [quotes.lines] at open_
    by_cases own : sid = owner
    · subst own
      rw [shownGold, quotes.shown_gold clients open_]
      exact right open_
    · rw [quotes.elsewhere clients sid own, quotes.golds sid own]
      exact shows sid open_

theorem scene_step_purses (scene : Scene) (input : Input) (barters : Barters input) (shows : ShowsPurses scene) :
    ShowsPurses (sceneStep data scene input) ↔ sellsHeld scene input := by
  obtain ⟨sid, request, event, kind⟩ := barters
  cases asks : requesting scene.server input with
  | none =>
      have rests : sellsHeld scene input := by simp [sellsHeld, selling, asks]
      obtain ⟨sessions, sent⟩ := step_not_requesting data { scene.server with sent := [] } input sid request event asks
      refine iff_of_true (fun other open_ => ?_) rests
      have lines : (sceneStep data scene input).server.line other = scene.server.line other :=
        line_same { scene.server with sent := [] } _ sessions other
      have golds : (sceneStep data scene input).server.gold other = scene.server.gold other :=
        congrArg PlayerData.gold (player_same { scene.server with sent := [] } _ sessions other)
      have clients : (sceneStep data scene input).clients other = scene.clients other :=
        congrArg (fun sent => (inbox sent other).foldl Client.receive (scene.clients other)) sent
      rw [clients, golds]
      exact shows other (lines.symm.trans open_)
  | some asked =>
      obtain ⟨owner, asked⟩ := asked
      obtain ⟨event', here, acts⟩ := step_requesting data { scene.server with sent := [] } input owner asked asks
      obtain ⟨rfl, rfl⟩ : sid = owner ∧ request = asked := by simpa using event.symm.trans event'
      have present : sid ∈ (scene.facing input).sessions := here
      have before : ∀ other, (scene.facing input).line other = some true →
          shownGold (shown scene.clients (scene.facing input) other) = (scene.facing input).gold other := shows
      have after : ShowsPurses (sceneStep data scene input) ↔
          ∀ other, (handle data (scene.facing input) sid request).line other = some true →
            shownGold (shown scene.clients (handle data (scene.facing input) sid request) other) =
              (handle data (scene.facing input) sid request).gold other := by
        have acts' : step data { scene.server with sent := [] } input = handle data (scene.facing input) sid request := acts
        simp only [ShowsPurses, sceneStep, acts']
      rw [after]
      rcases kind with ⟨req, rfl⟩ | ⟨req, rfl⟩
      · have rests : sellsHeld scene input := by simp [sellsHeld, selling, asks]
        exact iff_of_true (((on_shop_buy_quotes data sid req present).shows_iff before).mpr (fun _ => rfl)) rests
      · have sold : sellsHeld scene input ↔ (scene.server.line sid = some true →
            occupied (scene.server.inventory sid) req.slot ∨ scene.server.gold sid = 0) := by
          simp [sellsHeld, selling, asks]
        rw [sold]
        refine ((on_shop_sell_quotes data sid req present).shows_iff before).trans (imp_congr_right (fun _ => ?_))
        by_cases held : occupied (scene.server.inventory sid) req.slot
        · exact iff_of_true (if_pos held) (.inl held)
        · have same : (onShopSell data (scene.facing input) sid req).gold sid = scene.server.gold sid := by
            have refused := @on_shop_sell_refused data (scene.facing input) sid req held
            rw [refused]
            rfl
          have quoted : (if occupied ((scene.facing input).inventory sid) req.slot then
              (onShopSell data (scene.facing input) sid req).gold sid else 0) = 0 := if_neg held
          rw [quoted, same, or_iff_right held]
          exact eq_comm

-- A refused sale answers with remainGold left at zero.
theorem barter_gold_shown_iff (scene : Scene) (inputs : List Input) (barters : ∀ input ∈ inputs, Barters input)
    (shows : ShowsPurses scene) :
    Machine.Throughout (sceneStep data) ShowsPurses scene inputs ↔ Machine.Guarded (sceneStep data) sellsHeld scene inputs := by
  apply Machine.throughout_iff_guarded_among (sceneStep data) sellsHeld ShowsPurses Barters ShowsPurses
  · exact fun _ agreed => agreed
  · exact fun scene input kind agreed held => (scene_step_purses data scene input kind agreed).mpr held
  · exact fun scene input kind agreed missed after => missed ((scene_step_purses data scene input kind agreed).mp after)
  · exact barters
  · exact shows

def wealthy : Scene := ⟨shopper, fun sid => { ({} : Client) with myPlayer := { gold := shopper.gold sid } }⟩

def barter : List Input :=
  [⟨.packet 1 (.shopBuy ⟨1⟩), [], []⟩, ⟨.packet 1 (.shopSell ⟨0⟩), [], []⟩, ⟨.packet 1 (.shopBuy ⟨9⟩), [], []⟩]

theorem wealthy_shows_purses : Machine.Throughout (sceneStep shopData) ShowsPurses wealthy barter := by
  have barters : ∀ input ∈ barter, Barters input := by
    intro input member
    simp only [barter, List.mem_cons, List.not_mem_nil, or_false] at member
    rcases member with rfl | rfl | rfl
    · exact ⟨1, .shopBuy ⟨1⟩, rfl, .inl ⟨_, rfl⟩⟩
    · exact ⟨1, .shopSell ⟨0⟩, rfl, .inr ⟨_, rfl⟩⟩
    · exact ⟨1, .shopBuy ⟨9⟩, rfl, .inl ⟨_, rfl⟩⟩
  exact (barter_gold_shown_iff shopData wealthy barter barters (fun _ _ => rfl)).mpr (by decide +kernel)

theorem empty_slot_sale_misleads :
    ShowsPurses wealthy ∧ ¬ ShowsPurses (sceneStep shopData wealthy ⟨.packet 1 (.shopSell ⟨0⟩), [], []⟩) := by
  refine ⟨fun _ _ => rfl, fun shows => ?_⟩
  have told := shows 1 (by decide +kernel)
  exact absurd told (by decide +kernel)

end GoldView

end MmorpgSimulator
