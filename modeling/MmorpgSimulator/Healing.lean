import MmorpgSimulator.CombatStats
import MmorpgSimulator.ItemNews

set_option autoImplicit false

namespace MmorpgSimulator

def Hale (player : PlayerData) : Prop := player.hp ≤ player.maxHp

instance (player : PlayerData) : Decidable (Hale player) := inferInstanceAs (Decidable (_ ≤ _))

theorem levelled_hale (player : PlayerData) (hale : Hale player) : Hale (levelled player) :=
  levelled_keeps Hale (fun _ _ _ => UInt16.le_refl _) player hale

def healedPlayer (player : PlayerData) (item : ItemData) : PlayerData :=
  { player with hp := min (player.hp + item.hp) player.maxHp }

theorem healed_hp (player : PlayerData) (item : ItemData) :
    (healedPlayer player item).hp.toNat = min ((player.hp.toNat + item.hp.toNat) % 2 ^ 16) player.maxHp.toNat := by
  have capped : (min (player.hp + item.hp) player.maxHp).toNat = min (player.hp + item.hp).toNat player.maxHp.toNat := by
    rw [UInt16.min_def, Nat.min_def]
    simp only [UInt16.le_iff_toNat_le]
    split <;> rfl
  rw [healedPlayer, capped, UInt16.toNat_add]

theorem healed_hale (player : PlayerData) (item : ItemData) : Hale (healedPlayer player item) := by
  rw [Hale, UInt16.le_iff_toNat_le, healed_hp]
  exact Nat.min_le_right _ _

structure Heals (before after : PlayerData) (item : ItemData) : Prop where
  sum : after.hp.toNat = min (before.hp.toNat + item.hp.toNat) before.maxHp.toNat
  kept : before.hp ≤ after.hp

theorem heals_iff (player : PlayerData) (item : ItemData) (hale : Hale player) :
    Heals player (healedPlayer player item) item ↔ player.hp.toNat + item.hp.toNat < 2 ^ 16 := by
  have below : player.hp.toNat ≤ player.maxHp.toNat := UInt16.le_iff_toNat_le.mp hale
  have small := item.hp.toNat_lt
  have sum := healed_hp player item
  constructor
  · intro heals
    by_contra beyond
    -- The sum has come round once: what is left is less than there was.
    have lost : (player.hp.toNat + item.hp.toNat) % 2 ^ 16 < player.hp.toNat := by omega
    have kept := UInt16.le_iff_toNat_le.mp heals.kept
    omega
  · intro fits
    rw [Nat.mod_eq_of_lt fits] at sum
    refine ⟨sum, UInt16.le_iff_toNat_le.mpr ?_⟩
    omega

def StaysHale (s t : ServerState) : Prop := (∀ sid, Hale (s.player sid)) → ∀ sid, Hale (t.player sid)

namespace StaysHale

variable {s t u : ServerState}

theorem refl (s : ServerState) : StaysHale s s := id

theorem trans (first : StaysHale s t) (second : StaysHale t u) : StaysHale s u := fun hale => second (first hale)

theorem set (h : StaysHale s t) (sid : SessionId) (player : PlayerData) (keeps : Hale (t.player sid) → Hale player) :
    StaysHale s (t.setPlayer sid player) := by
  intro hale other
  rcases player_set_or t sid other player with ⟨_, still⟩ | ⟨rfl, _, written⟩
  · rw [still]
    exact h hale other
  · rw [written]
    exact keeps (h hale other)

theorem fold {Item : Type} (act : ServerState → Item → ServerState) (same : ∀ t item, StaysHale t (act t item)) (items : List Item)
    (h : StaysHale s t) : StaysHale s (items.foldl act t) :=
  Machine.foldl_keeps act (StaysHale s) (fun t item before => before.trans (same t item)) items t h

end StaysHale

theorem hale_talks : Talks StaysHale where
  trans := StaysHale.trans
  idle := fun idle hale sid => (idle.players sid).symm ▸ hale sid

section Handlers

variable (data : GameData) (s : ServerState) (sid : SessionId)

theorem on_login_hale (login : CsLogin) : StaysHale s (onLogin data s sid login) :=
  (StaysHale.refl s).set sid _ id

theorem on_char_create_hale (req : CsCharCreate) : StaysHale s (onCharCreate data s sid req) := by
  obtain ⟨sent, dbPlan, db, fault, same⟩ := on_char_create_state data s sid req
  rw [same]
  exact StaysHale.refl s

theorem load_inventory_hale : StaysHale s (loadInventory data s sid) := by
  rw [load_inventory_eq, putOn]
  exact (StaysHale.refl s).set sid _ id

theorem load_quest_progress_hale : StaysHale s (loadQuestProgress s sid) := id

theorem enter_game_hale : StaysHale s (enterGame data s sid) := by
  obtain ⟨sent, same⟩ := greeted_state s sid
  rw [enter_game_greeted, same]
  have loaded := load_inventory_hale data { s with sent, dbPlan := s.dbPlan.tail } sid
  exact loaded.trans (load_quest_progress_hale _ sid)

theorem fetch_name_hale (charUid : CharUid) : StaysHale s (fetchName s sid charUid) := (StaysHale.refl s).set sid _ id

theorem on_char_select_hale (req : CsCharSelect) : StaysHale s (onCharSelect data s sid req) := by
  cases read : (s.procReply (loginCall s sid req)).row with
  | none =>
      rw [on_char_select_missing data s sid req read]
      exact StaysHale.refl s
  | some row =>
      rw [on_char_select_found data s sid req row read]
      have called : StaysHale s (s.executeProc (loginCall s sid req)).1.rolled.rolled := StaysHale.refl s
      have selected := called.set sid (selectedPlayer (s.player sid) req.charUid row s.rand s.rolled.rand) id
      have named := selected.trans (fetch_name_hale _ sid req.charUid)
      exact named.trans (enter_game_hale data (admitted s sid req row) sid)

theorem on_move_hale (move : CsMove) : StaysHale s (onMove s sid move) := by
  refine (StaysHale.refl s).set sid _ ?_
  split <;> exact id

theorem on_item_use_hale (req : CsItemUse) : StaysHale s (onItemUse data s sid req) := by
  have start := StaysHale.refl s
  rw [onItemUse]
  refine Talks.ite (fun _ => start) (fun _ => ?_)
  split
  · exact start
  · rename_i item _
    exact Talks.ite (fun _ => start) (fun _ => start.set sid _ (fun _ => healed_hale (s.player sid) item))

theorem on_item_equip_hale (req : CsItemEquip) : StaysHale s (onItemEquip data s sid req) := by
  have start := StaysHale.refl s
  rw [onItemEquip]
  refine Talks.ite (fun _ => start) (fun _ => ?_)
  split
  · exact start
  · refine Talks.ite (fun _ => start) (fun _ => start.set sid _ ?_)
    rw [equippedPlayer]
    split <;> exact id

theorem on_shop_buy_hale (req : CsShopBuy) : StaysHale s (onShopBuy data s sid req) := by
  have start := StaysHale.refl s
  rw [onShopBuy]
  split
  · exact start
  · refine Talks.ite (fun _ => start) (fun _ => ?_)
    simp only
    split
    · exact start
    · exact start.set sid _ id

theorem on_shop_sell_hale (req : CsShopSell) : StaysHale s (onShopSell data s sid req) := by
  have start := StaysHale.refl s
  rw [onShopSell]
  refine Talks.ite (fun _ => start) (fun _ => ?_)
  simp only
  split <;> exact start.set sid _ id

theorem give_item_hale (itemId : UInt16) : StaysHale s (giveItem data s sid itemId) := by
  have start := StaysHale.refl s
  rw [giveItem]
  simp only
  split
  · exact start
  · split <;> exact start

theorem update_quest_progress_hale : StaysHale s (updateQuestProgress data s sid) := by
  refine StaysHale.fold _ (fun t entry => ?_) _ (StaysHale.refl (s.touchQuestLog sid))
  rw [updateQuest]
  exact Talks.ite (fun _ => StaysHale.refl t) (fun _ => StaysHale.refl t)

theorem check_level_up_hale : StaysHale s (checkLevelUp s sid) :=
  hale_talks.sendAll ((StaysHale.refl s).set sid _ (levelled_hale (s.player sid))) _ _

theorem credit_kill_hale (exp gold : UInt32) : StaysHale s (creditKill s sid exp gold) :=
  ((StaysHale.refl s).set sid (rewarded (s.player sid) exp gold) id).trans (check_level_up_hale _ sid)

theorem share_kill_hale (npc : Npc) : StaysHale s (shareKill data s sid npc) := by
  rw [shareKill]
  split
  · refine StaysHale.fold _ (fun t mid => ?_) _ (StaysHale.refl _)
    rw [creditMember]
    have credited := credit_kill_hale t mid
    exact Talks.ite (fun _ => StaysHale.refl t) (fun _ => Talks.ite
      (fun _ => (credited _ _).trans (update_quest_progress_hale data (creditKill t mid _ _) mid)) (fun _ => credited _ _))
  · exact credit_kill_hale s sid _ _

theorem on_attack_hale (atk : CsAttack) : StaysHale s (onAttack data s sid atk) := by
  rw [onAttack]
  split
  · exact StaysHale.refl s
  · rename_i index _
    refine Talks.ite (fun _ => ?_) (fun _ => hale_talks.strike sid index)
    have dead := hale_talks.announceDeath (hale_talks.strike (s := s) sid index) index
    have shared := (dead.trans (share_kill_hale data _ sid (strike s sid index).npcs[index])).trans (update_quest_progress_hale data _ sid)
    have rolled := hale_talks.rollDrop data shared
    rw [killNpc]
    exact hale_talks.respawn (Talks.ite (fun _ => rolled.trans (give_item_hale data _ sid _)) (fun _ => rolled))

theorem on_quest_accept_hale (req : CsQuestAccept) : StaysHale s (onQuestAccept data s sid req) := by
  have start := StaysHale.refl s
  rw [onQuestAccept]
  refine Talks.ite (fun _ => start) (fun _ => ?_)
  split
  · exact start
  · exact Talks.ite (fun _ => start) (fun _ => Talks.ite (fun _ => start) (fun _ => start))

theorem on_quest_complete_hale (req : CsQuestComplete) : StaysHale s (onQuestComplete data s sid req) := by
  have start := StaysHale.refl s
  rw [onQuestComplete]
  refine Talks.ite (fun _ => start) (fun _ => ?_)
  cases data.findQuest req.questId with
  | none => exact start
  | some quest =>
      simp only
      cases ((s.touchQuestLog sid).questLog sid)[req.questId]? with
      | none => exact start
      | some state =>
          refine Talks.ite (fun _ => start) (fun _ => ?_)
          refine hale_talks.send (hale_talks.sendCharInfo (StaysHale.trans ?given (check_level_up_hale _ sid)) _) _ _
          refine hale_talks.send (hale_talks.perhaps ?paid (give_item_hale data _ sid _)) _ _
          exact StaysHale.set (by exact start) sid _ id

theorem handle_hale (request : Request) : StaysHale s (handle data s sid request) := by
  have start := StaysHale.refl s
  cases request with
  | login req => exact on_login_hale data s sid req
  | charList => exact start
  | charCreate req => exact on_char_create_hale data s sid req
  | charSelect req => exact on_char_select_hale data s sid req
  | attendanceCheck => exact start
  | heartbeat => exact start
  | move req => exact on_move_hale s sid req
  | attack req => exact on_attack_hale data s sid req
  | chat req => exact hale_talks.onChat sid req
  | itemUse req => exact on_item_use_hale data s sid req
  | itemEquip req => exact on_item_equip_hale data s sid req
  | shopOpen => exact start
  | shopBuy req => exact on_shop_buy_hale data s sid req
  | shopSell req => exact on_shop_sell_hale data s sid req
  | questList => exact hale_talks.onQuestList data sid
  | questAccept req => exact on_quest_accept_hale data s sid req
  | questComplete req => exact on_quest_complete_hale data s sid req
  | partyInvite req => exact hale_talks.onPartyInvite sid req
  | partyAccept req => exact hale_talks.onPartyAccept sid req
  | partyLeave => exact hale_talks.removeFromParty start sid

theorem step_hale (input : Input) : StaysHale s (step data s input) := by
  cases condition : s.fault with
  | some fault =>
      rw [step_dead data s input fault condition]
      exact StaysHale.refl s
  | none =>
      rw [step_alive data s input condition]
      have start : StaysHale s (facing s input) := StaysHale.refl s
      cases input.event with
      | accept => exact StaysHale.trans start (hale_talks.idle (idle_do_accept (facing s input)))
      | writeError sid => exact StaysHale.trans start (hale_talks.idle (idle_set_unconnected (facing s input) sid))
      | packet sid request => exact Talks.ite (fun _ => handle_hale data (facing s input) sid request) (fun _ => StaysHale.refl s)
      | disconnect sid =>
          refine Talks.ite (fun _ hale other => ?_) (fun _ => StaysHale.refl s)
          have gone := on_disconnect_departed (setUnconnected (facing s input) sid) sid
          by_cases own : other = sid
          · rw [own, gone.player]
            decide
          · rw [gone.players other own, (idle_set_unconnected (facing s input) sid).players other]
            exact hale other

end Handlers

section Uses

variable (data : GameData)

def drunk (inv : Inventory) (slot : UInt8) : Option ItemData :=
  if occupied inv slot then (data.findItem (inv.slot slot.toNat).itemTid).filter (fun item => item.type = consumableType) else none

theorem on_item_use_drunk (s : ServerState) (sid : SessionId) (req : CsItemUse) (item : ItemData) (here : sid ∈ s.sessions)
    (drinks : drunk data (s.inventory sid) req.slot = some item) :
    (onItemUse data s sid req).player sid = healedPlayer (s.player sid) item := by
  rw [drunk, Option.ite_none_right_eq_some, Option.filter_eq_some_iff] at drinks
  obtain ⟨full, known, kind⟩ := drinks
  rw [decide_eq_true_eq] at kind
  rw [onItemUse]
  simp only [inventory_touch, occupied_or_refused, if_neg (not_not.mpr full), known, if_neg (not_not.mpr kind)]
  exact player_set_self _ sid _ here

def drinking (s : ServerState) (input : Input) : Option (SessionId × ItemData) :=
  match input.event with
  | .packet sid (.itemUse req) =>
      if s.fault.isNone ∧ sid ∈ s.sessions then (drunk data (s.inventory sid) req.slot).map (fun item => (sid, item)) else none
  | _ => none

theorem drinking_use (s : ServerState) (input : Input) (sid : SessionId) (item : ItemData)
    (drinks : drinking data s input = some (sid, item)) : (step data s input).player sid = healedPlayer (s.player sid) item := by
  obtain ⟨event, rolls, dbPlan⟩ := input
  cases event with
  | accept => exact absurd drinks nofun
  | writeError other => exact absurd drinks nofun
  | disconnect other => exact absurd drinks nofun
  | packet other request =>
      cases request with
      | itemUse req =>
          simp only [drinking, Option.ite_none_right_eq_some] at drinks
          obtain ⟨⟨alive, here⟩, mapped⟩ := drinks
          obtain ⟨used, takes, same⟩ := Option.map_eq_some_iff.mp mapped
          obtain ⟨rfl, rfl⟩ := Prod.mk.inj same
          rw [step_alive data s _ (Option.isNone_iff_eq_none.mp alive)]
          have handled := handle_event_here data (facing s ⟨.packet other (.itemUse req), rolls, dbPlan⟩) other (.itemUse req) here
          rw [handled]
          exact on_item_use_drunk data (facing s ⟨.packet other (.itemUse req), rolls, dbPlan⟩) other req used here takes
      | _ => exact absurd drinks nofun

def HealsExactly (s : ServerState) (input : Input) : Prop :=
  ∀ sid item, drinking data s input = some (sid, item) → Heals (s.player sid) ((step data s input).player sid) item

-- What is drunk and what is left of the hit points come to a number of 16 bits.
def sumFits (s : ServerState) (input : Input) : Prop :=
  ∀ sid item, drinking data s input = some (sid, item) → (s.player sid).hp.toNat + item.hp.toNat < 2 ^ 16

theorem heals_exactly_iff (s : ServerState) (input : Input) (hale : ∀ sid, Hale (s.player sid)) :
    HealsExactly data s input ↔ sumFits data s input := by
  refine forall_congr' (fun sid => forall_congr' (fun item => forall_congr' (fun drinks => ?_)))
  rw [drinking_use data s input sid item drinks]
  exact heals_iff (s.player sid) item (hale sid)

theorem healing_exact_iff (db : Database) (draw : Nat → Nat) (inputs : List Input) :
    Machine.Throughout (step data) (fun s => ∀ sid, Hale (s.player sid)) (boot db draw) inputs ∧
      Machine.Guarded (step data) (fun s input => HealsExactly data s input ↔ sumFits data s input) (boot db draw) inputs := by
  have fresh (sid : SessionId) : Hale ((boot db draw).player sid) := by
    have nobody : (boot db draw).player sid = {} := player_absent (boot db draw) sid Std.ExtTreeMap.not_mem_empty
    rw [nobody]
    decide
  have always := Machine.guarded_trivial (step data) (fun _ _ => True) (fun _ _ => trivial) (boot db draw) inputs
  constructor
  · exact Machine.throughout_of_guarded (step data) _ (fun s => ∀ sid, Hale (s.player sid)) _ (fun _ => id)
      (fun s input hale _ => step_hale data s input hale) _ _ fresh always
  · exact Machine.guarded_of_invariant (step data) _ (fun s => ∀ sid, Hale (s.player sid)) _
      (fun s input hale _ => heals_exactly_iff data s input hale) (fun s input hale _ => step_hale data s input hale) _ _ fresh always

def elixirData : GameData := { emptyData with items := [{ id := 1, name := [69], type := consumableType, hp := 65500 }] }

def elixirBought : List Input := returning ++ [⟨.packet 1 (.shopBuy ⟨1⟩), [], []⟩]

theorem elixir_hurts :
    let s := Machine.run (step elixirData) (boot twoCharacters (fun _ => 0)) elixirBought
    (s.player 1).hp = 100 ∧ (s.player 1).maxHp = 100 ∧
      drinking elixirData s ⟨.packet 1 (.itemUse ⟨0⟩), [], []⟩ = some (1, { id := 1, name := [69], type := consumableType, hp := 65500 }) ∧
        ((step elixirData s ⟨.packet 1 (.itemUse ⟨0⟩), [], []⟩).player 1).hp = 64 ∧
          ¬ HealsExactly elixirData s ⟨.packet 1 (.itemUse ⟨0⟩), [], []⟩ := by
  intro s
  have drinks : drinking elixirData s ⟨.packet 1 (.itemUse ⟨0⟩), [], []⟩ =
      some (1, { id := 1, name := [69], type := consumableType, hp := 65500 }) := by decide +kernel
  have before : (s.player 1).hp = 100 := by decide +kernel
  have after : ((step elixirData s ⟨.packet 1 (.itemUse ⟨0⟩), [], []⟩).player 1).hp = 64 := by decide +kernel
  refine ⟨before, by decide +kernel, drinks, after, fun heals => ?_⟩
  have kept := (heals 1 _ drinks).kept
  rw [before, after] at kept
  exact absurd kept (by decide)

end Uses

end MmorpgSimulator
