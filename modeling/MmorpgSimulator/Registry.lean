import MmorpgSimulator.Ownership

set_option autoImplicit false

namespace MmorpgSimulator

def peopleOf (db : Database) : List AccountRow × CharacterTable := (db.accounts, db.characters)

def SamePeople (s t : ServerState) : Prop := peopleOf t.db = peopleOf s.db

namespace SamePeople

variable {s t u : ServerState}

theorem refl (s : ServerState) : SamePeople s s := rfl

theorem trans (first : SamePeople s t) (second : SamePeople t u) : SamePeople s u := Eq.trans second first

theorem call {Row : Type} (h : SamePeople s t) (proc : Database → Option (Database × Row))
    (keeps : ∀ db result, proc db = some result → peopleOf result.1 = peopleOf db) : SamePeople s (t.executeProc proc).1 :=
  h.trans (proc_db_keeps t proc peopleOf keeps)

theorem read {Row : Type} (h : SamePeople s t) (row : Database → Row) : SamePeople s (t.executeProc (fun db => some (db, row db))).1 :=
  h.trans (congrArg peopleOf (proc_db_reads t row))

theorem addItem (h : SamePeople s t) (charUid : CharUid) (itemTid : UInt16) : SamePeople s (addItemToDb t charUid itemTid).1 :=
  h.call _ (fun db result called => by
    obtain rfl := Option.some.inj called
    rfl)

theorem removeItem (h : SamePeople s t) (itemUid : ItemUid) : SamePeople s (removeItemFromDb t itemUid) :=
  h.call _ (fun db result called => by
    obtain rfl := Option.some.inj called
    rfl)

theorem equipItem (h : SamePeople s t) (charUid : CharUid) (slot : Nat) (itemUid : ItemUid) : SamePeople s (equipItemDb t charUid slot itemUid) :=
  h.call _ (fun db result called => by
    obtain rfl := Option.some.inj called
    rfl)

theorem saveQuest (h : SamePeople s t) (charUid : CharUid) (questId : UInt16) (state : QuestProgress) :
    SamePeople s (saveQuestProgress t charUid questId state) :=
  h.call _ (fun db result called => by
    obtain rfl := Option.some.inj called
    rfl)

theorem fold {Item : Type} (act : ServerState → Item → ServerState) (same : ∀ t item, SamePeople t (act t item)) (items : List Item)
    (h : SamePeople s t) : SamePeople s (items.foldl act t) :=
  Machine.foldl_keeps act (SamePeople s) (fun t item before => before.trans (same t item)) items t h

end SamePeople

theorem people_talks : Talks SamePeople where
  trans := SamePeople.trans
  idle := fun idle => congrArg peopleOf idle.db

section Handlers

variable (data : GameData) (s : ServerState) (sid : SessionId)

theorem on_item_use_people (req : CsItemUse) : SamePeople s (onItemUse data s sid req) := by
  have start := SamePeople.refl s
  rw [onItemUse]
  refine Talks.ite (fun _ => start) (fun _ => ?_)
  split
  · exact start
  · exact Talks.ite (fun _ => start) (fun _ => start.removeItem _)

theorem on_item_equip_people (req : CsItemEquip) : SamePeople s (onItemEquip data s sid req) := by
  have start := SamePeople.refl s
  rw [onItemEquip]
  refine Talks.ite (fun _ => start) (fun _ => ?_)
  split
  · exact start
  · exact Talks.ite (fun _ => start) (fun _ => start.equipItem _ _ _)

theorem on_shop_buy_people (req : CsShopBuy) : SamePeople s (onShopBuy data s sid req) := by
  have start := SamePeople.refl s
  rw [onShopBuy]
  split
  · exact start
  · refine Talks.ite (fun _ => start) (fun _ => ?_)
    simp only
    split
    · exact start
    · exact start.addItem _ _

theorem on_shop_sell_people (req : CsShopSell) : SamePeople s (onShopSell data s sid req) := by
  have start := SamePeople.refl s
  rw [onShopSell]
  refine Talks.ite (fun _ => start) (fun _ => ?_)
  simp only
  split
  · exact start.removeItem _
  · exact start

theorem give_item_people (itemId : UInt16) : SamePeople s (giveItem data s sid itemId) := by
  have start := SamePeople.refl s
  rw [giveItem]
  simp only
  split
  · exact start
  · split
    · exact start
    · exact start.addItem _ _

theorem update_quest_progress_people : SamePeople s (updateQuestProgress data s sid) := by
  refine SamePeople.fold _ (fun t entry => ?_) _ (SamePeople.refl (s.touchQuestLog sid))
  rw [updateQuest]
  exact Talks.ite (fun _ => (SamePeople.refl t).saveQuest _ _ _) (fun _ => SamePeople.refl t)

theorem share_kill_people (npc : Npc) : SamePeople s (shareKill data s sid npc) := by
  rw [shareKill]
  split
  · refine SamePeople.fold _ (fun t mid => ?_) _ (SamePeople.refl _)
    rw [creditMember]
    exact Talks.ite (fun _ => SamePeople.refl t) (fun _ => Talks.ite (fun _ => update_quest_progress_people data (creditKill t mid _ _) mid)
      (fun _ => SamePeople.refl t))
  · exact SamePeople.refl s

theorem on_attack_people (atk : CsAttack) : SamePeople s (onAttack data s sid atk) := by
  rw [onAttack]
  split
  · exact SamePeople.refl s
  · rename_i index _
    refine Talks.ite (fun _ => ?_) (fun _ => SamePeople.refl s)
    have dead := people_talks.announceDeath (people_talks.strike (s := s) sid index) index
    have shared := (dead.trans (share_kill_people data _ sid (strike s sid index).npcs[index])).trans (update_quest_progress_people data _ sid)
    have rolled := people_talks.rollDrop data shared
    rw [killNpc]
    exact people_talks.respawn (Talks.ite (fun _ => rolled.trans (give_item_people data _ sid _)) (fun _ => rolled))

theorem on_quest_accept_people (req : CsQuestAccept) : SamePeople s (onQuestAccept data s sid req) := by
  have start := SamePeople.refl s
  rw [onQuestAccept]
  refine Talks.ite (fun _ => start) (fun _ => ?_)
  split
  · exact start
  · exact Talks.ite (fun _ => start) (fun _ => Talks.ite (fun _ => start) (fun _ => start.saveQuest _ _ _))

theorem on_quest_complete_people (req : CsQuestComplete) : SamePeople s (onQuestComplete data s sid req) := by
  have start := SamePeople.refl s
  rw [onQuestComplete]
  refine Talks.ite (fun _ => start) (fun _ => ?_)
  cases data.findQuest req.questId with
  | none => exact start
  | some quest =>
      simp only
      cases ((s.touchQuestLog sid).questLog sid)[req.questId]? with
      | none => exact start
      | some state =>
          refine Talks.ite (fun _ => start) (fun _ => ?_)
          have saved := start.saveQuest (s.player sid).charUid req.questId { state with status := 3 }
          by_cases due : quest.rewardItemId > 0
          · simp only [if_pos due]
            exact saved.trans (give_item_people data _ sid _)
          · simp only [if_neg due]
            exact saved

theorem on_char_select_people (req : CsCharSelect) : SamePeople s (onCharSelect data s sid req) := by
  cases read : (s.procReply (loginCall s sid req)).row with
  | none =>
      rw [on_char_select_missing data s sid req read]
      exact congrArg peopleOf (login_call_db s sid req)
  | some row =>
      rw [on_char_select_found data s sid req row read]
      have admitted := (admitted_fields s sid req row).1
      have greeted := (greeted_fields (MmorpgSimulator.admitted s sid req row) sid).1
      have entered := (enter_game_fields data (MmorpgSimulator.admitted s sid req row) sid).2.2
      exact congrArg peopleOf (entered.trans ((load_inventory_db data _ sid).trans (greeted.trans admitted)))

def Request.Enrols : Request → Prop
  | .login _ | .charCreate _ | .attendanceCheck => True
  | _ => False

theorem handle_people (request : Request) (plain : ¬ request.Enrols) : SamePeople s (handle data s sid request) := by
  have start := SamePeople.refl s
  cases request with
  | login req => exact absurd trivial plain
  | charList => exact start.read _
  | charCreate req => exact absurd trivial plain
  | charSelect req => exact on_char_select_people data s sid req
  | attendanceCheck => exact absurd trivial plain
  | heartbeat => exact start
  | move req => exact start
  | attack req => exact on_attack_people data s sid req
  | chat req => exact people_talks.onChat sid req
  | itemUse req => exact on_item_use_people data s sid req
  | itemEquip req => exact on_item_equip_people data s sid req
  | shopOpen => exact start
  | shopBuy req => exact on_shop_buy_people data s sid req
  | shopSell req => exact on_shop_sell_people data s sid req
  | questList => exact people_talks.onQuestList data sid
  | questAccept req => exact on_quest_accept_people data s sid req
  | questComplete req => exact on_quest_complete_people data s sid req
  | partyInvite req => exact people_talks.onPartyInvite sid req
  | partyAccept req => exact people_talks.onPartyAccept sid req
  | partyLeave => exact people_talks.removeFromParty start sid

end Handlers

structure Enrolment (property : List AccountRow × CharacterTable → Prop) : Prop where
  login : ∀ db channelId, property (peopleOf db) → property (peopleOf (db.spAccountLogin 0 channelId).1)
  create : ∀ db accountUid charName charType result, db.spCharacterCreate accountUid charName charType = some result →
    property (peopleOf db) → property (peopleOf result.1)
  attend : ∀ db charUid, property (peopleOf db) → property (peopleOf (db.spAttendanceCheck charUid).1)

namespace Enrolment

variable {property : List AccountRow × CharacterTable → Prop} (enrolment : Enrolment property) (data : GameData) (s : ServerState)
include enrolment

theorem handle (sid : SessionId) (request : Request) (holds : property (peopleOf s.db)) :
    property (peopleOf (MmorpgSimulator.handle data s sid request).db) := by
  have kept (plain : ¬ request.Enrols) : property (peopleOf (MmorpgSimulator.handle data s sid request).db) := by
    have same : peopleOf (MmorpgSimulator.handle data s sid request).db = peopleOf s.db := handle_people data s sid request plain
    rwa [same]
  cases request with
  | login req =>
      have called : property (peopleOf (s.procDb (fun db => some (db.spAccountLogin 0 (channelIdOf data req.accountId))))) :=
        proc_db_holds s _ (fun db => property (peopleOf db)) (fun result called => by
          obtain rfl := Option.some.inj called
          exact enrolment.login s.db _ holds) holds
      exact (congrArg (fun db => property (peopleOf db)) (char_list_db _ sid)).mpr called
  | charCreate req =>
      change property (peopleOf (onCharCreate data s sid req).db)
      rw [(on_char_create_fields data s sid req).2]
      refine proc_db_holds s _ (fun db => property (peopleOf db)) (fun result called => ?_) holds
      obtain ⟨bound, _, created⟩ := Option.bind_eq_some_iff.mp called
      exact enrolment.create s.db _ _ _ result created holds
  | attendanceCheck =>
      exact proc_db_holds s (fun db => some (db.spAttendanceCheck (s.player sid).charUid)) (fun db => property (peopleOf db))
        (fun result called => by
          obtain rfl := Option.some.inj called
          exact enrolment.attend s.db _ holds) holds
  | _ => exact kept id

theorem step (input : Input) (holds : property (peopleOf s.db)) : property (peopleOf (MmorpgSimulator.step data s input).db) := by
  cases condition : s.fault with
  | some fault => rwa [step_dead data s input fault condition]
  | none =>
      rw [step_alive data s input condition]
      cases input.event with
      | accept =>
          rw [handleEvent, (idle_do_accept (facing s input)).db]
          exact holds
      | writeError sid => exact holds
      | disconnect sid =>
          by_cases here : sid ∈ s.sessions
          · rw [disconnect_here data (facing s input) sid here, (on_disconnect_departed _ sid).db]
            exact holds
          · rwa [disconnect_absent data (facing s input) sid here]
      | packet sid request =>
          by_cases here : sid ∈ s.sessions
          · rw [handle_event_here data (facing s input) sid request here]
            exact enrolment.handle data (facing s input) sid request holds
          · rwa [handle_event_absent data (facing s input) sid request here]

theorem run (inputs : List Input) (holds : property (peopleOf s.db)) :
    property (peopleOf (Machine.run (MmorpgSimulator.step data) s inputs).db) := by
  induction inputs generalizing s with
  | nil => exact holds
  | cons input rest ih => exact ih _ (enrolment.step data s input holds)

end Enrolment

end MmorpgSimulator
