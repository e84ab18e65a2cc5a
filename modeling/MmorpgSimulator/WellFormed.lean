import MmorpgSimulator.Structs
import MmorpgSimulator.NpcPool
import MmorpgSimulator.QuestFrame
import MmorpgSimulator.PartyViews
import MmorpgSimulator.Rosters

set_option autoImplicit false

namespace MmorpgSimulator

open Packing

structure OnMap (posX posY : Int16) : Prop where
  column : 0 ≤ posX.toInt ∧ posX.toInt < mapSize
  row : 0 ≤ posY.toInt ∧ posY.toInt < mapSize

def Message.Placed : Message → Prop
  | .charInfo info => OnMap info.posX info.posY
  | .moveResult result => OnMap result.posX result.posY
  | .npcSpawn spawn => OnMap spawn.posX spawn.posY
  | .partyUpdate upd => ∀ member ∈ upd.members, OnMap member.posX member.posY
  | _ => True

structure Message.Proper (message : Message) : Prop where
  fits : message.Fits
  placed : message.Placed

structure PlayerData.Decent (player : PlayerData) : Prop where
  account : player.accountUid < 256 ^ 8
  character : player.charUid < 256 ^ 8
  name : 0 ∉ player.name
  place : OnMap player.posX player.posY

structure GameData.Legible (data : GameData) : Prop where
  items : ∀ item ∈ data.items, 0 ∉ item.name
  quests : ∀ quest ∈ data.quests, 0 ∉ quest.name

section Texts

theorem chars_fit (size : Nat) (word : Bytes) (short : word.length < size) (clean : 0 ∉ word) : (chars size).Fits word :=
  And.intro short clean

theorem cut_fits (size count : Nat) (word : Bytes) (clean : 0 ∉ word) (room : count < size) : (chars size).Fits (strncpyS word count) :=
  chars_fit size _ (lt_of_le_of_lt (List.length_take_le count word) room) (fun zero => clean (List.mem_of_mem_take zero))

theorem blank_fits (size : Nat) (room : 0 < size) : (chars size).Fits [] := chars_fit size [] room List.not_mem_nil

-- The constants that the handlers copy into their messages.
def constants : List String :=
  ["Login successful", "Login (no DB)", "Character created", "Create failed", "Character not found", "Cannot equip consumable",
    "Player not found", "Not in a party", "Item not found", "Not enough gold", "Inventory full", "Invalid slot", "Unknown",
    "Not near Quest NPC", "Quest not found", "Already accepted", "Already completed", "Quest accepted!", "Quest not completable",
    "Quest completed!", "Party is full", "Already in a party"]

theorem constants_plain : ∀ literal ∈ constants, (text literal).length < 32 ∧ 0 ∉ text literal := by decide +kernel

theorem constant_fits (size : Nat) (literal : String) (listed : literal ∈ constants) (room : 32 ≤ size) : (chars size).Fits (text literal) :=
  chars_fit size _ (lt_of_lt_of_le (constants_plain literal listed).1 room) (constants_plain literal listed).2

theorem copied_whole (u : ServerState) (name : Bytes) (clean : 0 ∉ name)
    (survives : (u.fail (!strcpyFits 32 name) .invalidParameter).fault = none) : (chars 32).Fits name := by
  refine chars_fit 32 name ?_ clean
  by_contra long
  have cut : (!strcpyFits 32 name) = true := by
    rw [strcpyFits, decide_eq_false long]
    rfl
  rw [ServerState.fail, cut] at survives
  cases condition : u.fault <;> simp [condition] at survives

variable (data : GameData) (legible : data.Legible)
include legible

theorem item_clean (itemTid : UInt16) (item : ItemData) (found : data.findItem itemTid = some item) : 0 ∉ item.name :=
  legible.items item (List.mem_of_find?_eq_some found)

theorem item_name_fits (itemTid : UInt16) : (chars 32).Fits (itemName data itemTid) := by
  rw [itemName]
  cases found : data.findItem itemTid with
  | none => exact blank_fits 32 (by decide)
  | some item => exact cut_fits 32 31 item.name (item_clean data legible itemTid item found) (by decide)

end Texts

section Structs

theorem counted_fits {Value : Type} (layout : Layout UInt8 Value) (blank : Value) (room : Nat) (values : List Value)
    (inside : values.length ≤ room) (small : room < 256) (each : ∀ value ∈ values, layout.Fits value) :
    (layout.counted (number 1) blank room).Fits (values.length, values) := by
  have count : (number 1).Fits values.length := show values.length < 256 ^ 1 by omega
  exact And.intro rfl (And.intro inside (And.intro count each))

theorem char_create_result_proper (result : ScCharCreateResult) (uid : result.charUid < 256 ^ 8) (message : (chars 32).Fits result.message) :
    (Message.charCreateResult result).Proper :=
  ⟨And.intro trivial (And.intro uid message), trivial⟩

theorem error_proper (error : ScError) (message : (chars 64).Fits error.message) : (Message.error error).Proper :=
  ⟨And.intro trivial message, trivial⟩

theorem char_info_proper (info : ScCharInfo) (uid : info.charUid < 256 ^ 8) (name : (chars 32).Fits info.name)
    (place : OnMap info.posX info.posY) : (Message.charInfo info).Proper :=
  ⟨And.intro uid (And.intro name (And.intro trivial (And.intro trivial (And.intro trivial (And.intro trivial (And.intro trivial
    (And.intro trivial trivial))))))), place⟩

theorem move_result_proper (result : ScMoveResult) (place : OnMap result.posX result.posY) : (Message.moveResult result).Proper :=
  ⟨And.intro trivial (And.intro trivial trivial), place⟩

theorem attack_result_proper (result : ScAttackResult) : (Message.attackResult result).Proper :=
  ⟨And.intro trivial (And.intro trivial (And.intro trivial trivial)), trivial⟩

theorem npc_spawn_proper (spawn : ScNpcSpawn) (place : OnMap spawn.posX spawn.posY) : (Message.npcSpawn spawn).Proper :=
  ⟨And.intro trivial (And.intro trivial (And.intro trivial (And.intro trivial trivial))), place⟩

theorem npc_death_proper (death : ScNpcDeath) : (Message.npcDeath death).Proper :=
  ⟨And.intro trivial (And.intro trivial trivial), trivial⟩

theorem exp_update_proper (update : ScExpUpdate) : (Message.expUpdate update).Proper := ⟨And.intro trivial trivial, trivial⟩

theorem level_up_proper (lvup : ScLevelUp) : (Message.levelUp lvup).Proper :=
  ⟨And.intro trivial (And.intro trivial (And.intro trivial (And.intro trivial trivial))), trivial⟩

theorem item_drop_proper (drop : ScItemDrop) (name : (chars 32).Fits drop.itemName) : (Message.itemDrop drop).Proper :=
  ⟨And.intro trivial (And.intro trivial name), trivial⟩

theorem item_use_result_proper (result : ScItemUseResult) (uid : result.charUid < 256 ^ 8) (user : (chars 20).Fits result.charName)
    (item : (chars 32).Fits result.itemName) : (Message.itemUseResult result).Proper :=
  ⟨And.intro uid (And.intro user (And.intro item (And.intro trivial trivial))), trivial⟩

theorem equip_result_proper (worn : ScEquipResult) (weapon : (chars 32).Fits worn.weaponName) (armor : (chars 32).Fits worn.armorName)
    (message : (chars 32).Fits worn.message) : (Message.equipResult worn).Proper :=
  ⟨And.intro trivial (And.intro trivial (And.intro trivial (And.intro trivial (And.intro weapon (And.intro armor message))))), trivial⟩

theorem inventory_update_fits (update : ScInventoryUpdate) (name : (chars 32).Fits update.itemName) :
    ScInventoryUpdate.layout.Fits update :=
  And.intro trivial (And.intro trivial name)

theorem inventory_update_proper (update : ScInventoryUpdate) (name : (chars 32).Fits update.itemName) :
    (Message.inventoryUpdate update).Proper :=
  ⟨inventory_update_fits update name, trivial⟩

theorem shop_result_proper (result : ScShopResult) (message : (chars 32).Fits result.message) : (Message.shopResult result).Proper :=
  ⟨And.intro trivial (And.intro trivial (And.intro trivial message)), trivial⟩

theorem quest_accept_proper (result : ScQuestAcceptResult) (message : (chars 64).Fits result.message) :
    (Message.questAcceptResult result).Proper :=
  ⟨And.intro trivial (And.intro trivial message), trivial⟩

theorem quest_progress_proper (prog : ScQuestProgress) : (Message.questProgress prog).Proper :=
  ⟨And.intro trivial (And.intro trivial trivial), trivial⟩

theorem quest_reward_proper (reward : ScQuestReward) (message : (chars 64).Fits reward.message) : (Message.questReward reward).Proper :=
  ⟨And.intro trivial (And.intro trivial (And.intro trivial (And.intro trivial (And.intro trivial message)))), trivial⟩

theorem party_member_fits (member : ScPartyMember) (uid : member.charUid < 256 ^ 8) (name : (chars 20).Fits member.name) :
    ScPartyMember.layout.Fits member :=
  And.intro uid (And.intro name (And.intro trivial (And.intro trivial (And.intro trivial trivial))))

theorem chat_proper (chat : ScChat) (sender : (chars 20).Fits chat.senderName) (message : (chars 128).Fits chat.message) :
    (Message.chat chat).Proper :=
  ⟨And.intro trivial (And.intro sender message), trivial⟩

end Structs

theorem blank_decent : ({} : PlayerData).Decent := ⟨by decide, by decide, List.not_mem_nil, ⟨by decide, by decide⟩⟩

structure Good (s t : ServerState) : Prop where
  said : Speaks Message.Proper s t
  people : ∀ sid, (t.player sid).Decent

namespace Good

variable {s t u : ServerState}

theorem refl (people : ∀ sid, (s.player sid).Decent) : Good s s := ⟨Speaks.refl s, people⟩

theorem trans (first : Good s t) (second : Good t u) : Good s u := ⟨first.said.trans second.said, second.people⟩

theorem elsewhere (h : Good s t) (u : ServerState) (sent : u.sent = t.sent) (sessions : u.sessions = t.sessions) : Good s u where
  said := h.said.same sent
  people := by
    intro sid
    rw [show u.player sid = t.player sid from congrArg (fun stored => ((stored[sid]?).map Session.player).getD {}) sessions]
    exact h.people sid

theorem speaks (h : Good s t) (u : ServerState) (said : Speaks Message.Proper t u) (sessions : u.sessions = t.sessions) : Good s u :=
  ⟨h.said.trans said, (h.elsewhere { t with sessions := u.sessions } rfl sessions).people⟩

theorem send (h : Good s t) (sid : SessionId) (message : Message) (proper : message.Proper) : Good s (t.send sid message) :=
  ⟨h.said.send sid message proper, h.people⟩

theorem sendAll (h : Good s t) (sid : SessionId) (messages : List Message) (proper : ∀ message ∈ messages, message.Proper) :
    Good s (t.sendAll sid messages) :=
  ⟨h.said.sendAll sid messages proper, h.people⟩

theorem broadcast (h : Good s t) (message : Message) (proper : message.Proper) : Good s (t.broadcast message) :=
  ⟨h.said.broadcast message proper, h.people⟩

theorem broadcastExcept (h : Good s t) (exceptId : SessionId) (message : Message) (proper : message.Proper) :
    Good s (t.broadcastExcept exceptId message) :=
  ⟨h.said.broadcastExcept exceptId message proper, h.people⟩

theorem tell (h : Good s t) (receivers : List SessionId) (message : Message) (proper : message.Proper) : Good s (t.tell receivers message) :=
  ⟨h.said.sendEach receivers message proper rfl, h.people⟩

theorem blanks (h : Good s t) (u : ServerState) (sent : u.sent = t.sent) (players : ∀ sid, u.player sid = t.player sid ∨ u.player sid = {}) :
    Good s u where
  said := h.said.same sent
  people := by
    intro sid
    rcases players sid with still | blank
    · rw [still]
      exact h.people sid
    · rw [blank]
      exact blank_decent

theorem setPlayer (h : Good s t) (sid : SessionId) (player : PlayerData) (decent : player.Decent) : Good s (t.setPlayer sid player) where
  said := h.said.same rfl
  people := by
    intro other
    rcases SameQuests.player_or t sid other player with still | ⟨_, changed⟩
    · rw [still]
      exact h.people other
    · rw [changed]
      exact decent

theorem ite {condition : Prop} [Decidable condition] (yes : condition → Good s t) (no : ¬ condition → Good s u) :
    Good s (if condition then t else u) := by
  split
  · exact yes ‹_›
  · exact no ‹_›

theorem fold {Item : Type} (act : ServerState → Item → ServerState) (each : ∀ u item, Good s u → Good s (act u item)) (items : List Item)
    (h : Good s t) : Good s (items.foldl act t) :=
  Machine.foldl_keeps act (Good s) each items t h

end Good

section Parts

variable (data : GameData) (legible : data.Legible) {s t : ServerState} (good : Good s t) (sid : SessionId)

theorem char_info_decent (player : PlayerData) (decent : player.Decent) : (Message.charInfo (charInfoOf player)).Proper :=
  char_info_proper _ decent.account (cut_fits 32 31 player.name decent.name (by decide)) decent.place

include good

theorem send_char_info_good : Good s (sendCharInfo t sid) :=
  good.send sid _ (char_info_proper _ (good.people sid).account (blank_fits 32 (by decide)) (good.people sid).place)

theorem check_level_up_good : Good s (checkLevelUp t sid) := by
  have decent := good.people sid
  have same {View : Type} (view : PlayerData → View) (once : ∀ player, view (levelOnce player) = view player) :
      view (levelUps (t.player sid)).1 = view (t.player sid) := levelled_frame view once (t.player sid)
  have levelled : (levelUps (t.player sid)).1.Decent := by
    refine ⟨?_, ?_, ?_, ?_⟩
    · rw [same PlayerData.accountUid (fun _ => rfl)]
      exact decent.account
    · rw [same PlayerData.charUid (fun _ => rfl)]
      exact decent.character
    · rw [same PlayerData.name (fun _ => rfl)]
      exact decent.name
    · rw [same PlayerData.posX (fun _ => rfl), same PlayerData.posY (fun _ => rfl)]
      exact decent.place
  refine (good.setPlayer sid _ levelled).sendAll sid _ (fun message member => ?_)
  obtain ⟨lvup, _, rfl⟩ := List.mem_map.mp member
  exact level_up_proper lvup

include legible in
theorem give_item_good (itemId : UInt16) : Good s (giveItem data t sid itemId) := by
  rw [giveItem]
  simp only
  split
  · exact good.elsewhere _ rfl rfl
  · split
    · exact good.elsewhere _ rfl rfl
    · rename_i item found
      exact (good.elsewhere _ (by rfl) (by rfl)).send sid _
        (item_drop_proper _ (cut_fits 32 31 item.name (item_clean data legible itemId item found) (by decide)))

theorem update_quest_progress_good : Good s (updateQuestProgress data t sid) := by
  refine Good.fold (updateQuest data sid) (fun u entry before => ?_) _ (good.elsewhere _ rfl rfl)
  rw [updateQuest]
  exact .ite (fun _ => (before.elsewhere _ (by rfl) (by rfl)).send sid _ (quest_progress_proper _)) (fun _ => before)

theorem credit_kill_good (exp gold : UInt32) : Good s (creditKill t sid exp gold) := by
  have decent := good.people sid
  exact check_level_up_good ((good.setPlayer sid (rewarded (t.player sid) exp gold)
    ⟨decent.account, decent.character, decent.name, decent.place⟩).send sid _ (exp_update_proper _)) sid

theorem share_kill_good (npc : Npc) : Good s (shareKill data t sid npc) := by
  rw [shareKill]
  split
  · refine .fold _ (fun u mid before => ?_) _ (good.elsewhere _ rfl rfl)
    have credited (exp gold : UInt32) := credit_kill_good before mid exp gold
    rw [creditMember]
    exact .ite (fun _ => before) (fun _ => .ite (fun _ => update_quest_progress_good data (credited _ _) mid) (fun _ => credited _ _))
  · exact credit_kill_good good sid _ _

theorem roll_drop_good : Good s (rollDrop data t).1 := by
  rw [rollDrop]
  split
  · exact good
  · exact good.elsewhere _ rfl rfl

include legible in
theorem drop_item_good : Good s (dropItem data t sid) := by
  have rolled := roll_drop_good data good
  exact .ite (fun _ => give_item_good data legible rolled sid _) (fun _ => rolled)

theorem respawn_good : Good s (respawn t) := by
  rw [respawn]
  split
  · exact good
  · exact (good.elsewhere { t.rolled.rolled with npcs := _, nextNpcUid := _ } (by rfl) (by rfl)).broadcast _
      (npc_spawn_proper _ ⟨draw_inside _, draw_inside _⟩)

omit good in
theorem party_member_decent (people : ∀ sid, (t.player sid).Decent) (mid : SessionId) :
    ScPartyMember.layout.Fits (partyMemberOf t mid) ∧ OnMap (partyMemberOf t mid).posX (partyMemberOf t mid).posY := by
  rw [partyMemberOf]
  cases known : t.sessions[mid]? with
  | none => exact ⟨party_member_fits {} (by decide) (blank_fits 20 (by decide)), ⟨by decide, by decide⟩⟩
  | some session =>
      have decent : session.player.Decent := by
        have here := people mid
        rwa [ServerState.player, known] at here
      exact ⟨party_member_fits _ decent.character (cut_fits 20 19 _ decent.name (by decide)), decent.place⟩

omit good in
theorem party_update_proper (people : ∀ sid, (t.player sid).Decent) (members : List SessionId) (small : members.length ≤ maxParty) :
    (Message.partyUpdate (partyUpdateOf t members)).Proper := by
  have length : ((members.take maxParty).map (partyMemberOf t)).length = members.length := by
    rw [List.length_map, List.length_take, Nat.min_eq_right small]
  have count : (partyUpdateOf t members).memberCount.toNat = (partyUpdateOf t members).members.length := by
    change (UInt8.ofNat members.length).toNat = ((members.take maxParty).map (partyMemberOf t)).length
    rw [length, UInt8.toNat_ofNat']
    exact Nat.mod_eq_of_lt (lt_of_le_of_lt small (by decide))
  constructor
  · change (ScPartyMember.layout.counted (number 1) {} maxParty).Fits
      ((partyUpdateOf t members).memberCount.toNat, (partyUpdateOf t members).members)
    rw [count]
    refine counted_fits ScPartyMember.layout {} maxParty _ (length.le.trans small) (by decide) (fun member listed => ?_)
    obtain ⟨mid, _, rfl⟩ := List.mem_map.mp listed
    exact (party_member_decent people mid).1
  · intro member listed
    obtain ⟨mid, _, rfl⟩ := List.mem_map.mp listed
    exact (party_member_decent people mid).2

theorem send_party_update_good (partyId : UInt32) (small : (t.party.membersOf partyId).length ≤ maxParty) :
    Good s (sendPartyUpdate t partyId) := by
  rw [send_party_update_tells]
  exact good.tell _ _ (party_update_proper good.people _ small)

end Parts

section Rosters

variable (t : ServerState) (sid : SessionId)

theorem roster_stored (row : CharacterRow) (listed : row ∈ rosterRead t sid) : row ∈ t.db.characters.rows := by
  rw [rosterRead] at listed
  split at listed
  · exact List.mem_of_mem_filter (List.mem_of_mem_take ((List.takeWhile_sublist _).subset listed))
  · exact absurd listed List.not_mem_nil

theorem roster_few : (rosterRead t sid).length ≤ 5 := by
  rw [rosterRead]
  split
  · exact (List.takeWhile_sublist _).length_le.trans (List.length_take_le 5 _)
  · exact Nat.zero_le 5

theorem roster_copied (alive : t.fault = none) (survives : (sendCharList t sid).fault = none) (row : CharacterRow)
    (listed : row ∈ rosterRead t sid) : row.charName.length < 20 := by
  by_contra long
  have cut : (rosterRead t sid).any (fun row => !strncpyFits 20 row.charName 20) = true := by
    refine List.any_eq_true.mpr ⟨row, listed, ?_⟩
    simp only [strncpyFits, Bool.not_eq_true', decide_eq_false_iff_not]
    omega
  rw [send_char_list_fault t sid alive, if_pos cut] at survives
  exact absurd survives (by simp)

theorem char_list_proper (alive : t.fault = none) (survives : (sendCharList t sid).fault = none)
    (uids : t.db.characters.nextUid ≤ 256 ^ 8) (names : ∀ row ∈ t.db.characters.rows, 0 ∉ row.charName) :
    (Message.charList { chars := (rosterRead t sid).map charListEntryOf }).Proper := by
  refine ⟨counted_fits ScCharListEntry.layout ⟨0, [], 0, 0⟩ 5 _ ?_ (by decide) (fun entry member => ?_), trivial⟩
  · rw [List.length_map]
    exact roster_few t sid
  · obtain ⟨row, read, rfl⟩ := List.mem_map.mp member
    have stored := roster_stored t sid row read
    have issued := (t.db.characters.issued row stored).2
    have short : (strncpyS row.charName 20).length < 20 :=
      lt_of_le_of_lt (List.length_take_le' 20 row.charName) (roster_copied t sid alive survives row read)
    exact And.intro (lt_of_lt_of_le issued uids) (And.intro
      (chars_fit 20 _ short (fun zero => names row stored (List.mem_of_mem_take zero))) (And.intro trivial trivial))

end Rosters

section Selected

theorem selected_place (draw : Nat) : 0 ≤ (5 + Int16.ofNat (draw % 10)).toInt ∧ (5 + Int16.ofNat (draw % 10)).toInt < mapSize := by
  have each : ∀ roll < 10, 0 ≤ (5 + Int16.ofNat roll).toInt ∧ (5 + Int16.ofNat roll).toInt < mapSize := by decide
  exact each _ (Nat.mod_lt draw (by decide))

theorem fetched_name_clean (db : Database) (outcome : DbOutcome) (charUid : CharUid) (name : Bytes) (clean : 0 ∉ name)
    (names : ∀ row ∈ db.characters.rows, 0 ∉ row.charName) : 0 ∉ fetchedName db outcome charUid name := by
  rw [fetchedName]
  split
  · cases read : ((db.character charUid).map CharacterRow.charName).filter fetchable with
    | none => exact clean
    | some found =>
        obtain ⟨row, known, rfl⟩ := Option.map_eq_some_iff.mp (Option.filter_eq_some_iff.mp read).1
        exact fun zero => names row (List.mem_of_find?_eq_some known) (List.mem_of_mem_take zero)
  · exact clean

end Selected

section Handlers

variable (data : GameData) (legible : data.Legible) {s t : ServerState} (good : Good s t) (sid : SessionId)
include good

theorem on_move_good (move : CsMove) : Good s (onMove t sid move) := by
  have decent := good.people sid
  have moved (player : PlayerData) (sound : player.Decent) :
      Good s (((t.setPlayer sid player).send sid (.moveResult { success := 1, posX := player.posX, posY := player.posY })).broadcastExcept sid
        (.charInfo (charInfoOf player))) :=
    ((good.setPlayer sid player sound).send sid _ (move_result_proper _ sound.place)).broadcastExcept sid _
      (char_info_decent player sound)
  refine moved _ ?_
  split
  · rename_i inside
    obtain ⟨left, right, top, bottom⟩ := inside
    refine ⟨decent.account, decent.character, decent.name, ⟨⟨?_, ?_⟩, ⟨?_, ?_⟩⟩⟩
    · exact Int16.le_iff_toInt_le.mp left
    · exact Int16.lt_iff_toInt_lt.mp right
    · exact Int16.le_iff_toInt_le.mp top
    · exact Int16.lt_iff_toInt_lt.mp bottom
  · exact decent

include legible in
theorem load_inventory_good : Good s (loadInventory data t sid) := by
  have listed (inv : Inventory) : (Message.inventoryList (inventoryList data inv)).Proper := by
    refine ⟨counted_fits ScInventoryUpdate.layout {} maxInventory _ ?_ (by decide) (fun update member => ?_), trivial⟩
    · exact (List.length_filterMap_le _ _).trans (List.length_range).le
    · obtain ⟨index, _, shown⟩ := List.mem_filterMap.mp member
      rw [Option.ite_none_left_eq_some] at shown
      obtain ⟨item, found, rfl⟩ := Option.map_eq_some_iff.mp shown.2
      exact inventory_update_fits _ (cut_fits 32 31 item.name (item_clean data legible _ item found) (by decide))
  have fetched : Good s (fetched t sid) := good.elsewhere _ rfl rfl
  have worn := fetched.people sid
  rw [load_inventory_eq, putOn]
  refine Good.sendAll (fetched.elsewhere _ (by rfl) (by rfl) |>.setPlayer sid _ ?_) sid _ (fun message member => ?_)
  · exact ⟨worn.account, worn.character, worn.name, worn.place⟩
  · rcases List.mem_cons.mp member with rfl | member
    · exact listed _
    · rw [outfit] at member
      split at member
      · obtain rfl := List.mem_singleton.mp member
        exact equip_result_proper _ (item_name_fits data legible _) (item_name_fits data legible _) (blank_fits 32 (by decide))
      · exact absurd member List.not_mem_nil

theorem send_all_npcs_good (fitted : Fitted t) : Good s (sendAllNpcs t sid) := by
  refine good.sendAll sid _ (fun message member => ?_)
  obtain ⟨npc, listed, rfl⟩ := List.mem_map.mp member
  obtain ⟨index, inside, rfl⟩ := List.mem_iff_getElem.mp (List.mem_of_mem_filter listed)
  have here : index < maxNpc := by simpa using inside
  have fit := fitted ⟨index, here⟩
  simp only [Vector.getElem_toList]
  exact npc_spawn_proper _ ⟨fit.column, fit.row⟩

theorem send_other_players_good : Good s (sendOtherPlayers t sid) := by
  refine Good.broadcastExcept (good.sendAll sid _ (fun message member => ?_)) sid _ (char_info_decent _ (good.people sid))
  obtain ⟨other, _, rfl⟩ := List.mem_map.mp member
  exact char_info_decent _ (good.people other)

include legible in
theorem enter_game_good (fitted : Fitted t) : Good s (enterGame data t sid) := by
  have informed := send_char_info_good good sid
  have surrounded := send_all_npcs_good informed sid (fitted_same (by rfl) fitted)
  have met := send_other_players_good surrounded sid
  have attended : Good s (sendAttendanceInfo (sendOtherPlayers (sendAllNpcs (sendCharInfo t sid) sid) sid) sid) :=
    (met.elsewhere _ (by rfl) (by rfl)).send sid _ ⟨And.intro trivial trivial, trivial⟩
  exact (load_inventory_good data legible attended sid).elsewhere _ rfl rfl

theorem send_char_list_good (listed : (Message.charList { chars := (rosterRead t sid).map charListEntryOf }).Proper) :
    Good s (sendCharList t sid) := by
  have said : Speaks Message.Proper t (sendCharList t sid) :=
    (Speaks.refl t).adds _ (fun entry member => mem_deliver t sid entry.1 _ entry.2 member ▸ listed) (send_char_list_sent t sid)
  exact good.speaks _ said rfl

theorem on_login_good (login : CsLogin) (account : loginAccount data t.db t.outcome login < 256 ^ 8) (alive : t.fault = none)
    (survives : (onLogin data t sid login).fault = none) (uids : t.db.characters.nextUid ≤ 256 ^ 8)
    (names : ∀ row ∈ t.db.characters.rows, 0 ∉ row.charName) : Good s (onLogin data t sid login) := by
  have decent := good.people sid
  have kept := proc_db_keeps t (fun db => some (db.spAccountLogin 0 (channelIdOf data login.accountId))) Database.characters
    (fun db result called => by
      obtain rfl := Option.some.inj called
      exact account_login_characters db _)
  rw [← login_reply] at account
  have greeting (known : Prop) [Decidable known] : (chars 64).Fits (text (if known then "Login successful" else "Login (no DB)")) := by
    refine constant_fits 64 _ ?_ (by decide)
    split <;> simp [constants]
  refine send_char_list_good (Good.send (Good.setPlayer (good.elsewhere (t.executeProc _).1 rfl rfl) sid _ ?_) sid _ ?_) sid
    (char_list_proper _ sid alive survives (le_of_eq_of_le (congrArg CharacterTable.nextUid kept) uids) (fun row stored => ?_))
  · exact ⟨account, decent.character, decent.name, decent.place⟩
  · exact ⟨And.intro trivial (And.intro account (greeting _)), trivial⟩
  · exact names row (congrArg CharacterTable.rows kept ▸ stored)

theorem on_char_create_good (req : CsCharCreate) (alive : t.fault = none) (survives : (onCharCreate data t sid req).fault = none)
    (uids : (onCharCreate data t sid req).db.characters.nextUid ≤ 256 ^ 8)
    (names : ∀ row ∈ (onCharCreate data t sid req).db.characters.rows, 0 ∉ row.charName) : Good s (onCharCreate data t sid req) := by
  cases read : (t.procReply (creationCall data t sid req)).row with
  | none =>
      rw [on_char_create_refused data t sid req read]
      exact (good.elsewhere _ (by rfl) (by rfl)).send sid _
        (char_create_result_proper _ (by decide) (constant_fits 32 _ (by simp [constants]) (by decide)))
  | some charUid =>
      obtain ⟨bound, result, _, inserted, same, stored⟩ := creation_read data t sid req charUid read
      rw [Database.spCharacterCreate, Option.ite_none_left_eq_some, Option.some.injEq] at inserted
      obtain ⟨_, rfl⟩ := inserted
      have created : (afterCreation data t sid req charUid).db.characters = t.db.characters.add (t.player sid).accountUid bound.1 bound.2
          t.db.defaultLevel t.db.defaultExp := congrArg Database.characters stored
      obtain rfl : charUid = t.db.characters.nextUid := same
      rw [on_char_create_granted data t sid req _ read t.db.characters.positive] at survives uids names ⊢
      rw [char_list_db] at uids names
      have issued : t.db.characters.nextUid < 256 ^ 8 := by
        rw [created] at uids
        exact uids
      have told := (good.elsewhere (t.executeProc (creationCall data t sid req)).1 rfl rfl).send sid
        (.charCreateResult (grantedResult t.db.characters.nextUid))
        (char_create_result_proper _ issued (constant_fits 32 _ (by simp [constants]) (by decide)))
      exact send_char_list_good told sid (char_list_proper _ sid alive survives uids names)

theorem fetch_name_good (charUid : CharUid) (names : ∀ row ∈ t.db.characters.rows, 0 ∉ row.charName) : Good s (fetchName t sid charUid) := by
  have decent := good.people sid
  have clean := fetched_name_clean t.db t.outcome charUid (t.player sid).name decent.name names
  have same : (((t.procReply (fun db => some (db, (db.character charUid).map CharacterRow.charName))).row.join.filter fetchable).map
      (fun name => strncpyS name 19)).getD (t.player sid).name = fetchedName t.db t.outcome charUid (t.player sid).name := by
    rw [fetchedName, ServerState.procReply]
    cases t.outcome <;> rfl
  rw [← same] at clean
  exact (good.elsewhere (t.executeProc _).1 rfl rfl).setPlayer sid _ ⟨decent.account, decent.character, clean, decent.place⟩

theorem admitted_good (req : CsCharSelect) (row : Int32 × Int64 × Int64) (found : (t.procReply (loginCall t sid req)).row = some row)
    (uids : t.db.characters.nextUid ≤ 256 ^ 8) (names : ∀ row ∈ t.db.characters.rows, 0 ∉ row.charName) :
    Good s (admitted t sid req row) := by
  have decent := good.people sid
  obtain ⟨entry, known, _⟩ := login_row t sid req row found
  have stored : entry ∈ t.db.characters.rows := List.mem_of_find?_eq_some known
  have own : entry.charUid = req.charUid := by simpa using List.find?_some known
  have issued : req.charUid < 256 ^ 8 := lt_of_lt_of_le (own ▸ (t.db.characters.issued entry stored).2) uids
  have selected : Good s ((t.executeProc (loginCall t sid req)).1.rolled.rolled.setPlayer sid
      (selectedPlayer (t.player sid) req.charUid row t.rand t.rolled.rand)) :=
    (good.elsewhere (t.executeProc (loginCall t sid req)).1.rolled.rolled rfl rfl).setPlayer sid _
      ⟨decent.account, issued, decent.name, ⟨selected_place _, selected_place _⟩⟩
  have kept : (t.executeProc (loginCall t sid req)).1.db = t.db := login_call_db t sid req
  exact fetch_name_good selected sid req.charUid (fun row stored => names row (kept ▸ stored))

include legible in
theorem on_char_select_good (req : CsCharSelect) (fitted : Fitted t) (uids : t.db.characters.nextUid ≤ 256 ^ 8)
    (names : ∀ row ∈ t.db.characters.rows, 0 ∉ row.charName) :
    Good s (onCharSelect data t sid req) := by
  cases found : (t.procReply (loginCall t sid req)).row with
  | none =>
      rw [on_char_select_missing data t sid req found]
      exact (good.elsewhere _ (by rfl) (by rfl)).send sid _ (error_proper _ (constant_fits 64 _ (by simp [constants]) (by decide)))
  | some row =>
      rw [on_char_select_found data t sid req row found]
      exact enter_game_good data legible (admitted_good good sid req row found uids names) sid (fitted_same (by rfl) fitted)

theorem on_chat_good (chat : CsChat) (clean : 0 ∉ chat.message) : Good s (onChat t sid chat) := by
  have reply : (Message.chat ⟨chat.channel, strncpyS (t.player sid).name 19, strncpyS chat.message 127⟩).Proper :=
    chat_proper _ (cut_fits 20 19 _ (good.people sid).name (by decide)) (cut_fits 128 127 _ clean (by decide))
  have refused (u : ServerState) (h : Good s u) (literal : String) (listed : literal ∈ constants) :
      Good s (u.send sid (.error { errorCode := 2, message := text literal })) :=
    h.send sid _ (error_proper _ (constant_fits 64 literal listed (by decide)))
  rw [onChat]
  refine .ite (fun _ => good.broadcast _ reply) (fun _ => .ite (fun _ => ?_) (fun _ => .ite (fun _ => ?_) (fun _ => good)))
  · have replied := good.fold (fun u other => (u.send other _).send sid _)
      (fun u other before => (before.send other _ reply).send sid _ reply) (sessionsNamed t chat.targetName)
    exact .ite (fun _ => refused _ replied _ (by simp [constants])) (fun _ => replied)
  · split
    · exact .fold _ (fun u mid before => before.send mid _ reply) _ (good.elsewhere _ (by rfl) (by rfl))
    · exact refused t good _ (by simp [constants])

include legible in
theorem on_item_use_good (req : CsItemUse) : Good s (onItemUse data t sid req) := by
  have decent := good.people sid
  have touched : Good s (t.touchInventory sid) := good.elsewhere _ rfl rfl
  rw [onItemUse]
  simp only
  split
  · exact touched
  · split
    · exact touched
    · rename_i item found
      refine .ite (fun _ => touched) (fun _ => ?_)
      have drunk := touched.setPlayer sid { t.player sid with hp := min ((t.player sid).hp + item.hp) (t.player sid).maxHp }
        ⟨decent.account, decent.character, decent.name, decent.place⟩
      refine send_char_info_good (Good.send (Good.broadcast (drunk.elsewhere _ (by rfl) (by rfl)) _ ?_) sid _ ?_) sid
      · exact item_use_result_proper _ decent.character (cut_fits 20 19 _ decent.name (by decide))
          (cut_fits 32 31 item.name (item_clean data legible _ item found) (by decide))
      · exact inventory_update_proper _ (blank_fits 32 (by decide))

include legible in
theorem on_item_equip_good (req : CsItemEquip) : Good s (onItemEquip data t sid req) := by
  have decent := good.people sid
  have touched : Good s (t.touchInventory sid) := good.elsewhere _ rfl rfl
  rw [onItemEquip]
  simp only
  split
  · exact touched
  · split
    · exact touched
    · rename_i item found
      refine .ite (fun _ => touched.send sid _ (equip_result_proper _ ?_ ?_ ?_)) (fun _ => ?_)
      · exact blank_fits 32 (by decide)
      · exact blank_fits 32 (by decide)
      · exact constant_fits 32 _ (by simp [constants]) (by decide)
      · have worn : (equippedPlayer (t.player sid) item).Decent := by
          rw [equippedPlayer]
          split <;> exact ⟨decent.account, decent.character, decent.name, decent.place⟩
        have dressed := (touched.elsewhere ((t.touchInventory sid).setInventory sid
          (equippedInventory ((t.touchInventory sid).inventory sid) req.slot.toNat item)) rfl rfl).setPlayer sid _ worn
        refine send_char_info_good (Good.send (Good.send (dressed.elsewhere _ (by rfl) (by rfl)) sid _ ?_) sid _ ?_) sid
        · exact equip_result_proper _ (item_name_fits data legible _) (item_name_fits data legible _) (blank_fits 32 (by decide))
        · refine inventory_update_proper _ ?_
          rw [slotUpdate]
          split
          · exact blank_fits 32 (by decide)
          · exact item_name_fits data legible _

include legible in
theorem on_shop_open_good : Good s (onShopOpen data t sid) := by
  refine good.send sid _ ⟨counted_fits ScShopEntry.layout ⟨0, [], 0⟩ 10 _ ?_ (by decide) (fun entry member => ?_), trivial⟩
  · rw [List.length_map]
    exact List.length_take_le 10 _
  · obtain ⟨item, listed, rfl⟩ := List.mem_map.mp member
    exact And.intro trivial (And.intro (cut_fits 32 31 item.name (legible.items item (List.mem_of_mem_take listed)) (by decide)) trivial)

include legible in
theorem on_shop_buy_good (req : CsShopBuy) (survives : (onShopBuy data t sid req).fault = none) : Good s (onShopBuy data t sid req) := by
  have decent := good.people sid
  have refused (u : ServerState) (h : Good s u) (literal : String) (listed : literal ∈ constants) (gold : UInt64) :
      Good s (u.send sid (.shopResult { message := text literal, remainGold := gold })) :=
    h.send sid _ (shop_result_proper _ (constant_fits 32 literal listed (by decide)))
  revert survives
  rw [onShopBuy]
  simp only
  split
  · exact fun _ => refused t good _ (by simp [constants]) _
  · rename_i item found
    have clean := item_clean data legible _ item found
    split
    · exact fun _ => refused t good _ (by simp [constants]) _
    · split
      · exact fun _ => refused (t.touchInventory sid) (good.elsewhere _ rfl rfl) _ (by simp [constants]) _
      · intro survives
        have paid := (good.elsewhere (t.touchInventory sid) rfl rfl).setPlayer sid
          { t.player sid with gold := (t.player sid).gold - item.price.toUInt64 }
          ⟨decent.account, decent.character, decent.name, decent.place⟩
        refine Good.send (Good.send (paid.elsewhere _ (by rfl) (by rfl)) sid _ ?_) sid _ ?_
        · exact inventory_update_proper _ (cut_fits 32 31 item.name clean (by decide))
        · exact shop_result_proper _ (copied_whole _ item.name clean survives)

include legible in
theorem on_shop_sell_good (req : CsShopSell) (survives : (onShopSell data t sid req).fault = none) : Good s (onShopSell data t sid req) := by
  have decent := good.people sid
  have touched : Good s (t.touchInventory sid) := good.elsewhere _ rfl rfl
  have removed (u : ServerState) (h : Good s u) (itemUid : ItemUid) : Good s (if itemUid ≠ 0 then removeItemFromDb u itemUid else u) :=
    .ite (fun _ => h.elsewhere _ rfl rfl) (fun _ => h)
  revert survives
  rw [onShopSell]
  simp only
  split
  · exact fun _ => touched.send sid _ (shop_result_proper _ (constant_fits 32 _ (by simp [constants]) (by decide)))
  · intro survives
    have clean : 0 ∉ ((data.findItem (((t.touchInventory sid).inventory sid).slot req.slot.toNat).itemTid).map ItemData.name).getD
        (text "Unknown") := by
      cases found : data.findItem (((t.touchInventory sid).inventory sid).slot req.slot.toNat).itemTid with
      | none => exact (constants_plain "Unknown" (by simp [constants])).2
      | some item => exact item_clean data legible _ item found
    have paid := (removed _ touched (((t.touchInventory sid).inventory sid).slot req.slot.toNat).itemUid).setPlayer sid
      { t.player sid with gold := (t.player sid).gold + (((data.findItem (((t.touchInventory sid).inventory sid).slot
          req.slot.toNat).itemTid).map (fun item : ItemData => item.price / 5)).getD 0).toUInt64 }
      ⟨decent.account, decent.character, decent.name, decent.place⟩
    refine Good.send (Good.send (paid.elsewhere _ (by rfl) (by rfl)) sid _ ?_) sid _ ?_
    · exact inventory_update_proper _ (blank_fits 32 (by decide))
    · exact shop_result_proper _ (copied_whole _ _ clean survives)

theorem on_attendance_check_good : Good s (onAttendanceCheck t sid) :=
  Good.send (good.elsewhere (t.executeProc _).1 (by rfl) (by rfl)) sid _ ⟨And.intro trivial trivial, trivial⟩

include legible in
theorem on_quest_list_good : Good s (onQuestList data t sid) := by
  rw [onQuestList]
  refine .ite (fun _ => good.send sid _ (error_proper _ (constant_fits 64 _ (by simp [constants]) (by decide)))) (fun _ => ?_)
  refine Good.send (good.elsewhere (t.touchQuestLog sid) rfl rfl) sid _
    ⟨counted_fits ScQuestEntry.layout ⟨0, [], 0, 0, 0⟩ maxQuestList _ ?_ (by decide) (fun entry member => ?_), trivial⟩
  · rw [List.length_map]
    exact List.length_take_le _ _
  · obtain ⟨quest, listed, rfl⟩ := List.mem_map.mp member
    exact And.intro trivial (And.intro (cut_fits 32 31 quest.name (legible.quests quest (List.mem_of_mem_take listed)) (by decide))
      (And.intro trivial (And.intro trivial trivial)))

theorem on_quest_accept_good (req : CsQuestAccept) : Good s (onQuestAccept data t sid req) := by
  have refused (u : ServerState) (h : Good s u) (literal : String) (listed : literal ∈ constants) :
      Good s (u.send sid (.questAcceptResult { questId := req.questId, message := text literal })) :=
    h.send sid _ (quest_accept_proper _ (constant_fits 64 literal listed (by decide)))
  have noted (log : QuestLog) : Good s (t.setQuestLog sid log) := good.elsewhere _ rfl rfl
  rw [onQuestAccept]
  simp only
  refine .ite (fun _ => refused t good _ (by simp [constants])) (fun _ => ?_)
  split
  · exact refused t good _ (by simp [constants])
  · refine .ite (fun _ => refused _ (noted _) _ (by simp [constants])) (fun _ => .ite (fun _ => refused _ (noted _) _ (by simp [constants]))
      (fun _ => ?_))
    exact (good.elsewhere _ (by rfl) (by rfl)).send sid _ (quest_accept_proper _ (constant_fits 64 _ (by simp [constants]) (by decide)))

include legible in
theorem on_quest_complete_good (req : CsQuestComplete) : Good s (onQuestComplete data t sid req) := by
  have refused (u : ServerState) (h : Good s u) (literal : String) (listed : literal ∈ constants) :
      Good s (u.send sid (.questReward { questId := req.questId, message := text literal })) :=
    h.send sid _ (quest_reward_proper _ (constant_fits 64 literal listed (by decide)))
  have touched : Good s (t.touchQuestLog sid) := good.elsewhere _ rfl rfl
  rw [onQuestComplete]
  simp only
  refine .ite (fun _ => refused t good _ (by simp [constants])) (fun _ => ?_)
  split
  · exact refused t good _ (by simp [constants])
  · rename_i quest _
    split
    · exact refused _ touched _ (by simp [constants])
    · rename_i state _
      refine .ite (fun _ => refused _ touched _ (by simp [constants])) (fun _ => ?_)
      have closed (u : ServerState) (h : Good s u) : Good s (u.setPlayer sid (payQuest (u.player sid) quest)) :=
        h.setPlayer sid _ ⟨(h.people sid).account, (h.people sid).character, (h.people sid).name, (h.people sid).place⟩
      have rewarded (u : ServerState) (h : Good s u) : Good s (if quest.rewardItemId > 0 then giveItem data u sid quest.rewardItemId else u) :=
        .ite (fun _ => give_item_good data legible h sid _) (fun _ => h)
      have given := rewarded _ (closed _ (touched.elsewhere (saveQuestProgress ((t.touchQuestLog sid).setQuestLog sid
        (((t.touchQuestLog sid).questLog sid).insert req.questId { state with status := 3 })) (t.player sid).charUid req.questId
        { state with status := 3 }) rfl rfl))
      exact (send_char_info_good (check_level_up_good (given.send sid _ (exp_update_proper _)) sid) sid).send sid _
        (quest_reward_proper _ (constant_fits 64 _ (by simp [constants]) (by decide)))

include legible in
theorem on_attack_good (atk : CsAttack) : Good s (onAttack data t sid atk) := by
  rw [onAttack]
  split
  · exact good.send sid _ (attack_result_proper _)
  · rename_i index _
    have hit : Good s (strike t sid index) :=
      (good.elsewhere (setNpc t index (struck (t.player sid) t.npcs[index])) rfl rfl).send sid _ (attack_result_proper _)
    have dead : Good s (announceDeath (strike t sid index) index) :=
      (hit.broadcast _ (npc_death_proper _)).elsewhere _ rfl rfl
    split
    · exact respawn_good (drop_item_good data legible (update_quest_progress_good data (share_kill_good data dead sid _) sid) sid)
    · exact hit

section Parties

variable (small : ∀ index, (t.party.membersOf index).length ≤ maxParty)

theorem party_error_good (literal : String) (listed : literal ∈ constants) : Good s (partyError t sid literal) :=
  good.send sid _ (error_proper _ (constant_fits 64 literal listed (by decide)))

include small in
theorem remove_from_party_good : Good s (removeFromParty t sid) := by
  have smaller := without_small t.party sid small
  have parted : Good s (t.setParty (t.party.without sid)) := good.elsewhere _ rfl rfl
  have uid : ((t.sessions[sid]?).map (fun session => session.player.charUid)).getD 0 < 256 ^ 8 := by
    have decent := (good.people sid).character
    rw [ServerState.player] at decent
    cases known : t.sessions[sid]? with
    | none => decide
    | some session => rwa [known] at decent
  rw [removeFromParty]
  split
  · exact good
  · simp only
    split
    · exact parted
    · simp only [fold_send]
      rename_i partyId _ _ found _
      have told := parted.tell (remaining found.members sid) (.partyLeave ⟨_⟩) ⟨uid, trivial⟩
      split
      · split
        · exact told
        · exact told.send _ _ ⟨show 0 < 256 ^ 8 by decide, trivial⟩
      · exact send_party_update_good told partyId (smaller partyId)

theorem on_party_invite_good (req : CsPartyInvite) : Good s (onPartyInvite t sid req) := by
  have looked : Good s ((t.party.playerParty[sid]?).elim t t.touchParty) := by
    cases t.party.playerParty[sid]? with
    | none => exact good
    | some partyId => exact good.elsewhere _ rfl rfl
  rw [onPartyInvite]
  simp only
  refine .ite (fun _ => party_error_good looked sid _ (by simp [constants])) (fun _ => ?_)
  split
  · exact party_error_good looked sid _ (by simp [constants])
  · refine .ite (fun _ => party_error_good looked sid _ (by simp [constants])) (fun _ =>
      .ite (fun _ => party_error_good looked sid _ (by simp [constants])) (fun _ => ?_))
    exact (looked.elsewhere _ (by rfl) (by rfl)).send _ _ ⟨cut_fits 20 19 _ (looked.people sid).name (by decide), trivial⟩

theorem join_party_good (partyId : UInt32) : Good s (joinParty t sid partyId) := by
  rw [joinParty]
  refine .ite (fun _ => good) (fun room => ?_)
  refine send_party_update_good (good.elsewhere (t.setParty (t.party.join partyId sid)) rfl rfl) partyId ?_
  have members : (t.party.join partyId sid).membersOf partyId = t.party.membersOf partyId ++ [sid] := by
    rw [PartyState.membersOf, PartyState.membersOf, PartyState.join]
    cases t.party.parties[partyId]? <;> simp
  change ((t.party.join partyId sid).membersOf partyId).length ≤ maxParty
  rw [members, List.length_append]
  exact Nat.lt_of_not_le room

theorem on_party_accept_good (req : CsPartyAccept) : Good s (onPartyAccept t sid req) := by
  rw [onPartyAccept]
  split
  · exact good
  · have answered (party : PartyState) : Good s (t.setParty party) := good.elsewhere _ rfl rfl
    refine .ite (fun _ => answered _) (fun _ => .ite (fun _ => answered _) (fun _ => ?_))
    exact join_party_good (good.elsewhere _ (by rfl) (by rfl)) sid _

end Parties

end Handlers

end MmorpgSimulator
