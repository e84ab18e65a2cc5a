import MmorpgSimulator.Belongings
import MmorpgSimulator.KillSharing

set_option autoImplicit false

namespace MmorpgSimulator

def dropId : Message → Option UInt16
  | .itemDrop drop => some drop.itemId
  | _ => none

def announcedTo (sent : List (SessionId × Message)) (sid : SessionId) : List UInt16 :=
  sent.filterMap (fun entry => if entry.1 = sid then dropId entry.2 else none)

-- From s the server has come to s' with these inventories and purses, having
-- announced these drops since, and every connection as it was.
structure Becomes (s s' : ServerState) (inventory : SessionId → Inventory) (gold : SessionId → UInt64)
    (drops : SessionId → List UInt16) : Prop where
  inventories : ∀ sid, s'.inventory sid = inventory sid
  golds : ∀ sid, (s'.player sid).gold = gold sid
  announced : ∀ sid, s.line sid = some true → announcedTo s'.sent sid = announcedTo s.sent sid ++ drops sid
  lines : ∀ sid, s'.line sid = s.line sid

def ServerState.gold (s : ServerState) (sid : SessionId) : UInt64 := (s.player sid).gold

theorem announced_append (first second : List (SessionId × Message)) (sid : SessionId) :
    announcedTo (first ++ second) sid = announcedTo first sid ++ announcedTo second sid :=
  List.filterMap_append

theorem announced_nothing (sent : List (SessionId × Message)) (sid : SessionId)
    (silent : ∀ receiver message, (receiver, message) ∈ sent → dropId message = none) : announcedTo sent sid = [] := by
  apply List.filterMap_eq_nil_iff.mpr
  intro entry member
  simp [silent entry.1 entry.2 member]

theorem deliver_line (s : ServerState) (sid : SessionId) (message : Message) :
    s.deliver sid message = if s.line sid = some true then [(sid, message)] else [] := by
  unfold ServerState.deliver ServerState.line
  cases s.sessions[sid]? <;> simp

theorem inventory_set_self (s : ServerState) (sid : SessionId) (inv : Inventory) : (s.setInventory sid inv).inventory sid = inv := by
  simp [ServerState.inventory, ServerState.setInventory]

theorem inventory_set_other (s : ServerState) (sid other : SessionId) (inv : Inventory) (apart : other ≠ sid) :
    (s.setInventory sid inv).inventory other = s.inventory other := by
  simp [ServerState.inventory, ServerState.setInventory, Std.ExtTreeMap.getElem?_insert, Ne.symm apart]

theorem inventory_touch (s : ServerState) (sid other : SessionId) : (s.touchInventory sid).inventory other = s.inventory other := by
  simp only [ServerState.inventory, ServerState.touchInventory, Std.ExtTreeMap.getElem?_insertIfNew]
  split
  · rename_i new
    have absent : s.inventories[other]? = none := by
      rw [← Std.compare_eq_iff_eq.mp new.1]
      exact Std.ExtTreeMap.getElem?_eq_none new.2
    simp [absent]
  · rfl

theorem members_touch (s : ServerState) (touched partyId : UInt32) :
    (s.touchParty touched).party.membersOf partyId = s.party.membersOf partyId := by
  simp only [ServerState.touchParty, PartyState.membersOf, Std.ExtTreeMap.getElem?_insertIfNew]
  split
  · rename_i new
    have absent : s.party.parties[partyId]? = none := by
      rw [← Std.compare_eq_iff_eq.mp new.1]
      exact Std.ExtTreeMap.getElem?_eq_none new.2
    simp [absent]
  · rfl

namespace Becomes

variable {s s' : ServerState} {inventory : SessionId → Inventory} {gold : SessionId → UInt64}
  {drops : SessionId → List UInt16}

theorem start (s : ServerState) : Becomes s s s.inventory s.gold (fun _ => []) :=
  ⟨fun _ => rfl, fun _ => rfl, fun _ _ => (List.append_nil _).symm, fun _ => rfl⟩

theorem same {t : ServerState} (h : Becomes s s' inventory gold drops) (inventories : t.inventories = s'.inventories)
    (sessions : t.sessions = s'.sessions) (sent : t.sent = s'.sent) : Becomes s t inventory gold drops where
  inventories := fun sid => by simpa only [ServerState.inventory, inventories] using h.inventories sid
  golds := fun sid => by simpa only [ServerState.player, sessions] using h.golds sid
  announced := fun sid open_ => by rw [sent, h.announced sid open_]
  lines := fun sid => by simpa only [ServerState.line, sessions] using h.lines sid

theorem executeProc {Row : Type} (h : Becomes s s' inventory gold drops) (proc : Database → Option (Database × Row)) :
    Becomes s (s'.executeProc proc).1 inventory gold drops :=
  h.same rfl rfl rfl

theorem setQuestLog (h : Becomes s s' inventory gold drops) (sid : SessionId) (qp : QuestLog) :
    Becomes s (s'.setQuestLog sid qp) inventory gold drops :=
  h.same rfl rfl rfl

theorem touchQuestLog (h : Becomes s s' inventory gold drops) (sid : SessionId) :
    Becomes s (s'.touchQuestLog sid) inventory gold drops :=
  h.same rfl rfl rfl

theorem touchParty (h : Becomes s s' inventory gold drops) (partyId : UInt32) :
    Becomes s (s'.touchParty partyId) inventory gold drops :=
  h.same rfl rfl rfl

theorem fail (h : Becomes s s' inventory gold drops) (happens : Bool) (reason : Fault) :
    Becomes s (s'.fail happens reason) inventory gold drops :=
  h.same rfl rfl rfl

theorem rolled (h : Becomes s s' inventory gold drops) : Becomes s s'.rolled inventory gold drops :=
  h.same rfl rfl rfl

theorem setNpc (h : Becomes s s' inventory gold drops) (index : Fin maxNpc) (npc : Npc) :
    Becomes s (MmorpgSimulator.setNpc s' index npc) inventory gold drops :=
  h.same rfl rfl rfl

theorem perhaps {t : ServerState} (h : Becomes s s' inventory gold drops) (condition : Prop) [Decidable condition]
    (act : Becomes s t inventory gold drops) : Becomes s (if condition then t else s') inventory gold drops := by
  split
  · exact act
  · exact h

theorem sends {extra : List (SessionId × Message)} (h : Becomes s s' inventory gold drops)
    (silent : ∀ receiver message, (receiver, message) ∈ extra → dropId message = none) :
    Becomes s { s' with sent := s'.sent ++ extra } inventory gold drops where
  inventories := h.inventories
  golds := h.golds
  announced := by
    intro sid open_
    rw [announced_append, announced_nothing extra sid silent, List.append_nil, h.announced sid open_]
  lines := h.lines

theorem send (h : Becomes s s' inventory gold drops) (sid : SessionId) (message : Message) (silent : dropId message = none) :
    Becomes s (s'.send sid message) inventory gold drops := by
  apply h.sends
  intro receiver arrived member
  rw [mem_deliver _ _ _ _ _ member, silent]

theorem sendAll (h : Becomes s s' inventory gold drops) (sid : SessionId) (messages : List Message)
    (silent : ∀ message ∈ messages, dropId message = none) : Becomes s (s'.sendAll sid messages) inventory gold drops := by
  apply h.sends
  intro receiver arrived member
  obtain ⟨message, listed, delivered⟩ := List.mem_flatMap.mp member
  rw [mem_deliver _ _ _ _ _ delivered, silent message listed]

theorem broadcast (h : Becomes s s' inventory gold drops) (message : Message) (silent : dropId message = none) :
    Becomes s (s'.broadcast message) inventory gold drops := by
  apply h.sends
  intro receiver arrived member
  obtain ⟨sid, _, delivered⟩ := List.mem_flatMap.mp member
  rw [mem_deliver _ _ _ _ _ delivered, silent]

theorem sendDrop (h : Becomes s s' inventory gold drops) (sid : SessionId) (drop : ScItemDrop) :
    Becomes s (s'.send sid (.itemDrop drop)) inventory gold (Function.update drops sid (drops sid ++ [drop.itemId])) where
  inventories := h.inventories
  golds := h.golds
  announced := by
    intro other open_
    show announcedTo (s'.sent ++ s'.deliver sid (.itemDrop drop)) other = _
    rw [announced_append, h.announced other open_, deliver_line]
    by_cases same : other = sid
    · subst same
      rw [h.lines other, if_pos open_, Function.update_self]
      simp [announcedTo, dropId]
    · rw [Function.update_of_ne same]
      split <;> simp [announcedTo, Ne.symm same]
  lines := h.lines

theorem setPlayer (h : Becomes s s' inventory gold drops) (sid : SessionId) (player : PlayerData) (here : sid ∈ s.sessions) :
    Becomes s (s'.setPlayer sid player) inventory (Function.update gold sid player.gold) drops where
  inventories := h.inventories
  golds := by
    intro other
    have present : sid ∈ s'.sessions := by rwa [mem_line, h.lines sid, ← mem_line]
    by_cases same : other = sid
    · rw [same, player_set_self s' sid player present, Function.update_self]
    · rw [player_set_other s' sid other player same, Function.update_of_ne same, h.golds other]
  announced := h.announced
  lines := fun other => (line_set_player s' sid other player).trans (h.lines other)

theorem keepGold (h : Becomes s s' inventory gold drops) (sid : SessionId) (player : PlayerData)
    (kept : player.gold = (s'.player sid).gold) : Becomes s (s'.setPlayer sid player) inventory gold drops where
  inventories := h.inventories
  golds := by
    intro other
    by_cases same : other = sid
    · subst same
      by_cases present : other ∈ s'.sessions
      · rw [player_set_self s' other player present, kept, h.golds other]
      · have absent : (s'.setPlayer other player).player other = s'.player other := by
          simp [ServerState.player, ServerState.setPlayer, Std.ExtTreeMap.getElem?_eq_none present]
        rw [absent, h.golds other]
    · rw [player_set_other s' sid other player same, h.golds other]
  announced := h.announced
  lines := fun other => (line_set_player s' sid other player).trans (h.lines other)

theorem setInventory (h : Becomes s s' inventory gold drops) (sid : SessionId) (inv : Inventory) :
    Becomes s (s'.setInventory sid inv) (Function.update inventory sid inv) gold drops where
  inventories := by
    intro other
    by_cases same : other = sid
    · rw [same, inventory_set_self, Function.update_self]
    · rw [inventory_set_other s' sid other inv same, Function.update_of_ne same, h.inventories other]
  golds := h.golds
  announced := h.announced
  lines := h.lines

theorem touchInventory (h : Becomes s s' inventory gold drops) (sid : SessionId) :
    Becomes s (s'.touchInventory sid) inventory gold drops :=
  ⟨fun other => (inventory_touch s' sid other).trans (h.inventories other), h.golds, h.announced, h.lines⟩

theorem checkLevelUp (h : Becomes s s' inventory gold drops) (sid : SessionId) :
    Becomes s (MmorpgSimulator.checkLevelUp s' sid) inventory gold drops := by
  apply (h.keepGold sid (levelled (s'.player sid)) (levelled_gold _)).sendAll
  intro message member
  obtain ⟨levelUp, _, rfl⟩ := List.mem_map.mp member
  rfl

theorem updateQuest (h : Becomes s s' inventory gold drops) (data : GameData) (sid : SessionId) (entry : UInt16 × QuestProgress) :
    Becomes s (MmorpgSimulator.updateQuest data sid s' entry) inventory gold drops := by
  unfold MmorpgSimulator.updateQuest
  split
  · exact ((h.setQuestLog _ _).executeProc _).send _ _ rfl
  · exact h

theorem updateQuestProgress (h : Becomes s s' inventory gold drops) (data : GameData) (sid : SessionId) :
    Becomes s (MmorpgSimulator.updateQuestProgress data s' sid) inventory gold drops :=
  Machine.foldl_keeps (MmorpgSimulator.updateQuest data sid) (fun t => Becomes s t inventory gold drops)
    (fun _ entry before => before.updateQuest data sid entry) _ _ (h.touchQuestLog sid)

theorem respawn (h : Becomes s s' inventory gold drops) : Becomes s (MmorpgSimulator.respawn s') inventory gold drops := by
  unfold MmorpgSimulator.respawn
  split
  · exact h
  · have placed : ∀ npcs uid, Becomes s { s'.rolled.rolled with npcs, nextNpcUid := uid } inventory gold drops :=
      fun _ _ => h.same rfl rfl rfl
    exact (placed _ _).broadcast _ rfl

theorem creditKill (h : Becomes s s' inventory gold drops) (sid : SessionId) (exp reward : UInt32) (here : sid ∈ s.sessions) :
    Becomes s (MmorpgSimulator.creditKill s' sid exp reward) inventory
      (Function.update gold sid (gold sid + reward.toUInt64)) drops := by
  have paid := ((h.setPlayer sid (rewarded (s'.player sid) exp reward) here).send sid (.expUpdate
    { exp := (rewarded (s'.player sid) exp reward).exp.toUInt32, maxExp := (rewarded (s'.player sid) exp reward).maxExp }) rfl).checkLevelUp sid
  have amount : (rewarded (s'.player sid) exp reward).gold = gold sid + reward.toUInt64 := by
    rw [← h.golds sid]
    rfl
  rwa [amount] at paid

end Becomes

end MmorpgSimulator
