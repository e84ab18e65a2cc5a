import MmorpgSimulator.Client
import MmorpgSimulator.Ledger
import MmorpgSimulator.Selections

set_option autoImplicit false

namespace MmorpgSimulator

def inbox (sent : List (SessionId × Message)) (sid : SessionId) : List Message :=
  sent.filterMap (fun entry => if entry.1 = sid then some entry.2 else none)

def shown (clients : SessionId → Client) (s : ServerState) (sid : SessionId) : Client :=
  (inbox s.sent sid).foldl Client.receive (clients sid)

-- The server and the client at the other end of each session, between two steps:
-- nothing is under way.
structure Scene where
  server : ServerState
  clients : SessionId → Client

def sceneStep (data : GameData) (scene : Scene) (input : Input) : Scene :=
  let server := step data { scene.server with sent := [] } input
  ⟨server, shown scene.clients server⟩

section Inboxes

theorem inbox_append (first second : List (SessionId × Message)) (sid : SessionId) :
    inbox (first ++ second) sid = inbox first sid ++ inbox second sid :=
  List.filterMap_append

theorem mem_inbox (sent : List (SessionId × Message)) (sid : SessionId) (message : Message) :
    message ∈ inbox sent sid ↔ (sid, message) ∈ sent := by
  simp [inbox, List.mem_filterMap]

variable (s : ServerState)

theorem inbox_deliver (sid other : SessionId) (message : Message) :
    inbox (s.deliver sid message) other = if other = sid ∧ s.line sid = some true then [message] else [] := by
  rw [deliver_line]
  by_cases open_ : s.line sid = some true
  · rw [if_pos open_]
    by_cases same : other = sid
    · simp [inbox, open_, same]
    · simp [inbox, open_, same, Ne.symm same]
  · simp [inbox, open_]

theorem inbox_deliver_each (receivers : List SessionId) (once : receivers.Nodup) (message : Message) (sid : SessionId) :
    inbox (receivers.flatMap (fun receiver => s.deliver receiver message)) sid =
      if sid ∈ receivers ∧ s.line sid = some true then [message] else [] := by
  induction receivers with
  | nil => simp [inbox]
  | cons first rest ih =>
      obtain ⟨fresh, restOnce⟩ := List.nodup_cons.mp once
      rw [List.flatMap_cons, inbox_append, inbox_deliver, ih restOnce]
      by_cases same : sid = first
      · subst same
        simp [fresh]
      · simp [same]

end Inboxes

section Hush

variable {View : Type} (view : Client → View)

def Hushed (message : Message) : Prop := ∀ client : Client, view (client.receive message) = view client

theorem hushed_fold (messages : List Message) (hushed : ∀ message ∈ messages, Hushed view message) (client : Client) :
    view (messages.foldl Client.receive client) = view client := by
  induction messages generalizing client with
  | nil => rfl
  | cons message rest ih =>
      rw [List.foldl_cons, ih (fun later member => hushed later (List.mem_cons_of_mem message member))]
      exact hushed message List.mem_cons_self client

variable (clients : SessionId → Client) (sid : SessionId)

def Unseen (s t : ServerState) : Prop := view (shown clients t sid) = view (shown clients s sid)

variable {view clients sid} {s t : ServerState}

theorem unseen_same (same : t.sent = s.sent) : Unseen view clients sid s t := by
  rw [Unseen, shown, shown, same]

theorem shown_sends (clients : SessionId → Client) (sid : SessionId) (s t : ServerState) (extra : List (SessionId × Message))
    (sent : t.sent = s.sent ++ extra) : shown clients t sid = (inbox extra sid).foldl Client.receive (shown clients s sid) := by
  rw [shown, shown, sent, inbox_append, List.foldl_append]

theorem unseen_sends (extra : List (SessionId × Message)) (hushed : ∀ message, (sid, message) ∈ extra → Hushed view message)
    (sent : t.sent = s.sent ++ extra) : Unseen view clients sid s t := by
  rw [Unseen, shown_sends clients sid s t extra sent]
  exact hushed_fold view _ (fun message member => hushed message ((mem_inbox extra sid message).mp member)) _

theorem Unseen.trans {u : ServerState} (first : Unseen view clients sid s t) (second : Unseen view clients sid t u) :
    Unseen view clients sid s u :=
  Eq.trans second first

theorem Unseen.send (before : Unseen view clients sid s t) (receiver : SessionId) (message : Message) (hushed : Hushed view message) :
    Unseen view clients sid s (t.send receiver message) :=
  before.trans (unseen_sends _ (fun _ member => mem_deliver t _ _ _ _ member ▸ hushed) rfl)

theorem Unseen.sendAll (before : Unseen view clients sid s t) (receiver : SessionId) (messages : List Message)
    (hushed : ∀ message ∈ messages, Hushed view message) : Unseen view clients sid s (t.sendAll receiver messages) := by
  refine before.trans (unseen_sends _ (fun arrived member => ?_) rfl)
  obtain ⟨message, listed, delivered⟩ := List.mem_flatMap.mp member
  rw [mem_deliver t _ _ _ _ delivered]
  exact hushed message listed

theorem Unseen.broadcast (before : Unseen view clients sid s t) (message : Message) (hushed : Hushed view message) :
    Unseen view clients sid s (t.broadcast message) := by
  refine before.trans (unseen_sends _ (fun arrived member => ?_) rfl)
  obtain ⟨receiver, _, delivered⟩ := List.mem_flatMap.mp member
  exact mem_deliver t _ _ _ _ delivered ▸ hushed

structure Aloof (view : Client → View) : Prop where
  blow : ∀ result, Hushed view (.attackResult result)
  spawn : ∀ npc, Hushed view (.npcSpawn npc)
  drop : ∀ drop, Hushed view (.itemDrop drop)
  progress : ∀ prog, Hushed view (.questProgress prog)

variable (data : GameData) (aloof : Aloof view)
include aloof

theorem update_quest_unseen (owner : SessionId) (s : ServerState) (entry : UInt16 × QuestProgress) :
    Unseen view clients sid s (updateQuest data owner s entry) := by
  rw [updateQuest]
  split
  · exact (unseen_same (by rfl)).send owner _ (aloof.progress _)
  · exact unseen_same rfl

theorem update_quest_progress_unseen (owner : SessionId) (s : ServerState) :
    Unseen view clients sid s (updateQuestProgress data s owner) :=
  Machine.foldl_keeps (updateQuest data owner) (Unseen view clients sid s)
    (fun t entry before => before.trans (update_quest_unseen data aloof owner t entry)) _ _ (unseen_same rfl)

theorem give_item_unseen (owner : SessionId) (itemId : UInt16) (s : ServerState) :
    Unseen view clients sid s (giveItem data s owner itemId) := by
  rw [giveItem]
  simp only
  cases findEmptySlot ((s.touchInventory owner).inventory owner) with
  | none => exact unseen_same rfl
  | some slot =>
      cases data.findItem itemId with
      | none => exact unseen_same rfl
      | some item => exact (unseen_same (by rfl)).send owner _ (aloof.drop _)

omit aloof in
theorem roll_drop_unseen (s : ServerState) : Unseen view clients sid s (rollDrop data s).1 := by
  rw [rollDrop]
  split <;> exact unseen_same rfl

theorem drop_item_unseen (owner : SessionId) (s : ServerState) : Unseen view clients sid s (dropItem data s owner) := by
  rw [dropItem]
  split
  · exact (roll_drop_unseen data s).trans (give_item_unseen data aloof owner _ _)
  · exact roll_drop_unseen data s

theorem respawn_unseen (s : ServerState) : Unseen view clients sid s (respawn s) := by
  rw [respawn]
  split
  · exact unseen_same rfl
  · exact Unseen.broadcast (t := { s.rolled.rolled with npcs := _, nextNpcUid := _ }) (unseen_same rfl) _ (aloof.spawn _)

theorem strike_unseen (owner : SessionId) (index : Fin maxNpc) (s : ServerState) : Unseen view clients sid s (strike s owner index) :=
  Unseen.send (t := setNpc s index (struck (s.player owner) s.npcs[index])) (unseen_same rfl) owner _ (aloof.blow _)

end Hush

end MmorpgSimulator
