import MmorpgSimulator.InventoryViews

set_option autoImplicit false

namespace MmorpgSimulator

def slotNews : Message → List (Nat × ShownSlot)
  | .itemDrop drop => [(drop.slot.toNat, ⟨drop.itemId, strncpyS drop.itemName 31⟩)]
  | .inventoryUpdate upd => [(upd.slot.toNat, ⟨upd.itemId, if upd.itemId ≠ 0 then strncpyS upd.itemName 31 else []⟩)]
  | .inventoryList list => (list.items.take maxInventory).map (fun upd =>
      (upd.slot.toNat, ⟨upd.itemId, if upd.itemId ≠ 0 then strncpyS upd.itemName 31 else []⟩))
  | _ => []

-- A request on its way to the server, with the slots its player saw when it was
-- sent and the messages it meets on the way: those the client had not handled
-- then, and those sent before it is handled.
structure Parcel where
  request : Request
  seen : Vector ShownSlot maxInventory
  crossed : List Message

def shownId (seen : Vector ShownSlot maxInventory) (slot : Nat) : UInt16 := ((seen[slot]?).getD {}).itemId

def Parcel.cross (parcel : Parcel) (messages : List Message) : Parcel := { parcel with crossed := parcel.crossed ++ messages }

-- The last message about the slot that the parcel crosses, if there is one, tells
-- what the player saw.
def Parcel.Undisturbed (parcel : Parcel) (slot : Nat) : Prop :=
  ∀ entry ∈ Patches.last slot (parcel.crossed.flatMap slotNews), entry.itemId = shownId parcel.seen slot

def Request.takesFrom : Request → Option Nat
  | .itemUse req => some req.slot.toNat
  | .shopSell req => some req.slot.toNat
  | _ => none

structure Pipeline where
  server : ServerState
  feed : Feed
  parcels : List Parcel

inductive Move where
  | press (request : Request)
  | serve (rolls : List Nat) (dbPlan : List DbOutcome)
  | deliver
  | elsewhere (input : Input)

namespace Pipeline

variable (data : GameData) (sid : SessionId) (pipeline : Pipeline)

def stepped (input : Input) : ServerState := step data { pipeline.server with sent := [] } input

def handled (parcel : Parcel) (rolls : List Nat) (dbPlan : List DbOutcome) : ServerState :=
  pipeline.stepped data ⟨.packet sid parcel.request, rolls, dbPlan⟩

-- The server has taken a step, and the parcels behind are to meet what it sent.
def advance (server : ServerState) (parcels : List Parcel) : Pipeline :=
  ⟨server, pipeline.feed.hear (inbox server.sent sid), parcels.map (fun parcel => parcel.cross (inbox server.sent sid))⟩

def move : Move → Pipeline
  | .press request => { pipeline with parcels := pipeline.parcels ++ [⟨request, pipeline.feed.client.inventory, pipeline.feed.pending⟩] }
  | .serve rolls dbPlan =>
      match pipeline.parcels with
      | [] => pipeline
      | parcel :: rest => pipeline.advance sid (pipeline.handled data sid parcel rolls dbPlan) rest
  | .deliver => { pipeline with feed := pipeline.feed.receive }
  | .elsewhere input => pipeline.advance sid (pipeline.stepped data input) pipeline.parcels

end Pipeline

def ServerState.tidAt (s : ServerState) (sid : SessionId) (slot : Nat) : UInt16 := ((s.inventory sid).slot slot).itemTid

section Slots

theorem news_shown (messages : List Message) (client : Client) :
    (messages.foldl Client.receive client).inventory = Patches.patch client.inventory (messages.flatMap slotNews) := by
  induction messages generalizing client with
  | nil => rfl
  | cons message rest ih =>
      rw [List.foldl_cons, ih, List.flatMap_cons, Patches.patch_append]
      congr 1
      cases message with
      | itemDrop drop => rfl
      | inventoryUpdate upd => rfl
      | inventoryList list => exact update_fold client _
      | _ => exact hushed_items _ id client

theorem shown_id_in (seen : Vector ShownSlot maxInventory) (slot : Fin maxInventory) : shownId seen slot.val = (getElem seen slot slot.isLt).itemId := by
  simp [shownId]

theorem news_at (messages : List Message) (client : Client) (slot : Fin maxInventory) :
    (getElem (messages.foldl Client.receive client).inventory slot slot.isLt).itemId =
      ((Patches.last slot.val (messages.flatMap slotNews)).map ShownSlot.itemId).getD (getElem client.inventory slot slot.isLt).itemId := by
  rw [news_shown, Patches.patch_last]
  cases Patches.last slot.val (messages.flatMap slotNews) <;> rfl

end Slots

section Runs

variable (data : GameData) (sid : SessionId)

theorem select_shows_held (clients : SessionId → Client) (s : ServerState) (req : CsCharSelect) (row : Int32 × Int64 × Int64) (input : Input)
    (selects : selecting s input = some (sid, req, row)) (unsent : s.sent = []) (open_ : s.line sid = some true) :
    ShowsHeld data ((step data s input).inventory sid) (shown clients (step data s input) sid) := by
  have items : (step data s input).inventory sid = storedItems s.db (input.answer 3) req.charUid :=
    (select_items data s sid req input row selects).1
  intro index held known
  rw [items] at held known ⊢
  rw [select_slots data s sid req row clients input selects unsent open_ index]
  obtain ⟨item, found⟩ := Option.isSome_iff_exists.mp known
  have listed : listedItem data (storedItems s.db (input.answer 3) req.charUid) index = some item := by rw [listedItem, if_neg held, found]
  rw [listedSlot, listed]
  exact (listed_id data _ index item listed).1

theorem step_shows_held (clients : SessionId → Client) (s : ServerState) (input : Input) (indexed : s.party.Indexed) (unsent : s.sent = [])
    (stays : StaysConnected sid input) (open_ : s.line sid = some true) (shows : ShowsHeld data (s.inventory sid) (shown clients s sid)) :
    ShowsHeld data ((step data s input).inventory sid) (shown clients (step data s input) sid) := by
  by_cases selects : ∃ req row, selecting s input = some (sid, req, row)
  · obtain ⟨req, row, selects⟩ := selects
    exact select_shows_held data sid clients s req row input selects unsent open_
  · have unselected (req : CsCharSelect) (row : Int32 × Int64 × Int64) : selecting s input ≠ some (sid, req, row) :=
      fun same => selects ⟨req, row, same⟩
    exact step_keeps_up clients s sid input (held_mirroring data) indexed unsent stays unselected open_ shows

-- The player stays connected; the others do as they like.
def Move.Allowed : Move → Prop
  | .elsewhere input => StaysConnected sid input ∧ ∀ request, input.event ≠ .packet sid request
  | _ => True

-- Everything that is under way taken together, the client shows what is held, and
-- each parcel has met whatever has happened to the slots since it was sent.
structure Abreast (pipeline : Pipeline) : Prop where
  party : PartyInvariant pipeline.server
  open_ : pipeline.server.line sid = some true
  shows : ShowsHeld data (pipeline.server.inventory sid) pipeline.feed.drained
  met : ∀ parcel ∈ pipeline.parcels, ∀ slot : Fin maxInventory, (getElem pipeline.feed.drained.inventory slot slot.isLt).itemId =
    ((Patches.last slot.val (parcel.crossed.flatMap slotNews)).map ShownSlot.itemId).getD (shownId parcel.seen slot)

variable {data sid} {pipeline : Pipeline}

theorem press_abreast (request : Request) (fresh : Abreast data sid pipeline) : Abreast data sid (pipeline.move data sid (.press request)) := by
  refine ⟨fresh.party, fresh.open_, fresh.shows, fun parcel member => ?_⟩
  rcases List.mem_append.mp member with old | new
  · exact fresh.met parcel old
  · obtain rfl := List.mem_singleton.mp new
    intro slot
    rw [shown_id_in, ← news_at]
    rfl

theorem deliver_abreast (fresh : Abreast data sid pipeline) : Abreast data sid (pipeline.move data sid .deliver) := by
  have drained : (pipeline.move data sid .deliver).feed.drained = pipeline.feed.drained := pipeline.feed.drained_receive
  refine ⟨fresh.party, fresh.open_, ?_, ?_⟩
  · rw [drained]
    exact fresh.shows
  · rw [drained]
    exact fresh.met

theorem advance_abreast (input : Input) (stays : StaysConnected sid input) (parcels : List Parcel)
    (left : ∀ parcel ∈ parcels, parcel ∈ pipeline.parcels) (fresh : Abreast data sid pipeline) :
    Abreast data sid (pipeline.advance sid (pipeline.stepped data input) parcels) := by
  let s : ServerState := { pipeline.server with sent := [] }
  have party : PartyInvariant s := ⟨fresh.party.indexed, fresh.party.honest, fresh.party.attended⟩
  have after : ShowsHeld data ((pipeline.stepped data input).inventory sid)
      ((inbox (pipeline.stepped data input).sent sid).foldl Client.receive pipeline.feed.drained) :=
    step_shows_held data sid (fun _ => pipeline.feed.drained) s input fresh.party.indexed rfl stays fresh.open_ fresh.shows
  have drained : (pipeline.advance sid (pipeline.stepped data input) parcels).feed.drained =
      (inbox (pipeline.stepped data input).sent sid).foldl Client.receive pipeline.feed.drained := Feed.drained_hear _ _
  refine ⟨step_party_invariant data s input party, step_line_holds data s sid input fresh.party.indexed stays fresh.open_, ?_, ?_⟩
  · rw [drained]
    exact after
  · intro parcel member slot
    obtain ⟨earlier, listed, rfl⟩ := List.mem_map.mp member
    rw [drained, news_at, fresh.met earlier (left earlier listed) slot, Parcel.cross, List.flatMap_append, Patches.last_append]
    cases Patches.last slot.val ((inbox (pipeline.stepped data input).sent sid).flatMap slotNews) <;> rfl

theorem move_abreast (move : Move) (allowed : move.Allowed sid) (fresh : Abreast data sid pipeline) : Abreast data sid (pipeline.move data sid move) := by
  cases move with
  | press request => exact press_abreast request fresh
  | deliver => exact deliver_abreast fresh
  | elsewhere input => exact advance_abreast input allowed.1 pipeline.parcels (fun _ => id) fresh
  | serve rolls dbPlan =>
      rw [Pipeline.move]
      cases waiting : pipeline.parcels with
      | nil => exact fresh
      | cons parcel rest =>
          have stays : StaysConnected sid ⟨.packet sid parcel.request, rolls, dbPlan⟩ := ⟨by simp, by simp⟩
          exact advance_abreast _ stays rest (fun later member => waiting ▸ List.mem_cons_of_mem _ member) fresh

theorem run_abreast (moves : List Move) (allowed : ∀ move ∈ moves, move.Allowed sid) (fresh : Abreast data sid pipeline) :
    Abreast data sid (Machine.run (Pipeline.move data sid) pipeline moves) := by
  induction moves generalizing pipeline with
  | nil => exact fresh
  | cons move rest ih =>
      exact ih (fun later member => allowed later (List.mem_cons_of_mem _ member)) (move_abreast move (allowed move List.mem_cons_self) fresh)

end Runs

section Requests

variable (data : GameData) (sid : SessionId)

def Relay.pipeline (relay : Relay) : Pipeline := ⟨relay.server, relay.feeds sid, []⟩

def ActsOnShown (pipeline : Pipeline) : Prop :=
  ∀ parcel rest rolls dbPlan slot, pipeline.parcels = parcel :: rest → parcel.request.takesFrom = some slot →
    pipeline.server.tidAt sid slot ≠ 0 → (pipeline.handled data sid parcel rolls dbPlan).tidAt sid slot = 0 →
      shownId parcel.seen slot = pipeline.server.tidAt sid slot

theorem slot_beyond (inv : Inventory) (slot : Nat) (beyond : ¬ slot < maxInventory) : (inv.slot slot).itemTid = 0 := by
  rw [Inventory.slot, Vector.getElem?_eq_none (Nat.le_of_not_lt beyond)]
  rfl

theorem abreast_hits_iff (pipeline : Pipeline) (fresh : Abreast data sid pipeline) (parcel : Parcel) (member : parcel ∈ pipeline.parcels)
    (slot : Nat) (held : pipeline.server.tidAt sid slot ≠ 0) (known : (data.findItem (pipeline.server.tidAt sid slot)).isSome) :
    shownId parcel.seen slot = pipeline.server.tidAt sid slot ↔ parcel.Undisturbed slot := by
  have bound : slot < maxInventory := by
    by_contra beyond
    exact held (slot_beyond _ slot beyond)
  have shows : pipeline.feed.drained.inventory[slot].itemId = pipeline.server.tidAt sid slot := fresh.shows ⟨slot, bound⟩ held known
  have met := fresh.met parcel member ⟨slot, bound⟩
  rw [← shows, Parcel.Undisturbed]
  rw [Fin.getElem_fin] at met
  rw [met]
  cases Patches.last slot (parcel.crossed.flatMap slotNews) with
  | none => simp
  | some entry => simp [eq_comm]

-- From a selection on: requests, deliveries and other sessions in any order. A use
-- or a sale that takes an item away takes the one its player saw if and only if
-- its parcel is undisturbed.
theorem slot_request_hits_iff (db : Database) (draw : Nat → Nat) (before : List Turn) (input : Input) (req : CsCharSelect)
    (row : Int32 × Int64 × Int64) (moves : List Move) :
    let early := Machine.run (relayStep data) (Relay.boot db draw) before
    let begun := relayStep data early (.serve input)
    let pipeline := Machine.run (Pipeline.move data sid) (begun.pipeline sid) moves
    selecting early.server input = some (sid, req, row) → early.server.line sid = some true → (∀ move ∈ moves, move.Allowed sid) →
      ∀ parcel rest rolls dbPlan slot, pipeline.parcels = parcel :: rest → parcel.request.takesFrom = some slot →
        (data.findItem (pipeline.server.tidAt sid slot)).isSome → pipeline.server.tidAt sid slot ≠ 0 →
          (pipeline.handled data sid parcel rolls dbPlan).tidAt sid slot = 0 →
            (shownId parcel.seen slot = pipeline.server.tidAt sid slot ↔ parcel.Undisturbed slot) := by
  intro early begun pipeline selects open_ allowed parcel rest rolls dbPlan slot waiting takes known held gone
  let s : ServerState := { early.server with sent := [] }
  have party : PartyInvariant early.server := relay_party data db draw before
  have tidy : PartyInvariant s := ⟨party.indexed, party.honest, party.attended⟩
  have stays : StaysConnected sid input := by
    have asks := selecting_session s sid req input row selects
    exact ⟨by simp [asks], by simp [asks]⟩
  have shows := select_shows_held data sid (seat {} early.drained.clients (newcomer early.server input)) s req row input selects rfl open_
  have drained : (begun.pipeline sid).feed.drained = (stageStep data early.drained input).clients sid := serve_drained data early input sid
  have start : Abreast data sid (begun.pipeline sid) :=
    ⟨step_party_invariant data s input tidy, step_line_holds data s sid input party.indexed stays open_, drained ▸ shows,
      fun _ member => absurd member List.not_mem_nil⟩
  have reached := run_abreast moves allowed start
  exact abreast_hits_iff data sid pipeline reached parcel (waiting ▸ List.mem_cons_self) slot held known

end Requests

-- Two free weapons. One is worn, the other lies in slot 0 when the player asks to
-- wear it and, without waiting for the answer, to sell what slot 0 shows.
def bladesData : GameData := { arenaData with items := arenaData.items ++ [{ id := 2, name := [68], type := weaponType, atk := 3 }] }

def bladesRoom : Relay :=
  relayStep bladesData (Machine.run (relayStep bladesData) (Relay.boot twoCharacters (fun _ => 0)) armoury) (.serve ⟨.packet 1 (.charSelect ⟨1⟩), [], []⟩)

def twoBlades : List Move :=
  [.press (.shopBuy ⟨1⟩), .serve [] [], .press (.itemEquip ⟨0⟩), .serve [] [], .press (.shopBuy ⟨2⟩), .serve [] []] ++
    List.replicate 20 .deliver

def hastySale : List Move := twoBlades ++ [.press (.itemEquip ⟨0⟩), .press (.shopSell ⟨0⟩), .serve [] []]

def patientSale : List Move := twoBlades ++ [.press (.shopSell ⟨0⟩)]

def nextTaken (pipeline : Pipeline) : Option (Option Nat × UInt16 × UInt16 × UInt16) :=
  pipeline.parcels.head?.map (fun parcel => (parcel.request.takesFrom, shownId parcel.seen 0, pipeline.server.tidAt 1 0,
    (pipeline.handled bladesData 1 parcel [] []).tidAt 1 0))

theorem next_taken (pipeline : Pipeline) (seen held left : UInt16) (next : nextTaken pipeline = some (some 0, seen, held, left)) :
    ∃ parcel rest, pipeline.parcels = parcel :: rest ∧ parcel.request.takesFrom = some 0 ∧ shownId parcel.seen 0 = seen ∧
      pipeline.server.tidAt 1 0 = held ∧ (pipeline.handled bladesData 1 parcel [] []).tidAt 1 0 = left := by
  obtain ⟨parcel, first, same⟩ := Option.map_eq_some_iff.mp next
  simp only [Prod.mk.injEq] at same
  obtain ⟨takes, seen, held, left⟩ := same
  obtain ⟨rest, waiting⟩ := List.head?_eq_some_iff.mp first
  exact ⟨parcel, rest, waiting, takes, seen, held, left⟩

theorem hasty_sale_takes_other : ¬ ActsOnShown bladesData 1 (Machine.run (Pipeline.move bladesData 1) (bladesRoom.pipeline 1) hastySale) := by
  have next : nextTaken (Machine.run (Pipeline.move bladesData 1) (bladesRoom.pipeline 1) hastySale) = some (some 0, 2, 1, 0) := by
    decide +kernel
  obtain ⟨parcel, rest, waiting, takes, seen, held, left⟩ := next_taken _ 2 1 0 next
  intro acts
  have same := acts parcel rest [] [] 0 waiting takes (by rw [held]; decide) left
  rw [seen, held] at same
  exact absurd same (by decide)

theorem patient_sale_takes_shown :
    let pipeline := Machine.run (Pipeline.move bladesData 1) (bladesRoom.pipeline 1) patientSale
    ∃ parcel rest, pipeline.parcels = parcel :: rest ∧
      (shownId parcel.seen 0 = pipeline.server.tidAt 1 0 ↔ parcel.Undisturbed 0) ∧ shownId parcel.seen 0 = pipeline.server.tidAt 1 0 := by
  intro pipeline
  have next : nextTaken pipeline = some (some 0, 2, 2, 0) := by decide +kernel
  obtain ⟨parcel, rest, waiting, takes, seen, held, left⟩ := next_taken pipeline 2 2 0 next
  have allowed : ∀ move ∈ patientSale, move.Allowed 1 := by
    intro move member
    simp only [patientSale, twoBlades, List.mem_append, List.mem_cons, List.mem_replicate, List.not_mem_nil, or_false] at member
    rcases member with (((rfl | rfl | rfl | rfl | rfl | rfl) | ⟨_, rfl⟩) | rfl) <;> simp [Move.Allowed]
  have law := slot_request_hits_iff bladesData 1 twoCharacters (fun _ => 0) armoury ⟨.packet 1 (.charSelect ⟨1⟩), [], []⟩ ⟨1⟩ (1, 0, 0)
    patientSale (by decide +kernel) (by decide +kernel) allowed parcel rest [] [] 0 waiting takes
    (by change (bladesData.findItem (pipeline.server.tidAt 1 0)).isSome; rw [held]; decide) (by change pipeline.server.tidAt 1 0 ≠ 0; rw [held]; decide)
    left
  exact ⟨parcel, rest, waiting, law, seen.trans held.symm⟩

end MmorpgSimulator
