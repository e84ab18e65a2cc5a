import MmorpgSimulator.Wire
import MmorpgSimulator.Structs
import MmorpgSimulator.FrameConfinement
import MmorpgSimulator.Segmentation

set_option autoImplicit false

namespace MmorpgSimulator

-- A client, its connection and the session at the other end: the bytes under way in
-- either direction and the two receiving buffers.
structure Cable where
  client : Client := {}
  up : Bytes := []
  recv : RecvBuffer := .empty
  down : Bytes := []
  recvBuffer : Bytes := []

-- The whole program at the level of its sockets. Beside it stands all the server has
-- ever sent, and how often it has handed out a party id.
structure Plant where
  server : ServerState
  cables : SessionId → Cable
  said : List (SessionId × Message) := []
  founded : Nat := 0

structure TypedKey where
  key : Key
  fits : ∀ client request, (Client.press client key).2 = some request → request.Fits

namespace Cable

variable (cable : Cable)

def press (key : Key) : Cable :=
  { cable with
    client := (cable.client.press key).1
    up := cable.up ++ wire ((cable.client.press key).2.toList.map Request.posted) }

def hear (messages : List Message) : Cable := { cable with down := cable.down ++ wire (messages.map Message.posted) }

end Cable

namespace Plant

variable (data : GameData) (plant : Plant)

def setCable (sid : SessionId) (cable : Cable) : Plant := { plant with cables := Function.update plant.cables sid cable }

def spread (server : ServerState) : Plant :=
  { server
    cables := fun sid => (plant.cables sid).hear (inbox server.sent sid)
    said := plant.said ++ server.sent
    founded := plant.founded + if server.party.nextPartyId = plant.server.party.nextPartyId then 0 else 1 }

def handled (input : Input) : Plant := plant.spread (step data { plant.server with sent := [] } input)

-- packetCallback_, in a process that may have died at an earlier packet.
def callback (sid : SessionId) (packet : Packet) (rolls : List Nat) (dbPlan : List DbOutcome) : Plant :=
  if plant.server.fault.isSome then plant
  else if sid ∈ plant.server.sessions then
    plant.spread (dispatch data { plant.server with sent := [], rolls, dbPlan } sid packet)
  else plant.spread { plant.server with sent := [], rolls, dbPlan }

end Plant

inductive Callbacks (data : GameData) (sid : SessionId) : Plant → List Packet → Plant → Prop where
  | nil (plant : Plant) : Callbacks data sid plant [] plant
  | cons (plant after : Plant) (packet : Packet) (packets : List Packet) (rolls : List Nat) (dbPlan : List DbOutcome)
      (more : Callbacks data sid (plant.callback data sid packet rolls dbPlan) packets after) :
      Callbacks data sid plant (packet :: packets) after

-- The server reads whatever number of bytes its async_read_some comes back with, the
-- client whatever its recv does.
inductive PlantStep (data : GameData) : Plant → Plant → Prop where
  | connect (plant : Plant) (alive : plant.server.fault = none) (free : plant.server.nextSessionId ∉ plant.server.sessions) :
      PlantStep data plant ((plant.handled data ⟨.accept, [], []⟩).setCable plant.server.nextSessionId {})
  | press (plant : Plant) (sid : SessionId) (typed : TypedKey) (here : sid ∈ plant.server.sessions) :
      PlantStep data plant (plant.setCable sid ((plant.cables sid).press typed.key))
  | read (plant after : Plant) (sid : SessionId) (chunk later : Bytes) (packets : List Packet) (left : RecvBuffer)
      (alive : plant.server.fault = none) (pending : (plant.cables sid).up = chunk ++ later)
      (room : (plant.cables sid).recv.recvSize + chunk.length ≤ maxRecvBufferSize)
      (processed : ProcessBuffer ((plant.cables sid).recv.received chunk room) packets left)
      (called : Callbacks data sid (plant.setCable sid { plant.cables sid with up := later, recv := left }) packets after) :
      PlantStep data plant after
  | receive (plant : Plant) (sid : SessionId) (chunk later : Bytes) (packets : List Packet) (left : Bytes)
      (pending : (plant.cables sid).down = chunk ++ later) (small : chunk.length ≤ maxPacketSize)
      (processed : ProcessPackets ((plant.cables sid).recvBuffer ++ chunk) packets left) :
      PlantStep data plant (plant.setCable sid
        { plant.cables sid with client := packets.foldl Client.take (plant.cables sid).client, down := later, recvBuffer := left })
  | disconnect (plant : Plant) (sid : SessionId) (alive : plant.server.fault = none) (here : sid ∈ plant.server.sessions) :
      PlantStep data plant ((plant.handled data ⟨.disconnect sid, [], []⟩).setCable sid {})

def Plant.boot (db : Database) (draw : Nat → Nat) : Plant := { server := MmorpgSimulator.boot db draw, cables := fun _ => {} }

section Wires

theorem wire_append (first second : List Posted) : wire (first ++ second) = wire first ++ wire second := by
  rw [wire, List.map_append, List.flatten_append]
  rfl

theorem extracts_wire_front (messages : List Posted) (fit : ∀ message ∈ messages, message.Fits) (content later left : Bytes)
    (frames : List Bytes) (stream : content ++ later = wire messages)
    (extracted : Framing.Extracts packetFormat content frames left) :
    ∃ first second, messages = first ++ second ∧ frames = first.map Posted.frame ∧ left ++ later = wire second := by
  have whole := wire_extracts messages fit
  rw [← stream] at whole
  obtain ⟨others, split, rest⟩ := Framing.extracts_resume packetFormat content later _ frames left [] extracted whole
  obtain ⟨first, second, rfl, cut, more⟩ := List.map_eq_append_iff.mp split
  refine ⟨first, second, rfl, cut.symm, ?_⟩
  rw [Framing.extracts_splits packetFormat _ others [] rest, List.append_nil, ← more]
  rfl

theorem front_extracts (messages : List Posted) (fit : ∀ message ∈ messages, message.Fits) (content later : Bytes)
    (stream : content ++ later = wire messages) : ∃ frames left, Framing.Extracts packetFormat content frames left :=
  Framing.extracts_of_initial packetFormat (wire messages) _ [] (wire_extracts messages fit) content ⟨later, stream⟩

end Wires

section Packets

variable (packet : Packet)

theorem packet_memory (posted : Posted) (same : packet.posted = posted) :
    packet.type = posted.type ∧ ∃ rest, packet.memory = posted.payload ++ rest := by
  refine ⟨congrArg Posted.type same, packet.memory.drop (packet.length - headerSize), ?_⟩
  rw [← congrArg Posted.payload same]
  exact (List.take_append_drop _ _).symm

def Packet.message (packet : Packet) : Option Message := (clientHandlerFor packet.type).bind (decodeMessage packet.memory)

def Packet.request (packet : Packet) : Option Request := (handlerFor packet.type).bind (decodeRequest packet.memory)

theorem packet_message (message : Message) (fits : message.Fits) (same : packet.posted = message.posted) :
    packet.message = some message := by
  obtain ⟨type, rest, memory⟩ := packet_memory packet message.posted same
  rw [Packet.message, type, memory]
  simp only [Message.posted]
  rw [client_handler_for_code message.type (message_type_known message), Option.bind_some, decode_message message rest fits]

theorem packet_request (request : Request) (fits : request.Fits) (same : packet.posted = request.posted) :
    packet.request = some request := by
  obtain ⟨type, rest, memory⟩ := packet_memory packet request.posted same
  rw [Packet.request, type, memory]
  simp only [Request.posted]
  rw [handler_for_code request.type (request_type_known request), Option.bind_some, decode_request request rest fits]

theorem client_takes (client : Client) (message : Message) (fits : message.Fits) (reads : Reads packet message.posted.frame) :
    client.take packet = client.receive message := by
  have decoded := packet_message packet message fits (reads_posted packet message.posted reads)
  rw [Packet.message] at decoded
  rw [Client.take, decoded]

theorem dispatch_request (data : GameData) (s : ServerState) (sid : SessionId) (request : Request) (fits : request.Fits)
    (reads : Reads packet request.posted.frame) : dispatch data s sid packet = handle data s sid request := by
  have decoded := packet_request packet request fits (reads_posted packet request.posted reads)
  rw [Packet.request] at decoded
  rw [dispatch, handlePacket, decoded]

theorem reads_each (packets : List Packet) (frames : List Bytes) (reads : List.Forall₂ Reads packets frames) :
    ∀ packet ∈ packets, ∃ frame ∈ frames, Reads packet frame := by
  induction reads with
  | nil => exact nofun
  | cons first _ ih =>
      intro packet member
      rcases List.mem_cons.mp member with rfl | later
      · exact ⟨_, List.mem_cons_self, first⟩
      · obtain ⟨frame, listed, reads⟩ := ih packet later
        exact ⟨frame, List.mem_cons_of_mem _ listed, reads⟩

theorem client_takes_all (packets : List Packet) (messages : List Message) (fit : ∀ message ∈ messages, message.Fits)
    (reads : List.Forall₂ Reads packets (messages.map (fun message => message.posted.frame))) (client : Client) :
    packets.foldl Client.take client = messages.foldl Client.receive client := by
  induction messages generalizing packets client with
  | nil =>
      cases reads with
      | nil => rfl
  | cons message messages ih =>
      cases reads with
      | cons first others =>
          rw [List.foldl_cons, List.foldl_cons, client_takes _ client message (fit message List.mem_cons_self) first]
          exact ih _ (fun other member => fit other (List.mem_cons_of_mem message member)) others _

theorem decoded_all {Value : Type} (decode : Packet → Option Value) (posted : Value → Posted) (Fits : Value → Prop)
    (back : ∀ packet value, Fits value → Packet.posted packet = posted value → decode packet = some value) (packets : List Packet)
    (values : List Value) (fit : ∀ value ∈ values, Fits value) (same : packets.map Packet.posted = values.map posted) :
    packets.map decode = values.map some := by
  induction packets generalizing values with
  | nil => rw [List.map_eq_nil_iff.mp same.symm, List.map_nil, List.map_nil]
  | cons packet packets ih =>
      cases values with
      | nil => cases same
      | cons value values =>
          rw [List.map_cons, List.map_cons, List.cons.injEq] at same
          rw [List.map_cons, List.map_cons, back packet value (fit value List.mem_cons_self) same.1,
            ih values (fun other member => fit other (List.mem_cons_of_mem value member)) same.2]

-- Every struct comes out of the bytes as it went in, wherever the stream is cut.
theorem structs_round_trip (messages : List Message) (requests : List Request) (chunks : List Bytes)
    (messagesFit : ∀ message ∈ messages, message.Fits) (requestsFit : ∀ request ∈ requests, request.Fits) :
    (chunks.flatten = wire (messages.map Message.posted) →
      ∀ packets left, RecvLoop [] chunks packets left → packets.map Packet.message = messages.map some ∧ left = []) ∧
    (chunks.flatten = wire (requests.map Request.posted) →
      ∀ packets left, DoRead RecvBuffer.empty chunks packets left →
        packets.map Packet.request = requests.map some ∧ left.recvSize = 0) := by
  constructor
  · intro cut packets left reading
    have small : ∀ posted ∈ messages.map Message.posted, posted.Fits := by
      intro posted member
      obtain ⟨message, _, rfl⟩ := List.mem_map.mp member
      exact message_posted_fits message
    obtain ⟨same, drained⟩ := recv_loop_wire _ small chunks cut packets left reading
    exact ⟨decoded_all Packet.message Message.posted Message.Fits packet_message packets messages messagesFit same, drained⟩
  · intro cut packets left reading
    have small : ∀ posted ∈ requests.map Request.posted, posted.Fits := by
      intro posted member
      obtain ⟨request, _, rfl⟩ := List.mem_map.mp member
      exact request_posted_fits request
    obtain ⟨same, drained⟩ := do_read_wire _ small chunks cut packets left reading
    exact ⟨decoded_all Packet.request Request.posted Request.Fits packet_request packets requests requestsFit same, drained⟩

theorem purchase_round_trip :
    ∃ packets left, DoRead RecvBuffer.empty [[6, 0, 3], [8, 7, 0]] packets left ∧
      packets.map Packet.request = [some (.shopBuy ⟨7⟩)] ∧ left.recvSize = 0 := by
  have cut : [[6, 0, 3], [8, 7, 0]].flatten = wire ([Request.shopBuy ⟨7⟩].map Request.posted) := by decide
  have fed := wire_feeds ([Request.shopBuy ⟨7⟩].map Request.posted) (by decide) _ cut
  obtain ⟨packets, left, reading⟩ := feeds_do_read _ _ _ _ fed RecvBuffer.empty rfl (chunks_fit_of_total _ _ (by decide))
  refine ⟨packets, left, reading, (structs_round_trip [] [.shopBuy ⟨7⟩] _ (by simp) ?_).2 cut packets left reading⟩
  intro request member
  rw [List.mem_singleton.mp member]
  trivial

end Packets

-- A cable that holds the messages of a link as bytes. Packets in hand have left the
-- receiving buffer and not yet the queue; of a dead server's input nothing is said.
structure Carries (alive : Prop) (inHand : Nat) (cable : Cable) (link : Link) : Prop where
  client : cable.client = link.client
  up : alive → cable.recv.content ++ cable.up = wire ((link.up.drop inHand).map (fun entry => entry.1.posted))
  asked : ∀ entry ∈ link.up, entry.1.Fits
  down : cable.recvBuffer ++ cable.down = wire (link.down.map (fun entry => entry.2.posted))
  told : ∀ entry ∈ link.down, entry.2.Fits

section Carrying

variable (alive : Prop) (inHand : Nat) (cable : Cable) (link : Link)

theorem carries_fresh : Carries alive 0 {} {} := ⟨rfl, fun _ => rfl, nofun, rfl, nofun⟩

theorem carries_weaken (weaker : Prop) (still : weaker → alive) (carries : Carries alive inHand cable link) :
    Carries weaker inHand cable link :=
  ⟨carries.client, fun holds => carries.up (still holds), carries.asked, carries.down, carries.told⟩

theorem carries_dead (others : Nat) (carries : Carries alive inHand cable link) : Carries False others cable link :=
  ⟨carries.client, False.elim, carries.asked, carries.down, carries.told⟩

theorem carries_hear (cause : SessionId) (messages : List Message) (fit : ∀ message ∈ messages, message.Fits)
    (carries : Carries alive inHand cable link) : Carries alive inHand (cable.hear messages) (link.hear cause messages) where
  client := carries.client
  up := carries.up
  asked := carries.asked
  down := by
    rw [Cable.hear, Link.hear, ← List.append_assoc, carries.down, List.map_append, wire_append, List.map_map]
    rfl
  told := by
    intro entry member
    rcases List.mem_append.mp member with before | heard
    · exact carries.told entry before
    · obtain ⟨message, said, rfl⟩ := List.mem_map.mp heard
      exact fit message said

theorem carries_press (typed : TypedKey) (carries : Carries alive 0 cable link) :
    Carries alive 0 (cable.press typed.key) (link.press typed.key) where
  client := by rw [Cable.press, Link.press, carries.client]
  up := by
    intro holds
    have before := carries.up holds
    rw [List.drop_zero] at before
    rw [Cable.press, Link.press, List.drop_zero, List.map_append, wire_append, ← before, carries.client, List.append_assoc, List.map_map]
    rfl
  asked := by
    intro entry member
    rcases List.mem_append.mp member with before | pressed
    · exact carries.asked entry before
    · obtain ⟨request, asked, rfl⟩ := List.mem_map.mp pressed
      exact typed.fits link.client request (Option.mem_toList.mp asked)
  down := carries.down
  told := carries.told

theorem carries_popped (entry : Request × Option SessionId) (rest : List (Request × Option SessionId)) (front : link.up = entry :: rest)
    (carries : Carries alive (inHand + 1) cable link) : Carries alive inHand cable { link with up := rest } where
  client := carries.client
  up := by
    intro holds
    rw [carries.up holds, front, List.drop_succ_cons]
  asked := fun other member => carries.asked other (front ▸ List.mem_cons_of_mem entry member)
  down := carries.down
  told := carries.told

end Carrying

structure Same (inHand : SessionId → Nat) (plant : Plant) (net : Net) : Prop where
  server : plant.server = net.server
  cables : ∀ sid, Carries (plant.server.fault = none) (inHand sid) (plant.cables sid) (net.links sid)

def Plant.Fits (plant : Plant) : Prop := ∀ post ∈ plant.said, post.2.Fits

section Levels

variable (data : GameData) (plant after : Plant) (net : Net)

theorem inbox_fits (sent : List (SessionId × Message)) (fits : ∀ post ∈ sent, post.2.Fits) (sid : SessionId) :
    ∀ message ∈ inbox sent sid, message.Fits :=
  fun message member => fits (sid, message) ((mem_inbox sent sid message).mp member)

theorem same_spread (inHand : SessionId → Nat) (cause : SessionId) (server : ServerState) (fits : (plant.spread server).Fits)
    (cables : ∀ sid, Carries True (inHand sid) (plant.cables sid) (net.links sid)) :
    Same inHand (plant.spread server) ⟨server, fun sid => (net.links sid).hear cause (inbox server.sent sid)⟩ where
  server := rfl
  cables := by
    intro sid
    have fit := inbox_fits server.sent (fun post member => fits post (List.mem_append_right _ member)) sid
    exact carries_weaken True _ _ _ _ (fun _ => trivial) (carries_hear True _ _ _ cause _ fit (cables sid))

theorem same_cables (inHand : SessionId → Nat) (alive : plant.server.fault = none) (same : Same inHand plant net) (sid : SessionId) :
    Carries True (inHand sid) (plant.cables sid) (net.links sid) :=
  carries_weaken _ _ _ _ True (fun _ => alive) (same.cables sid)

theorem same_set (inHand : SessionId → Nat) (sid : SessionId) (cable : Cable) (link : Link) (same : Same inHand plant net)
    (carries : Carries (plant.server.fault = none) (inHand sid) cable link) :
    Same inHand (plant.setCable sid cable) (net.setLink sid link) where
  server := same.server
  cables := by
    intro other
    rw [Plant.setCable, Net.setLink]
    by_cases here : other = sid
    · subst here
      simp only [Function.update_self]
      exact carries
    · simp only [Function.update_of_ne here]
      exact same.cables other

theorem callbacks_dead (sid : SessionId) (packets : List Packet) (dead : plant.server.fault.isSome = true)
    (called : Callbacks data sid plant packets after) : after = plant := by
  induction called with
  | nil plant => rfl
  | cons plant after packet packets rolls dbPlan _ ih =>
      have stands : plant.callback data sid packet rolls dbPlan = plant := by rw [Plant.callback, if_pos dead]
      rw [stands] at ih
      exact ih dead

theorem callback_said (sid : SessionId) (packet : Packet) (rolls : List Nat) (dbPlan : List DbOutcome) :
    plant.said ⊆ (plant.callback data sid packet rolls dbPlan).said := by
  rw [Plant.callback]
  split
  · exact List.Subset.refl _
  · split <;> exact List.subset_append_left _ _

theorem callbacks_said (sid : SessionId) (packets : List Packet) (called : Callbacks data sid plant packets after) :
    plant.said ⊆ after.said := by
  induction called with
  | nil plant => exact List.Subset.refl _
  | cons plant after packet packets rolls dbPlan _ ih =>
      exact List.Subset.trans (callback_said data plant sid packet rolls dbPlan) ih

theorem plant_step_said (moves : PlantStep data plant after) : plant.said ⊆ after.said := by
  cases moves with
  | connect => exact List.subset_append_left _ _
  | press => exact List.Subset.refl _
  | read after sid chunk later packets left alive pending room processed called => exact callbacks_said data (plant.setCable sid _) after sid packets called
  | receive => exact List.Subset.refl _
  | disconnect => exact List.subset_append_left _ _

theorem plant_fits_before (moves : PlantStep data plant after) (fits : after.Fits) : plant.Fits :=
  fun post member => fits post (plant_step_said data plant after moves member)

theorem callback_same (sid : SessionId) (packet : Packet) (rolls : List Nat) (dbPlan : List DbOutcome) (left : Nat)
    (entry : Request × Option SessionId) (rest : List (Request × Option SessionId)) (alive : plant.server.fault = none)
    (same : Same (fun other => if other = sid then left + 1 else 0) plant net) (front : (net.links sid).up = entry :: rest)
    (reads : Reads packet entry.1.posted.frame) (fits : (plant.callback data sid packet rolls dbPlan).Fits) :
    Same (fun other => if other = sid then left else 0) (plant.callback data sid packet rolls dbPlan)
        (netStep data net (.serve sid rolls dbPlan)) ∧
      ((netStep data net (.serve sid rolls dbPlan)).links sid).up = rest := by
  have asked : entry.1.Fits := (same.cables sid).asked entry (front ▸ List.mem_cons_self)
  have breathes : net.server.fault = none := same.server ▸ alive
  have popped (other : SessionId) : Carries True (if other = sid then left else 0) (plant.cables other)
      ((net.setLink sid { net.links sid with up := rest }).links other) := by
    have carries := same_cables plant net _ alive same other
    by_cases here : other = sid
    · subst here
      rw [set_link_self, if_pos rfl]
      rw [if_pos rfl] at carries
      exact carries_popped True left _ _ entry rest front carries
    · rw [set_link_other _ _ _ _ here, if_neg here]
      rwa [if_neg here] at carries
  have stepped : plant.callback data sid packet rolls dbPlan =
      plant.spread (step data net.unsent ⟨.packet sid entry.1, rolls, dbPlan⟩) := by
    have quiet : net.unsent.fault = none := breathes
    rw [Plant.callback, if_neg (by simp [alive]), step_alive data net.unsent _ quiet, same.server]
    by_cases here : sid ∈ net.server.sessions
    · rw [if_pos here, dispatch_request packet data _ sid entry.1 asked reads,
        handle_event_here data (facing net.unsent _) sid entry.1 here]
      rfl
    · rw [if_neg here, handle_event_absent data (facing net.unsent _) sid entry.1 here]
      rfl
  have served : netStep data net (.serve sid rolls dbPlan) =
      (net.setLink sid { net.links sid with up := rest }).handled data sid ⟨.packet sid entry.1, rolls, dbPlan⟩ := by
    simp only [netStep, breathes, Option.isSome_none, Bool.false_eq_true, if_false, front]
  rw [stepped, served]
  rw [stepped] at fits
  refine ⟨same_spread plant _ _ sid _ fits popped, ?_⟩
  change ((net.setLink sid { net.links sid with up := rest }).links sid).up = rest
  rw [set_link_self]

theorem callbacks_same (sid : SessionId) (packets : List Packet) (called : Callbacks data sid plant packets after)
    (first second : List (Request × Option SessionId)) (net : Net)
    (same : Same (fun other => if other = sid then first.length else 0) plant net) (queued : (net.links sid).up = first ++ second)
    (reads : List.Forall₂ Reads packets (first.map (fun entry => entry.1.posted.frame))) (fits : after.Fits) :
    ∃ actions, Same (fun _ => 0) after (Machine.run (netStep data) net actions) := by
  induction called generalizing first net with
  | nil plant =>
      cases first with
      | cons entry first => cases reads
      | nil => exact ⟨[], by simpa using same⟩
  | cons plant after packet packets rolls dbPlan more ih =>
      cases first with
      | nil => cases reads
      | cons entry first =>
          cases reads with
          | cons now later =>
              cases alive : plant.server.fault with
              | some fault =>
                  have stays : after = plant := callbacks_dead data plant after sid (packet :: packets) (by rw [alive]; rfl)
                    (.cons plant after packet packets rolls dbPlan more)
                  subst stays
                  refine ⟨[], same.server, fun other => ?_⟩
                  exact carries_weaken False _ _ _ _ (by simp [alive]) (carries_dead _ _ _ _ 0 (same.cables other))
              | none =>
                  have before : (plant.callback data sid packet rolls dbPlan).Fits :=
                    fun post member => fits post (callbacks_said data _ after sid packets more member)
                  obtain ⟨next, behind⟩ := callback_same data plant net sid packet rolls dbPlan first.length entry (first ++ second) alive
                    same queued now before
                  obtain ⟨actions, reached⟩ := ih first _ next behind later fits
                  exact ⟨.serve sid rolls dbPlan :: actions, reached⟩

theorem receive_each (sid : SessionId) (first second : List (SessionId × Message)) (waiting : (net.links sid).down = first ++ second) :
    ∃ link : Link, Machine.run (netStep data) net (List.replicate first.length (.receive sid)) = net.setLink sid link ∧
      link.client = (first.map Prod.snd).foldl Client.receive (net.links sid).client ∧ link.down = second ∧
      link.up = (net.links sid).up := by
  induction first generalizing net with
  | nil =>
      refine ⟨net.links sid, ?_, rfl, waiting, rfl⟩
      rw [List.length_nil, List.replicate_zero, Machine.run_nil, Net.setLink, Function.update_eq_self]
  | cons entry first ih =>
      have arrived : (net.links sid).receive.down = first ++ second := by rw [Link.receive, waiting]; rfl
      have self : (net.setLink sid (net.links sid).receive).links sid = (net.links sid).receive := set_link_self net sid _
      obtain ⟨link, ran, client, down, up⟩ := ih (net.setLink sid (net.links sid).receive) (by rw [self, arrived])
      refine ⟨link, ?_, ?_, down, ?_⟩
      · rw [List.length_cons, List.replicate_succ, Machine.run_cons]
        refine Eq.trans ran ?_
        rw [Net.setLink, Net.setLink, Function.update_idem]
        rfl
      · rw [client, self, Link.receive, waiting]
        rfl
      · rw [up, self, Link.receive_up]

theorem handled_same (cause : SessionId) (input : Input) (alive : plant.server.fault = none) (same : Same (fun _ => 0) plant net)
    (fits : (plant.handled data input).Fits) : Same (fun _ => 0) (plant.handled data input) (net.handled data cause input) := by
  have spread := same_spread plant net _ cause _ fits (same_cables plant net _ alive same)
  unfold Net.handled Net.unsent
  rw [← same.server]
  exact spread

theorem plant_step_same (moves : PlantStep data plant after) (same : Same (fun _ => 0) plant net) (fits : after.Fits) :
    ∃ actions, Same (fun _ => 0) after (Machine.run (netStep data) net actions) := by
  cases moves with
  | connect alive free =>
      refine ⟨[.connect], ?_⟩
      have handled := handled_same data plant net net.server.nextSessionId _ alive same fits
      have let_in : netStep data net .connect =
          (net.handled data net.server.nextSessionId ⟨.accept, [], []⟩).setLink net.server.nextSessionId {} := by
        rw [same.server] at alive free
        simp only [netStep, alive, Option.isSome_none, Bool.false_eq_true, free, or_self, if_false]
      rw [Machine.run_cons, Machine.run_nil, let_in, same.server]
      exact same_set _ _ _ net.server.nextSessionId {} {} handled (carries_fresh _)
  | press sid typed here =>
      refine ⟨[.press sid typed.key], ?_⟩
      have pressed : netStep data net (.press sid typed.key) = net.setLink sid ((net.links sid).press typed.key) :=
        if_pos (same.server ▸ here)
      rw [Machine.run_cons, Machine.run_nil, pressed]
      exact same_set plant net _ sid _ _ same (carries_press _ _ _ typed (same.cables sid))
  | read after sid chunk later packets left alive pending room processed called =>
      obtain ⟨frames, extracted, reads⟩ := process_buffer_extracts _ left packets processed
      rw [content_received] at extracted
      have carries := same_cables plant net _ alive same sid
      have stream : ((plant.cables sid).recv.content ++ chunk) ++ later = wire ((net.links sid).up.map (fun entry => entry.1.posted)) := by
        rw [List.append_assoc, ← pending, carries.up trivial, List.drop_zero]
      have fit : ∀ message ∈ (net.links sid).up.map (fun entry => entry.1.posted), message.Fits := by
        intro message member
        obtain ⟨entry, _, rfl⟩ := List.mem_map.mp member
        exact request_posted_fits entry.1
      obtain ⟨ahead, behind, split, rfl, rest⟩ := extracts_wire_front _ fit _ later _ frames stream extracted
      obtain ⟨first, second, queued, rfl, rfl⟩ := List.map_eq_append_iff.mp split
      rw [List.map_map] at reads
      refine callbacks_same data _ after sid packets called first second net ⟨same.server, fun other => ?_⟩ queued reads fits
      change Carries (plant.server.fault = none) _ (Function.update plant.cables sid _ other) _
      by_cases here : other = sid
      · subst here
        rw [Function.update_self, if_pos rfl]
        refine ⟨carries.client, fun _ => ?_, carries.asked, carries.down, carries.told⟩
        rw [queued, List.drop_left]
        exact rest
      · rw [Function.update_of_ne here, if_neg here]
        exact same.cables other
  | receive sid chunk later packets left pending small processed =>
      obtain ⟨frames, extracted, reads⟩ := process_packets_extracts _ left packets processed
      have carries := same.cables sid
      have stream : ((plant.cables sid).recvBuffer ++ chunk) ++ later = wire ((net.links sid).down.map (fun entry => entry.2.posted)) := by
        rw [List.append_assoc, ← pending, carries.down]
      have fit : ∀ message ∈ (net.links sid).down.map (fun entry => entry.2.posted), message.Fits := by
        intro message member
        obtain ⟨entry, _, rfl⟩ := List.mem_map.mp member
        exact message_posted_fits entry.2
      obtain ⟨ahead, behind, split, rfl, rest⟩ := extracts_wire_front _ fit _ later _ frames stream extracted
      obtain ⟨first, second, queued, rfl, rfl⟩ := List.map_eq_append_iff.mp split
      obtain ⟨link, ran, client, down, up⟩ := receive_each data net sid first second queued
      have told : ∀ message ∈ first.map Prod.snd, message.Fits := by
        intro message member
        obtain ⟨entry, listed, rfl⟩ := List.mem_map.mp member
        exact carries.told entry (queued ▸ List.mem_append_left second listed)
      refine ⟨List.replicate first.length (.receive sid), ?_⟩
      rw [ran]
      refine same_set plant net _ sid _ link same ⟨?_, ?_, ?_, ?_, ?_⟩
      · rw [client, ← carries.client]
        refine client_takes_all packets (first.map Prod.snd) told ?_ _
        rwa [List.map_map] at reads ⊢
      · intro alive
        rw [up]
        exact carries.up alive
      · rw [up]
        exact carries.asked
      · rw [down]
        exact rest
      · rw [down]
        exact fun entry member => carries.told entry (queued ▸ List.mem_append_right first member)
  | disconnect sid alive here =>
      refine ⟨[.disconnect sid], ?_⟩
      have handled := handled_same data plant net sid _ alive same fits
      have gone : netStep data net (.disconnect sid) = (net.handled data sid ⟨.disconnect sid, [], []⟩).setLink sid {} := by
        rw [same.server] at alive here
        simp only [netStep, alive, Option.isSome_none, Bool.false_eq_true, here, not_true_eq_false, or_self, if_false]
      rw [Machine.run_cons, Machine.run_nil, gone]
      exact same_set _ _ _ sid {} {} handled (carries_fresh _)

end Levels

structure Waiting (cable : Cable) : Prop where
  recv : Framing.next packetFormat cable.recv.content = none
  recvBuffer : Framing.next packetFormat cable.recvBuffer = none

section Buffers

variable (data : GameData) (plant after : Plant)

theorem fresh_waits : Waiting {} := ⟨Framing.next_nil packetFormat (by decide), Framing.next_nil packetFormat (by decide)⟩

theorem set_waits (sid : SessionId) (cable : Cable) (waits : ∀ other, Waiting (plant.cables other)) (here : Waiting cable) (other : SessionId) :
    Waiting ((plant.setCable sid cable).cables other) := by
  rw [Plant.setCable]
  by_cases same : other = sid
  · simpa only [same, Function.update_self] using here
  · simpa only [Function.update_of_ne same] using waits other

theorem spread_waits (server : ServerState) (waits : ∀ sid, Waiting (plant.cables sid)) (sid : SessionId) :
    Waiting ((plant.spread server).cables sid) :=
  ⟨(waits sid).recv, (waits sid).recvBuffer⟩

theorem callbacks_wait (sid : SessionId) (packets : List Packet) (called : Callbacks data sid plant packets after)
    (waits : ∀ other, Waiting (plant.cables other)) : ∀ other, Waiting (after.cables other) := by
  induction called with
  | nil plant => exact waits
  | cons plant after packet packets rolls dbPlan _ ih =>
      apply ih
      rw [Plant.callback]
      split
      · exact waits
      · split <;> exact spread_waits plant _ waits

theorem plant_step_waits (moves : PlantStep data plant after) (waits : ∀ sid, Waiting (plant.cables sid)) :
    ∀ sid, Waiting (after.cables sid) := by
  cases moves with
  | connect alive free => exact set_waits _ _ {} (spread_waits plant _ waits) fresh_waits
  | press sid typed here => exact set_waits plant sid _ waits ⟨(waits sid).recv, (waits sid).recvBuffer⟩
  | read after sid chunk later packets left alive pending room processed called =>
      obtain ⟨frames, extracted, _⟩ := process_buffer_extracts _ left packets processed
      refine callbacks_wait data _ after sid packets called (set_waits plant sid _ waits ⟨?_, (waits sid).recvBuffer⟩)
      exact Framing.extracts_left_waits packetFormat _ frames _ extracted
  | receive sid chunk later packets left pending small processed =>
      obtain ⟨frames, extracted, _⟩ := process_packets_extracts _ left packets processed
      exact set_waits plant sid _ waits ⟨(waits sid).recv, Framing.extracts_left_waits packetFormat _ frames _ extracted⟩
  | disconnect sid alive here => exact set_waits _ sid {} (spread_waits plant _ waits) fresh_waits

theorem nothing_waits (messages : List Posted) (fit : ∀ message ∈ messages, message.Fits) (buffer : Bytes)
    (stream : buffer = wire messages) (waits : Framing.next packetFormat buffer = none) : messages = [] := by
  cases messages with
  | nil => rfl
  | cons message messages =>
      have formed := frame_well_formed message (fit message List.mem_cons_self)
      rw [stream, wire, List.map_cons, List.flatten_cons, Framing.next_well_formed packetFormat _ _ formed] at waits
      cases waits

theorem content_short (messages : List Posted) (fit : ∀ message ∈ messages, message.Fits) (content later : Bytes)
    (stream : content ++ later = wire messages) (waits : Framing.next packetFormat content = none) :
    content.length < maxRecvBufferSize := by
  refine Framing.extracts_left_short packetFormat maxRecvBufferSize (by decide) (messages.map Posted.frame)
    (frames_well_formed messages fit) ?_ (by decide) content later content [] stream (.wait content waits)
  intro frame member
  obtain ⟨message, posted, rfl⟩ := List.mem_map.mp member
  rw [frame_length]
  exact fit message posted

end Buffers

section Sockets

variable (data : GameData) (db : Database) (draw : Nat → Nat) (plant : Plant)
  (reached : Relation.ReflTransGen (PlantStep data) (Plant.boot db draw) plant) (fits : plant.Fits)

include reached in
theorem reached_waits : ∀ sid, Waiting (plant.cables sid) := by
  induction reached with
  | refl => exact fun _ => fresh_waits
  | tail _ moves ih => exact plant_step_waits data _ _ moves ih

include reached fits in
theorem reached_same : ∃ actions, Same (fun _ => 0) plant (Machine.run (netStep data) (Net.boot db draw) actions) := by
  induction reached with
  | refl => exact ⟨[], rfl, fun _ => carries_fresh _⟩
  | tail _ moves ih =>
      obtain ⟨actions, same⟩ := ih (plant_fits_before data _ _ moves fits)
      obtain ⟨more, next⟩ := plant_step_same data _ _ _ moves same fits
      exact ⟨actions ++ more, by rwa [Machine.run_append]⟩

theorem queued_fits (link : Link) : ∀ message ∈ link.up.map (fun entry => entry.1.posted), message.Fits := by
  intro message member
  obtain ⟨entry, _, rfl⟩ := List.mem_map.mp member
  exact request_posted_fits entry.1

theorem told_fits (link : Link) : ∀ message ∈ link.down.map (fun entry => entry.2.posted), message.Fits := by
  intro message member
  obtain ⟨entry, _, rfl⟩ := List.mem_map.mp member
  exact message_posted_fits entry.2

include reached fits in
theorem cables_carry :
    ∃ actions, Same (fun _ => 0) plant (Machine.run (netStep data) (Net.boot db draw) actions) ∧
      ∀ sid,
        ((plant.cables sid).down = [] → ((Machine.run (netStep data) (Net.boot db draw) actions).links sid).down = []) ∧
        (plant.server.fault = none → (plant.cables sid).up = [] →
          ((Machine.run (netStep data) (Net.boot db draw) actions).links sid).up = []) := by
  obtain ⟨actions, same⟩ := reached_same data db draw plant reached fits
  have waits := reached_waits data db draw plant reached
  refine ⟨actions, same, fun sid => ⟨fun arrived => ?_, fun alive arrived => ?_⟩⟩
  · have stream := (same.cables sid).down
    rw [arrived, List.append_nil] at stream
    exact List.map_eq_nil_iff.mp (nothing_waits _ (told_fits _) _ stream (waits sid).recvBuffer)
  · have stream := (same.cables sid).up alive
    rw [arrived, List.append_nil, List.drop_zero] at stream
    exact List.map_eq_nil_iff.mp (nothing_waits _ (queued_fits _) _ stream (waits sid).recv)

include reached fits in
theorem cables_never_jam (sid : SessionId) :
    (plant.server.fault = none →
      (plant.cables sid).recv.recvSize < maxRecvBufferSize ∧
      ∀ chunk later, (plant.cables sid).up = chunk ++ later →
        ∀ room : (plant.cables sid).recv.recvSize + chunk.length ≤ maxRecvBufferSize,
          ∃ packets left, ProcessBuffer ((plant.cables sid).recv.received chunk room) packets left ∧
            ∀ packet ∈ packets, ∃ request, packet.request = some request) ∧
    ∀ chunk later, (plant.cables sid).down = chunk ++ later →
      ∃ packets left, ProcessPackets ((plant.cables sid).recvBuffer ++ chunk) packets left ∧
        ∀ packet ∈ packets, ∃ message, packet.message = some message := by
  obtain ⟨actions, same⟩ := reached_same data db draw plant reached fits
  have waits := reached_waits data db draw plant reached sid
  have carries := same.cables sid
  constructor
  · intro alive
    have stream := carries.up alive
    refine ⟨?_, fun chunk later pending room => ?_⟩
    · rw [← content_length]
      exact content_short _ (queued_fits _) _ _ stream waits.recv
    · rw [pending, ← List.append_assoc] at stream
      obtain ⟨frames, left, extracted⟩ := front_extracts _ (queued_fits _) _ later stream
      obtain ⟨packets, rest, processed, _, reads⟩ := extracts_process_buffer _ left frames extracted _ (content_received _ chunk room)
      refine ⟨packets, rest, processed, fun packet member => ?_⟩
      obtain ⟨first, second, split, rfl, _⟩ := extracts_wire_front _ (queued_fits _) _ later left frames stream extracted
      obtain ⟨frame, listed, reading⟩ := reads_each packets _ reads packet member
      obtain ⟨posted, among, rfl⟩ := List.mem_map.mp listed
      obtain ⟨entry, queued, rfl⟩ := List.mem_map.mp (split ▸ List.mem_append_left second among)
      exact ⟨entry.1, packet_request packet entry.1 (carries.asked entry queued) (reads_posted packet _ reading)⟩
  · intro chunk later pending
    have stream := carries.down
    rw [pending, ← List.append_assoc] at stream
    obtain ⟨frames, left, extracted⟩ := front_extracts _ (told_fits _) _ later stream
    obtain ⟨packets, processed, reads⟩ := extracts_process_packets _ left frames extracted
    refine ⟨packets, left, processed, fun packet member => ?_⟩
    obtain ⟨first, second, split, rfl, _⟩ := extracts_wire_front _ (told_fits _) _ later left frames stream extracted
    obtain ⟨frame, listed, reading⟩ := reads_each packets _ reads packet member
    obtain ⟨posted, among, rfl⟩ := List.mem_map.mp listed
    obtain ⟨entry, queued, rfl⟩ := List.mem_map.mp (split ▸ List.mem_append_left second among)
    exact ⟨entry.2, packet_message packet entry.2 (carries.told entry queued) (reads_posted packet _ reading)⟩

end Sockets

end MmorpgSimulator
