import MmorpgSimulator.RecvBuffer

set_option autoImplicit false

namespace MmorpgSimulator

-- Session::DoRead: a chunk at a time goes into the free space behind what is
-- buffered, and ProcessBuffer runs before the next read is posted.
inductive DoRead : RecvBuffer → List Bytes → List Packet → RecvBuffer → Prop where
  | idle (buffer : RecvBuffer) : DoRead buffer [] [] buffer
  | read (buffer : RecvBuffer) (chunk : Bytes) (chunks : List Bytes) (first second : List Packet) (middle left : RecvBuffer)
      (room : buffer.recvSize + chunk.length ≤ maxRecvBufferSize)
      (processed : ProcessBuffer (buffer.received chunk room) first middle) (rest : DoRead middle chunks second left) :
      DoRead buffer (chunk :: chunks) (first ++ second) left

-- TcpClient::RecvLoop: recv fills at most its MAX_PACKET_SIZE array.
inductive RecvLoop : Bytes → List Bytes → List Packet → Bytes → Prop where
  | idle (recvBuffer : Bytes) : RecvLoop recvBuffer [] [] recvBuffer
  | read (recvBuffer chunk : Bytes) (chunks : List Bytes) (first second : List Packet) (middle left : Bytes)
      (small : chunk.length ≤ maxPacketSize)
      (processed : ProcessPackets (recvBuffer ++ chunk) first middle) (rest : RecvLoop middle chunks second left) :
      RecvLoop recvBuffer (chunk :: chunks) (first ++ second) left

def ChunksFit : RecvBuffer → List Bytes → Prop
  | _, [] => True
  | buffer, chunk :: chunks =>
      ∃ room : buffer.recvSize + chunk.length ≤ maxRecvBufferSize,
        ∀ packets left, ProcessBuffer (buffer.received chunk room) packets left → ChunksFit left chunks

def wire (messages : List Posted) : Bytes := (messages.map Posted.frame).flatten

-- The calls that HandlePacket and the client's handler table make of what is dispatched.
def called (handlers : List UInt16) (packets : List Packet) : List Packet := packets.filter (fun packet => packet.type ∈ handlers)

section Reads

theorem process_once_shrinks (buffer rest : RecvBuffer) (packet : Packet) (front : processOnce buffer = some (packet, rest)) :
    rest.recvSize ≤ buffer.recvSize := by
  rw [processOnce] at front
  split at front
  · exact absurd front (by simp)
  · obtain ⟨rfl, rfl⟩ := Prod.mk.inj (Option.some.inj front)
    exact Nat.sub_le _ _

theorem process_buffer_shrinks (buffer left : RecvBuffer) (packets : List Packet)
    (processed : ProcessBuffer buffer packets left) : left.recvSize ≤ buffer.recvSize := by
  induction processed with
  | wait buffer _ => exact Nat.le_refl _
  | turn buffer packet rest packets left front _ ih => exact le_trans ih (process_once_shrinks buffer rest packet front)

theorem chunks_fit_of_total (chunks : List Bytes) (buffer : RecvBuffer)
    (total : buffer.recvSize + chunks.flatten.length ≤ maxRecvBufferSize) : ChunksFit buffer chunks := by
  induction chunks generalizing buffer with
  | nil => trivial
  | cons chunk chunks ih =>
      rw [List.flatten_cons, List.length_append] at total
      have room : buffer.recvSize + chunk.length ≤ maxRecvBufferSize := by omega
      refine ⟨room, ?_⟩
      intro packets left processed
      have shrunk : left.recvSize ≤ buffer.recvSize + chunk.length := process_buffer_shrinks _ left packets processed
      exact ih left (by omega)

theorem chunks_fit_rest (buffer left : RecvBuffer) (before after : List Bytes) (packets : List Packet)
    (reading : DoRead buffer before packets left) (fit : ChunksFit buffer (before ++ after)) : ChunksFit left after := by
  induction reading with
  | idle buffer => exact fit
  | read buffer chunk chunks first second middle left _ processed _ ih =>
      obtain ⟨_, later⟩ := fit
      exact ih (later first middle processed)

theorem do_read_feeds (buffer left : RecvBuffer) (chunks : List Bytes) (packets : List Packet)
    (reading : DoRead buffer chunks packets left) :
    ∃ frames, Framing.Feeds packetFormat buffer.content chunks frames left.content ∧ List.Forall₂ Reads packets frames := by
  induction reading with
  | idle buffer => exact ⟨[], .done buffer.content, .nil⟩
  | read buffer chunk chunks first second middle left room processed _ ih =>
      obtain ⟨before, extracted, reads⟩ := process_buffer_extracts _ middle first processed
      obtain ⟨after, fed, others⟩ := ih
      rw [content_received] at extracted
      exact ⟨before ++ after, .chunk _ chunk chunks before after _ _ extracted fed, List.rel_append reads others⟩

theorem feeds_do_read (stream left : Bytes) (chunks frames : List Bytes)
    (fed : Framing.Feeds packetFormat stream chunks frames left) (buffer : RecvBuffer) (same : buffer.content = stream)
    (fit : ChunksFit buffer chunks) : ∃ packets rest, DoRead buffer chunks packets rest := by
  induction fed generalizing buffer with
  | done stream => exact ⟨[], buffer, .idle buffer⟩
  | chunk stream chunk chunks first second middle left extracted _ ih =>
      obtain ⟨room, later⟩ := fit
      have content : (buffer.received chunk room).content = stream ++ chunk := by rw [content_received, same]
      obtain ⟨packets, rest, processed, leftover, _⟩ := extracts_process_buffer _ middle first extracted _ content
      obtain ⟨others, last, reading⟩ := ih rest leftover (later packets rest processed)
      exact ⟨packets ++ others, last, .read buffer chunk chunks packets others rest last room processed reading⟩

theorem recv_loop_feeds (recvBuffer left : Bytes) (chunks : List Bytes) (packets : List Packet)
    (reading : RecvLoop recvBuffer chunks packets left) :
    ∃ frames, Framing.Feeds packetFormat recvBuffer chunks frames left ∧ List.Forall₂ Reads packets frames := by
  induction reading with
  | idle recvBuffer => exact ⟨[], .done recvBuffer, .nil⟩
  | read recvBuffer chunk chunks first second middle left _ processed _ ih =>
      obtain ⟨before, extracted, reads⟩ := process_packets_extracts _ middle first processed
      obtain ⟨after, fed, others⟩ := ih
      exact ⟨before ++ after, .chunk _ chunk chunks before after _ _ extracted fed, List.rel_append reads others⟩

theorem feeds_recv_loop (recvBuffer left : Bytes) (chunks frames : List Bytes)
    (fed : Framing.Feeds packetFormat recvBuffer chunks frames left) (small : ∀ chunk ∈ chunks, chunk.length ≤ maxPacketSize) :
    ∃ packets, RecvLoop recvBuffer chunks packets left := by
  induction fed with
  | done recvBuffer => exact ⟨[], .idle recvBuffer⟩
  | chunk recvBuffer chunk chunks first second middle left extracted _ ih =>
      obtain ⟨packets, processed, _⟩ := extracts_process_packets _ middle first extracted
      obtain ⟨others, reading⟩ := ih (fun other member => small other (List.mem_cons_of_mem _ member))
      exact ⟨packets ++ others,
        .read recvBuffer chunk chunks packets others middle left (small chunk List.mem_cons_self) processed reading⟩

end Reads

section RoundTrip

variable (messages : List Posted) (fit : ∀ message ∈ messages, message.Fits)

include fit in
theorem wire_extracts : Framing.Extracts packetFormat (wire messages) (messages.map Posted.frame) [] :=
  Framing.extracts_flatten packetFormat (by decide) _ (frames_well_formed messages fit)

include fit in
theorem wire_feeds (chunks : List Bytes) (cut : chunks.flatten = wire messages) :
    Framing.Feeds packetFormat [] chunks (messages.map Posted.frame) [] := by
  refine (Framing.feeds_iff_extracts packetFormat [] chunks _ _ (Framing.next_nil packetFormat (by decide))).mpr ?_
  rw [List.nil_append, cut]
  exact wire_extracts messages fit

include fit in
theorem wire_feeds_unique (chunks frames : List Bytes) (left : Bytes) (cut : chunks.flatten = wire messages)
    (fed : Framing.Feeds packetFormat [] chunks frames left) : frames = messages.map Posted.frame ∧ left = [] := by
  have extracted := (Framing.feeds_iff_extracts packetFormat [] chunks frames left (Framing.next_nil packetFormat (by decide))).mp fed
  rw [List.nil_append, cut] at extracted
  exact Framing.extracts_unique packetFormat _ _ _ _ _ extracted (wire_extracts messages fit)

theorem called_posted (handlers : List UInt16) (packets : List Packet) :
    (called handlers packets).map Packet.posted =
      (packets.map Packet.posted).filter (fun message => message.type ∈ handlers) := by
  rw [List.filter_map]
  rfl

theorem empty_content : RecvBuffer.empty.content = [] := rfl

include fit in
theorem do_read_wire (chunks : List Bytes) (cut : chunks.flatten = wire messages) (packets : List Packet) (left : RecvBuffer)
    (reading : DoRead RecvBuffer.empty chunks packets left) : packets.map Packet.posted = messages ∧ left.recvSize = 0 := by
  obtain ⟨frames, fed, reads⟩ := do_read_feeds _ left chunks packets reading
  obtain ⟨rfl, nothing⟩ := wire_feeds_unique messages fit chunks frames _ cut fed
  refine ⟨reads_all_posted packets messages reads, ?_⟩
  rw [← content_length, nothing, List.length_nil]

include fit in
theorem recv_loop_wire (chunks : List Bytes) (cut : chunks.flatten = wire messages) (packets : List Packet) (left : Bytes)
    (reading : RecvLoop [] chunks packets left) : packets.map Packet.posted = messages ∧ left = [] := by
  obtain ⟨frames, fed, reads⟩ := recv_loop_feeds _ left chunks packets reading
  obtain ⟨rfl, nothing⟩ := wire_feeds_unique messages fit chunks frames _ cut fed
  exact ⟨reads_all_posted packets messages reads, nothing⟩

-- Between two reads the array is never full, so a read always has somewhere to go.
include fit in
theorem do_read_leaves_room (chunks later : List Bytes) (cut : (chunks ++ later).flatten = wire messages) (packets : List Packet)
    (left : RecvBuffer) (reading : DoRead RecvBuffer.empty chunks packets left) : left.recvSize < maxRecvBufferSize := by
  obtain ⟨frames, fed, _⟩ := do_read_feeds _ left chunks packets reading
  rw [← content_length]
  refine Framing.feeds_left_short packetFormat maxRecvBufferSize (by decide) (messages.map Posted.frame)
    (frames_well_formed messages fit) ?_ (by decide) chunks later frames left.content cut fed
  intro frame member
  obtain ⟨message, posted, rfl⟩ := List.mem_map.mp member
  rw [frame_length]
  exact fit message posted

end RoundTrip

-- Framing undoes Send in both directions, however the stream is segmented.
theorem framing_round_trip (messages : List Posted) (fit : ∀ message ∈ messages, message.Fits) (chunks : List Bytes)
    (cut : chunks.flatten = wire messages) :
    (ChunksFit RecvBuffer.empty chunks →
      (∃ packets left, DoRead RecvBuffer.empty chunks packets left) ∧
      (∀ packets left, DoRead RecvBuffer.empty chunks packets left →
        packets.map Packet.posted = messages ∧ left.recvSize = 0 ∧
          ∀ handlers, (called handlers packets).map Packet.posted = messages.filter (fun message => message.type ∈ handlers)) ∧
      ∀ before after packets left, before ++ after = chunks → DoRead RecvBuffer.empty before packets left →
        left.recvSize < maxRecvBufferSize ∧
          ∀ chunk rest, after = chunk :: rest → left.recvSize + chunk.length ≤ maxRecvBufferSize) ∧
    ((∀ chunk ∈ chunks, chunk.length ≤ maxPacketSize) →
      (∃ packets left, RecvLoop [] chunks packets left) ∧
      ∀ packets left, RecvLoop [] chunks packets left →
        packets.map Packet.posted = messages ∧ left = [] ∧
          ∀ handlers, (called handlers packets).map Packet.posted = messages.filter (fun message => message.type ∈ handlers)) := by
  have fed := wire_feeds messages fit chunks cut
  have served (packets : List Packet) (posted : packets.map Packet.posted = messages) (handlers : List UInt16) :
      (called handlers packets).map Packet.posted = messages.filter (fun message => message.type ∈ handlers) := by
    rw [called_posted, posted]
  constructor
  · intro room
    refine ⟨feeds_do_read [] [] chunks _ fed RecvBuffer.empty empty_content room, ?_, ?_⟩
    · intro packets left reading
      obtain ⟨posted, drained⟩ := do_read_wire messages fit chunks cut packets left reading
      exact ⟨posted, drained, served packets posted⟩
    · rintro before after packets left rfl reading
      refine ⟨do_read_leaves_room messages fit before after cut packets left reading, ?_⟩
      rintro chunk rest rfl
      obtain ⟨free, _⟩ := chunks_fit_rest _ left before (chunk :: rest) packets reading room
      exact free
  · intro small
    obtain ⟨arrived, reaches⟩ := feeds_recv_loop [] [] chunks _ fed small
    refine ⟨⟨arrived, [], reaches⟩, ?_⟩
    intro packets left reading
    obtain ⟨posted, drained⟩ := recv_loop_wire messages fit chunks cut packets left reading
    exact ⟨posted, drained, served packets posted⟩

-- A heartbeat and a purchase: the first chunk ends inside the heartbeat's header,
-- the second inside the purchase's payload.
def heartbeatThenBuy : List Posted := [⟨0xFF01, []⟩, ⟨0x0803, [7, 0]⟩]

def threeChunks : List Bytes := [[4, 0, 1], [0xFF, 6, 0, 3, 8, 7], [0]]

theorem heartbeat_then_buy_arrives :
    (∃ packets left, DoRead RecvBuffer.empty threeChunks packets left ∧
      packets.map Packet.posted = heartbeatThenBuy ∧ left.recvSize = 0) ∧
    ∃ packets, RecvLoop [] threeChunks packets [] ∧ packets.map Packet.posted = heartbeatThenBuy := by
  have trip := framing_round_trip heartbeatThenBuy (by decide) threeChunks (by decide)
  constructor
  · obtain ⟨⟨packets, left, reading⟩, exact, _⟩ := trip.1 (chunks_fit_of_total _ _ (by decide))
    obtain ⟨posted, drained, _⟩ := exact packets left reading
    exact ⟨packets, left, reading, posted, drained⟩
  · obtain ⟨⟨packets, left, reading⟩, exact⟩ := trip.2 (by decide)
    obtain ⟨posted, rfl, _⟩ := exact packets left reading
    exact ⟨packets, reading, posted⟩

end MmorpgSimulator
