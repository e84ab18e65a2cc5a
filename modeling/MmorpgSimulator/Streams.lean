import MmorpgSimulator.Segmentation

set_option autoImplicit false

namespace MmorpgSimulator

section ReadRoom

theorem process_once_small (buffer rest : RecvBuffer) (packet : Packet) (front : processOnce buffer = some (packet, rest)) :
    packet.length ≤ maxRecvBufferSize := by
  rw [processOnce] at front
  split at front
  · exact absurd front (by simp)
  · rename_i whole
    obtain ⟨rfl, rfl⟩ := Prod.mk.inj (Option.some.inj front)
    exact le_trans (Nat.not_lt.mp (not_or.mp whole).2) buffer.bounded

theorem process_buffer_small (buffer left : RecvBuffer) (packets : List Packet) (processed : ProcessBuffer buffer packets left) :
    ∀ packet ∈ packets, packet.length ≤ maxRecvBufferSize := by
  induction processed with
  | wait buffer _ => exact nofun
  | turn buffer packet rest packets left front _ ih =>
      intro other member
      rcases List.mem_cons.mp member with same | later
      · rw [same]
        exact process_once_small buffer rest packet front
      · exact ih other later

theorem do_read_small (buffer left : RecvBuffer) (chunks : List Bytes) (packets : List Packet)
    (reading : DoRead buffer chunks packets left) : ∀ packet ∈ packets, packet.length ≤ maxRecvBufferSize := by
  induction reading with
  | idle buffer => exact nofun
  | read buffer chunk chunks first second middle left _ processed _ ih =>
      intro packet member
      rcases List.mem_append.mp member with now | later
      · exact process_buffer_small _ middle first processed packet now
      · exact ih packet later

theorem reads_bounded (bound : Nat) (packets : List Packet) (frames : List Bytes) (reads : List.Forall₂ Reads packets frames)
    (small : ∀ packet ∈ packets, packet.length ≤ bound) : ∀ frame ∈ frames, frame.length ≤ bound := by
  induction reads with
  | nil => exact nofun
  | cons first _ ih =>
      intro frame member
      rcases List.mem_cons.mp member with same | later
      · rw [same, ← first.length]
        exact small _ List.mem_cons_self
      · exact ih (fun packet listed => small packet (List.mem_cons_of_mem _ listed)) frame later

theorem read_room_iff (chunks : List Bytes) (packets : List Packet) (left : RecvBuffer)
    (reading : DoRead RecvBuffer.empty chunks packets left) :
    left.recvSize < maxRecvBufferSize ↔ ¬ Framing.MeetsOversized packetFormat maxRecvBufferSize chunks.flatten := by
  obtain ⟨frames, fed, reads⟩ := do_read_feeds _ left chunks packets reading
  have extracted := (Framing.feeds_iff_extracts packetFormat [] chunks frames left.content
    (Framing.next_nil packetFormat (by decide))).mp fed
  rw [List.nil_append] at extracted
  have small := reads_bounded maxRecvBufferSize packets frames reads (do_read_small _ left chunks packets reading)
  rw [← Framing.extracts_full_iff packetFormat maxRecvBufferSize (by decide) chunks.flatten frames left.content extracted small,
    content_length, Nat.not_le]

theorem every_read_has_room_iff (chunks : List Bytes) (packets : List Packet) (left : RecvBuffer)
    (reading : DoRead RecvBuffer.empty chunks packets left) :
    (∀ before after first middle, before ++ after = chunks → DoRead RecvBuffer.empty before first middle →
      middle.recvSize < maxRecvBufferSize) ↔ ¬ Framing.MeetsOversized packetFormat maxRecvBufferSize chunks.flatten := by
  constructor
  · intro room
    exact (read_room_iff chunks packets left reading).mp (room chunks [] packets left (List.append_nil chunks) reading)
  · rintro unmet before after first middle rfl earlier
    refine (read_room_iff before first middle earlier).mpr (fun meets => unmet ?_)
    rw [List.flatten_append]
    exact Framing.oversized_append packetFormat maxRecvBufferSize (by decide) before.flatten after.flatten meets

-- A header that declares 65535 bytes, and zeros up to the end of the array.
def hostileChunk : Bytes := headerBytes 65535 0x0101 ++ List.replicate (maxRecvBufferSize - headerSize) 0

theorem hostile_chunk_length : hostileChunk.length = maxRecvBufferSize := by
  rw [hostileChunk, List.length_append, header_length, List.length_replicate]
  decide

theorem hostile_length_fills_array :
    ∃ packets left, DoRead RecvBuffer.empty [hostileChunk] packets left ∧ ¬ left.recvSize < maxRecvBufferSize := by
  have size := hostile_chunk_length
  have room : RecvBuffer.empty.recvSize + hostileChunk.length ≤ maxRecvBufferSize := by
    rw [size]
    decide
  have stop : processOnce (RecvBuffer.empty.received hostileChunk room) = none := by
    rw [process_once_none, content_received, empty_content, List.nil_append, Framing.next_none_iff]
    refine .inr ?_
    show hostileChunk.length < lengthField hostileChunk
    rw [size, hostileChunk, header_length_field]
    decide
  have processed := ProcessBuffer.wait (RecvBuffer.empty.received hostileChunk room) stop
  refine ⟨[] ++ [], _, .read _ hostileChunk [] [] [] _ _ room processed (.idle _), Nat.not_lt.mpr ?_⟩
  rw [← content_length, content_received, List.length_append, size]
  exact Nat.le_add_left _ _

theorem heartbeat_then_buy_has_room :
    ∃ packets left, DoRead RecvBuffer.empty threeChunks packets left ∧ left.recvSize < maxRecvBufferSize := by
  have fed := wire_feeds heartbeatThenBuy (by decide) threeChunks (by decide)
  obtain ⟨packets, left, reading⟩ := feeds_do_read [] [] threeChunks _ fed RecvBuffer.empty empty_content
    (chunks_fit_of_total _ _ (by decide))
  refine ⟨packets, left, reading, (every_read_has_room_iff threeChunks packets left reading).mpr (fun meets => ?_) threeChunks []
    packets left (List.append_nil _) reading⟩
  have long := Framing.oversized_long packetFormat maxRecvBufferSize _ meets
  exact absurd long (by decide)

end ReadRoom

-- What both loops hand to their dispatch, with the offset of the header in the stream.
def dispatched : Nat → List Packet → List (UInt16 × Nat × Nat)
  | _, [] => []
  | offset, packet :: rest => (packet.type, packet.length, offset) :: dispatched (offset + packet.length) rest

def consumedBytes (packets : List Packet) : Nat := (packets.map Packet.length).sum

-- Each packet is the header found in the stream where the packet before it ends.
def Stamped (stream : Bytes) : Nat → List Packet → Prop
  | _, [] => True
  | offset, packet :: rest =>
      packet.type = typeField (stream.drop offset) ∧ packet.length = lengthField (stream.drop offset) ∧
        Stamped stream (offset + packet.length) rest

section Stamps

variable (stream : Bytes)

theorem stamped_append (offset : Nat) (first second : List Packet) (before : Stamped stream offset first)
    (after : Stamped stream (offset + consumedBytes first) second) : Stamped stream offset (first ++ second) := by
  induction first generalizing offset with
  | nil => exact after
  | cons packet rest ih =>
      obtain ⟨type, length, later⟩ := before
      refine ⟨type, length, ih (offset + packet.length) later ?_⟩
      rwa [consumedBytes, List.map_cons, List.sum_cons, ← Nat.add_assoc] at after

theorem stamped_unique (offset : Nat) (first second : List Packet) (one : Stamped stream offset first)
    (other : Stamped stream offset second) (same : first.length = second.length) : dispatched offset first = dispatched offset second := by
  induction first generalizing offset second with
  | nil => rw [List.length_eq_zero_iff.mp same.symm]
  | cons packet rest ih =>
      cases second with
      | nil => exact absurd same (Nat.succ_ne_zero _)
      | cons packet' rest' =>
          obtain ⟨type, length, later⟩ := one
          obtain ⟨type', length', later'⟩ := other
          have lengths : packet.length = packet'.length := length.trans length'.symm
          have rests := ih (offset + packet.length) rest' later (lengths ▸ later') (Nat.succ_inj.mp same)
          rw [dispatched, dispatched, rests, type, type', lengths]

theorem type_field_append (front rest : Bytes) (complete : headerSize ≤ front.length) : typeField (front ++ rest) = typeField front := by
  have two : 2 ≤ (front.drop 2).length := by
    rw [List.length_drop]
    exact Nat.le_sub_of_add_le complete
  rw [typeField, typeField, u16At, u16At, fieldAt, fieldAt, List.drop_append_of_le_length (le_trans (by decide) complete),
    List.take_append_of_le_length two]

theorem stamped_turn (offset : Nat) (content later : Bytes) (packet : Packet) (packets : List Packet)
    (here : stream.drop offset = content ++ later) (complete : headerSize ≤ content.length) (type : packet.type = typeField content)
    (length : packet.length = lengthField content) (rest : Stamped stream (offset + packet.length) packets) :
    Stamped stream offset (packet :: packets) := by
  refine ⟨?_, ?_, rest⟩
  · rw [here, type_field_append content later complete, type]
  · rw [here, length_field_append content later complete, length]

theorem border_moves (offset count : Nat) (content later : Bytes) (here : stream.drop offset = content ++ later)
    (inside : count ≤ content.length) : stream.drop (offset + count) = content.drop count ++ later := by
  rw [← List.drop_drop, here, List.drop_append_of_le_length inside]

theorem process_once_fields (buffer rest : RecvBuffer) (packet : Packet) (front : processOnce buffer = some (packet, rest)) :
    headerSize ≤ buffer.content.length ∧ packet.type = typeField buffer.content ∧ packet.length = lengthField buffer.content ∧
      packet.length ≤ buffer.content.length ∧ rest.content = buffer.content.drop packet.length := by
  have size := content_length buffer
  rw [processOnce] at front
  split at front
  · exact absurd front (by simp)
  · rename_i whole
    obtain ⟨complete, inside⟩ := not_or.mp whole
    obtain ⟨rfl, rfl⟩ := Prod.mk.inj (Option.some.inj front)
    have long : headerSize ≤ buffer.content.length := le_of_le_of_eq (Nat.not_lt.mp complete) size.symm
    have type : typeField buffer.bytes = typeField buffer.content := by
      conv_lhs => rw [← List.take_append_drop buffer.recvSize buffer.bytes]
      exact type_field_append buffer.content _ long
    refine ⟨long, type, content_length_field buffer (Nat.not_lt.mp complete), ?_, content_consumed buffer _ _⟩
    exact le_of_le_of_eq (Nat.not_lt.mp inside) size.symm

theorem process_buffer_stamped (buffer left : RecvBuffer) (packets : List Packet) (processed : ProcessBuffer buffer packets left)
    (offset : Nat) (later : Bytes) (here : stream.drop offset = buffer.content ++ later) :
    Stamped stream offset packets ∧ stream.drop (offset + consumedBytes packets) = left.content ++ later := by
  induction processed generalizing offset with
  | wait buffer _ => exact ⟨trivial, here⟩
  | turn buffer packet rest packets left front _ ih =>
      obtain ⟨complete, type, length, inside, behind⟩ := process_once_fields buffer rest packet front
      have moved := border_moves stream offset packet.length buffer.content later here inside
      rw [← behind] at moved
      obtain ⟨stamped, leftover⟩ := ih (offset + packet.length) moved
      refine ⟨stamped_turn stream offset buffer.content later packet packets here complete type length stamped, ?_⟩
      rwa [consumedBytes, List.map_cons, List.sum_cons, ← Nat.add_assoc]

theorem process_packets_stamped (recvBuffer left : Bytes) (packets : List Packet) (processed : ProcessPackets recvBuffer packets left)
    (offset : Nat) (later : Bytes) (here : stream.drop offset = recvBuffer ++ later) :
    Stamped stream offset packets ∧ stream.drop (offset + consumedBytes packets) = left ++ later := by
  induction processed generalizing offset with
  | wait recvBuffer _ => exact ⟨trivial, here⟩
  | turn recvBuffer packets left whole _ ih =>
      obtain ⟨complete, inside⟩ := not_or.mp whole
      have moved := border_moves stream offset (lengthField recvBuffer) recvBuffer later here (Nat.not_lt.mp inside)
      obtain ⟨stamped, leftover⟩ := ih (offset + lengthField recvBuffer) moved
      refine ⟨stamped_turn stream offset recvBuffer later _ packets here (Nat.not_lt.mp complete) rfl rfl stamped, ?_⟩
      rwa [consumedBytes, List.map_cons, List.sum_cons, ← Nat.add_assoc]

theorem do_read_stamped (buffer left : RecvBuffer) (chunks : List Bytes) (packets : List Packet)
    (reading : DoRead buffer chunks packets left) (offset : Nat) (here : stream.drop offset = buffer.content ++ chunks.flatten) :
    Stamped stream offset packets := by
  induction reading generalizing offset with
  | idle buffer => trivial
  | read buffer chunk chunks first second middle left room processed _ ih =>
      have arrived : stream.drop offset = (buffer.received chunk room).content ++ chunks.flatten := by
        rw [here, content_received, List.flatten_cons, List.append_assoc]
      obtain ⟨stamped, leftover⟩ := process_buffer_stamped stream _ middle first processed offset chunks.flatten arrived
      exact stamped_append stream offset first second stamped (ih (offset + consumedBytes first) leftover)

theorem recv_loop_stamped (recvBuffer left : Bytes) (chunks : List Bytes) (packets : List Packet)
    (reading : RecvLoop recvBuffer chunks packets left) (offset : Nat) (here : stream.drop offset = recvBuffer ++ chunks.flatten) :
    Stamped stream offset packets := by
  induction reading generalizing offset with
  | idle recvBuffer => trivial
  | read recvBuffer chunk chunks first second middle left _ processed _ ih =>
      have arrived : stream.drop offset = (recvBuffer ++ chunk) ++ chunks.flatten := by
        rw [here, List.flatten_cons, List.append_assoc]
      obtain ⟨stamped, leftover⟩ := process_packets_stamped stream _ middle first processed offset chunks.flatten arrived
      exact stamped_append stream offset first second stamped (ih (offset + consumedBytes first) leftover)

end Stamps

-- Every header met at a border declares at least one byte and no more than the array holds.
def Segmentable (stream : Bytes) : Prop :=
  ∀ border, Framing.Border packetFormat stream border → headerSize ≤ border.length →
    1 ≤ lengthField border ∧ lengthField border ≤ maxRecvBufferSize

theorem segmentable_extracts (stream : Bytes) (segmentable : Segmentable stream) :
    ∃ frames left, Framing.Extracts packetFormat stream frames left := by
  apply Framing.extracts_of_no_zero packetFormat stream
  intro meets
  obtain ⟨border, reached, complete, zero⟩ := Framing.border_of_zero packetFormat stream meets
  have positive := (segmentable border reached complete).1
  exact absurd zero (Nat.ne_of_gt positive)

theorem segmentable_not_oversized (stream : Bytes) (segmentable : Segmentable stream) :
    ¬ Framing.MeetsOversized packetFormat maxRecvBufferSize stream := by
  intro meets
  obtain ⟨border, reached, full, long⟩ := Framing.border_of_oversized packetFormat maxRecvBufferSize stream meets
  exact absurd (segmentable border reached (le_trans (by decide) full)).2 (Nat.not_le.mpr long)

-- The server's array with memmove and the client's growing vector cut every such
-- stream alike, whatever the chunks of the one and of the other.
theorem segmentations_agree (stream : Bytes) (segmentable : Segmentable stream) (serverChunks clientChunks : List Bytes)
    (serverCut : serverChunks.flatten = stream) (clientCut : clientChunks.flatten = stream)
    (room : ChunksFit RecvBuffer.empty serverChunks) (small : ∀ chunk ∈ clientChunks, chunk.length ≤ maxPacketSize) :
    (∃ packets left, DoRead RecvBuffer.empty serverChunks packets left) ∧
      (∃ packets left, RecvLoop [] clientChunks packets left) ∧
        ∀ packets left packets' left', DoRead RecvBuffer.empty serverChunks packets left → RecvLoop [] clientChunks packets' left' →
          dispatched 0 packets = dispatched 0 packets' ∧ left.content = left' ∧ left.recvSize < maxRecvBufferSize := by
  obtain ⟨frames, rest, extracted⟩ := segmentable_extracts stream segmentable
  have waiting := Framing.next_nil packetFormat (by decide)
  have fed (chunks : List Bytes) (cut : chunks.flatten = stream) : Framing.Feeds packetFormat [] chunks frames rest := by
    rw [Framing.feeds_iff_extracts packetFormat [] chunks frames rest waiting, List.nil_append, cut]
    exact extracted
  have cutAlike (chunks frames' : List Bytes) (rest' : Bytes) (cut : chunks.flatten = stream)
      (other : Framing.Feeds packetFormat [] chunks frames' rest') : frames' = frames ∧ rest' = rest := by
    rw [Framing.feeds_iff_extracts packetFormat [] chunks frames' rest' waiting, List.nil_append, cut] at other
    exact Framing.extracts_unique packetFormat stream _ _ _ _ other extracted
  refine ⟨feeds_do_read [] rest serverChunks frames (fed serverChunks serverCut) RecvBuffer.empty empty_content room, ?_, ?_⟩
  · obtain ⟨packets, reading⟩ := feeds_recv_loop [] rest clientChunks frames (fed clientChunks clientCut) small
    exact ⟨packets, rest, reading⟩
  · intro packets left packets' left' serverReading clientReading
    obtain ⟨serverFrames, serverFed, serverReads⟩ := do_read_feeds _ left serverChunks packets serverReading
    obtain ⟨clientFrames, clientFed, clientReads⟩ := recv_loop_feeds _ left' clientChunks packets' clientReading
    obtain ⟨rfl, serverRest⟩ := cutAlike serverChunks serverFrames left.content serverCut serverFed
    obtain ⟨rfl, clientRest⟩ := cutAlike clientChunks clientFrames left' clientCut clientFed
    have serverStamped := do_read_stamped stream _ left serverChunks packets serverReading 0 serverCut.symm
    have clientStamped := recv_loop_stamped stream _ left' clientChunks packets' clientReading 0 clientCut.symm
    refine ⟨?_, serverRest.trans clientRest.symm, ?_⟩
    · exact stamped_unique stream 0 packets packets' serverStamped clientStamped (serverReads.length_eq.trans clientReads.length_eq.symm)
    · rw [read_room_iff serverChunks packets left serverReading, serverCut]
      exact segmentable_not_oversized stream segmentable

-- A header that declares two bytes: the next header starts inside it.
def overlappingHeaders : Bytes := [2, 0, 4, 0, 1, 0xFF]

theorem overlapping_segmentable : Segmentable overlappingHeaders := by
  intro border reached complete
  have first : Framing.next packetFormat overlappingHeaders = some ([2, 0], [4, 0, 1, 0xFF]) := by decide
  have second : Framing.next packetFormat [4, 0, 1, 0xFF] = some ([4, 0, 1, 0xFF], []) := by decide
  cases reached with
  | here => decide
  | later _ frame rest _ front more =>
      obtain ⟨rfl, rfl⟩ := Prod.mk.inj (Option.some.inj (first.symm.trans front))
      cases more with
      | here => decide
      | later _ frame rest _ front more =>
          obtain ⟨rfl, rfl⟩ := Prod.mk.inj (Option.some.inj (second.symm.trans front))
          cases more with
          | here => exact absurd complete (by decide)
          | later _ frame rest _ front _ => exact absurd front nofun

theorem overlapping_headers_agree :
    ∃ packets left packets' left', DoRead RecvBuffer.empty [[2, 0, 4], [0, 1, 0xFF]] packets left ∧
      RecvLoop [] [[2, 0, 4, 0, 1, 0xFF]] packets' left' ∧ dispatched 0 packets = dispatched 0 packets' := by
  have agree := segmentations_agree overlappingHeaders overlapping_segmentable [[2, 0, 4], [0, 1, 0xFF]] [[2, 0, 4, 0, 1, 0xFF]] rfl rfl
    (chunks_fit_of_total _ _ (by decide)) (by decide)
  obtain ⟨⟨packets, left, reading⟩, ⟨packets', left', reading'⟩, same⟩ := agree
  exact ⟨packets, left, packets', left', reading, reading', (same packets left packets' left' reading reading').1⟩

end MmorpgSimulator
