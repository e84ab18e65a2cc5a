import MmorpgSimulator.Protocol
import MmorpgSimulator.Library.Framing

set_option autoImplicit false

namespace MmorpgSimulator

-- PacketHeader as memcpy and reinterpret_cast read it: length, then type.
def lengthField (bytes : Bytes) : Nat := leNat (fieldAt bytes 0 2)

def typeField (bytes : Bytes) : UInt16 := u16At bytes 2

theorem length_field_append (front rest : Bytes) (complete : headerSize ≤ front.length) :
    lengthField (front ++ rest) = lengthField front := by
  have two : 2 ≤ front.length := le_trans (by decide) complete
  simp [lengthField, fieldAt, List.take_append_of_le_length two]

theorem field_at_take (bytes : Bytes) (count offset size : Nat) (inside : offset + size ≤ count) :
    fieldAt (bytes.take count) offset size = fieldAt bytes offset size := by
  have enough : size ≤ count - offset := by omega
  rw [fieldAt, List.drop_take, List.take_take, Nat.min_eq_left enough, fieldAt]

def packetFormat : Framing.Format UInt8 := ⟨headerSize, lengthField, length_field_append⟩

-- Session's recvBuffer_ and recvSize_. The array never changes size; what lies
-- behind recvSize_ is left over from earlier packets.
structure RecvBuffer where
  bytes : Bytes
  recvSize : Nat
  whole : bytes.length = maxRecvBufferSize
  bounded : recvSize ≤ maxRecvBufferSize

-- What packetCallback_ is given: the header and the payload pointer, behind
-- which all the rest of the array can be read.
structure Packet where
  length : Nat
  type : UInt16
  memory : Bytes
deriving DecidableEq, Repr

def Packet.payload (packet : Packet) : Bytes := packet.memory.take (packet.length - headerSize)

def memmove (bytes : Bytes) (offset count : Nat) : Bytes := (bytes.drop offset).take count ++ bytes.drop count

theorem memmove_length (bytes : Bytes) (offset count : Nat) (inside : offset + count ≤ bytes.length) :
    (memmove bytes offset count).length = bytes.length := by
  simp only [memmove, List.length_append, List.length_take, List.length_drop]
  omega

namespace RecvBuffer

def empty : RecvBuffer := ⟨List.replicate maxRecvBufferSize 0, 0, List.length_replicate, Nat.zero_le _⟩

def content (buffer : RecvBuffer) : Bytes := buffer.bytes.take buffer.recvSize

def waiting (buffer : RecvBuffer) : Bool := buffer.recvSize < headerSize || buffer.recvSize < lengthField buffer.bytes

def packet (buffer : RecvBuffer) : Packet :=
  ⟨lengthField buffer.bytes, typeField buffer.bytes, buffer.bytes.drop headerSize⟩

-- Remove the processed packet: nothing is moved when nothing is left.
def consumed (buffer : RecvBuffer) (packetLen : Nat) (inside : packetLen ≤ buffer.recvSize) : RecvBuffer where
  bytes := if 0 < buffer.recvSize - packetLen then memmove buffer.bytes packetLen (buffer.recvSize - packetLen) else buffer.bytes
  recvSize := buffer.recvSize - packetLen
  whole := by
    have bounded := buffer.bounded
    have whole := buffer.whole
    split
    · rw [memmove_length _ _ _ (by omega), whole]
    · exact whole
  bounded := le_trans (Nat.sub_le _ _) buffer.bounded

-- async_read_some is given the free space and writes at most that much.
def received (buffer : RecvBuffer) (chunk : Bytes) (room : buffer.recvSize + chunk.length ≤ maxRecvBufferSize) : RecvBuffer where
  bytes := buffer.bytes.take buffer.recvSize ++ chunk ++ buffer.bytes.drop (buffer.recvSize + chunk.length)
  recvSize := buffer.recvSize + chunk.length
  whole := by
    have whole := buffer.whole
    simp only [List.length_append, List.length_take, List.length_drop]
    omega
  bounded := room

end RecvBuffer

def processOnce (buffer : RecvBuffer) : Option (Packet × RecvBuffer) :=
  if whole : buffer.recvSize < headerSize ∨ buffer.recvSize < lengthField buffer.bytes then none
  else some (buffer.packet, buffer.consumed (lengthField buffer.bytes) (Nat.not_lt.mp (not_or.mp whole).2))

-- Session::ProcessBuffer, with what it dispatches: derivable exactly when the loop ends.
inductive ProcessBuffer : RecvBuffer → List Packet → RecvBuffer → Prop where
  | wait (buffer : RecvBuffer) (stop : processOnce buffer = none) : ProcessBuffer buffer [] buffer
  | turn (buffer : RecvBuffer) (packet : Packet) (rest : RecvBuffer) (packets : List Packet) (left : RecvBuffer)
      (front : processOnce buffer = some (packet, rest)) (more : ProcessBuffer rest packets left) :
      ProcessBuffer buffer (packet :: packets) left

structure Reads (packet : Packet) (frame : Bytes) : Prop where
  length : packet.length = frame.length
  type : headerSize ≤ frame.length → packet.type = typeField frame
  payload : packet.payload = frame.drop headerSize

section Content

variable (buffer : RecvBuffer)

theorem content_length : buffer.content.length = buffer.recvSize := by
  have bounded := buffer.bounded
  rw [RecvBuffer.content, List.length_take, buffer.whole]
  omega

theorem content_received (chunk : Bytes) (room : buffer.recvSize + chunk.length ≤ maxRecvBufferSize) :
    (buffer.received chunk room).content = buffer.content ++ chunk := by
  have front : (buffer.content ++ chunk).length = buffer.recvSize + chunk.length := by
    rw [List.length_append, content_length]
  exact List.take_left' front

theorem content_consumed (packetLen : Nat) (inside : packetLen ≤ buffer.recvSize) :
    (buffer.consumed packetLen inside).content = buffer.content.drop packetLen := by
  have bounded := buffer.bounded
  have whole := buffer.whole
  unfold RecvBuffer.consumed RecvBuffer.content
  simp only
  by_cases left : 0 < buffer.recvSize - packetLen
  · rw [if_pos left, memmove, List.take_left', List.take_drop]
    · congr 2
      omega
    · rw [List.length_take, List.length_drop]
      omega
  · have all : buffer.recvSize = packetLen := by omega
    rw [if_neg left, all]
    simp

theorem content_length_field (complete : headerSize ≤ buffer.recvSize) :
    lengthField buffer.bytes = lengthField buffer.content := by
  have long : headerSize ≤ buffer.content.length := by rwa [content_length]
  conv_lhs => rw [← List.take_append_drop buffer.recvSize buffer.bytes]
  exact length_field_append buffer.content _ long

theorem process_once_none : processOnce buffer = none ↔ Framing.next packetFormat buffer.content = none := by
  rw [Framing.next_none_iff, content_length]
  unfold processOnce
  by_cases short : buffer.recvSize < headerSize
  · simp [short, packetFormat]
  · have same := content_length_field buffer (Nat.not_lt.mp short)
    simp [short, packetFormat, ← same]

theorem process_once_some (packet : Packet) (rest : RecvBuffer) (front : processOnce buffer = some (packet, rest)) :
    ∃ frame, Framing.next packetFormat buffer.content = some (frame, rest.content) ∧ Reads packet frame := by
  unfold processOnce at front
  split at front
  · exact absurd front nofun
  · rename_i whole
    obtain ⟨complete, inside⟩ := not_or.mp whole
    obtain ⟨rfl, rfl⟩ := Prod.mk.inj (Option.some.inj front)
    have same := content_length_field buffer (Nat.not_lt.mp complete)
    have size := content_length buffer
    refine ⟨buffer.content.take (lengthField buffer.bytes), ?_, ?_, ?_, ?_⟩
    · refine (Framing.next_some_iff packetFormat _ _ _).mpr ⟨?_, ?_, ?_, ?_⟩
      · exact le_of_le_of_eq (Nat.not_lt.mp complete) size.symm
      · exact le_of_eq_of_le same.symm (le_of_le_of_eq (Nat.not_lt.mp inside) size.symm)
      · exact congrArg (fun count => buffer.content.take count) same
      · rw [content_consumed]
        exact congrArg (fun count => buffer.content.drop count) same
    · rw [List.length_take, size]
      exact (Nat.min_eq_left (Nat.not_lt.mp inside)).symm
    · intro long
      have four : headerSize ≤ min (lengthField buffer.bytes) buffer.recvSize := by
        rwa [List.length_take, size] at long
      rw [RecvBuffer.content, List.take_take, typeField, u16At, field_at_take _ _ 2 2 four]
      rfl
    · rw [RecvBuffer.content, List.take_take, Nat.min_eq_left (Nat.not_lt.mp inside), List.drop_take]
      rfl

end Content

section Loops

theorem process_buffer_extracts (buffer left : RecvBuffer) (packets : List Packet) (processed : ProcessBuffer buffer packets left) :
    ∃ frames, Framing.Extracts packetFormat buffer.content frames left.content ∧ List.Forall₂ Reads packets frames := by
  induction processed with
  | wait buffer stop => exact ⟨[], .wait buffer.content ((process_once_none buffer).mp stop), .nil⟩
  | turn buffer packet rest packets left front _ ih =>
      obtain ⟨frame, cut, reads⟩ := process_once_some buffer packet rest front
      obtain ⟨frames, extracted, others⟩ := ih
      exact ⟨frame :: frames, .cut _ frame rest.content frames _ cut extracted, .cons reads others⟩

theorem extracts_process_buffer (stream left : Bytes) (frames : List Bytes)
    (extracted : Framing.Extracts packetFormat stream frames left) (buffer : RecvBuffer) (same : buffer.content = stream) :
    ∃ packets rest, ProcessBuffer buffer packets rest ∧ rest.content = left ∧ List.Forall₂ Reads packets frames := by
  induction extracted generalizing buffer with
  | wait stream stop => exact ⟨[], buffer, .wait buffer ((process_once_none buffer).mpr (same ▸ stop)), same, .nil⟩
  | cut stream frame rest frames left front _ ih =>
      cases turn : processOnce buffer with
      | none =>
          have stop := (process_once_none buffer).mp turn
          rw [same, front] at stop
          exact absurd stop nofun
      | some pair =>
          obtain ⟨packet, behind⟩ := pair
          obtain ⟨frame', cut, reads⟩ := process_once_some buffer packet behind turn
          rw [same, front] at cut
          obtain ⟨rfl, after⟩ := Prod.mk.inj (Option.some.inj cut)
          obtain ⟨packets, last, processed, leftover, others⟩ := ih behind after.symm
          exact ⟨packet :: packets, last, .turn buffer packet behind packets last turn processed, leftover, .cons reads others⟩

-- TcpClient::ProcessPackets on its vector.
inductive ProcessPackets : Bytes → List Packet → Bytes → Prop where
  | wait (recvBuffer : Bytes) (stop : recvBuffer.length < headerSize ∨ recvBuffer.length < lengthField recvBuffer) :
      ProcessPackets recvBuffer [] recvBuffer
  | turn (recvBuffer : Bytes) (packets : List Packet) (left : Bytes)
      (whole : ¬ (recvBuffer.length < headerSize ∨ recvBuffer.length < lengthField recvBuffer))
      (more : ProcessPackets (recvBuffer.drop (lengthField recvBuffer)) packets left) :
      ProcessPackets recvBuffer (⟨lengthField recvBuffer, typeField recvBuffer, recvBuffer.drop headerSize⟩ :: packets) left

theorem client_reads (recvBuffer : Bytes) (inside : lengthField recvBuffer ≤ recvBuffer.length) :
    Reads ⟨lengthField recvBuffer, typeField recvBuffer, recvBuffer.drop headerSize⟩ (recvBuffer.take (lengthField recvBuffer)) where
  length := by
    rw [List.length_take, Nat.min_eq_left inside]
  type := by
    intro long
    have four : headerSize ≤ lengthField recvBuffer := le_trans long (List.length_take_le _ _)
    rw [typeField, typeField, u16At, u16At, field_at_take _ _ 2 2 four]
  payload := List.drop_take.symm

theorem process_packets_extracts (recvBuffer left : Bytes) (packets : List Packet)
    (processed : ProcessPackets recvBuffer packets left) :
    ∃ frames, Framing.Extracts packetFormat recvBuffer frames left ∧ List.Forall₂ Reads packets frames := by
  induction processed with
  | wait recvBuffer stop => exact ⟨[], .wait recvBuffer ((Framing.next_none_iff packetFormat recvBuffer).mpr stop), .nil⟩
  | turn recvBuffer packets left whole _ ih =>
      obtain ⟨frames, extracted, reads⟩ := ih
      obtain ⟨complete, inside⟩ := not_or.mp whole
      have front : Framing.next packetFormat recvBuffer =
          some (recvBuffer.take (lengthField recvBuffer), recvBuffer.drop (lengthField recvBuffer)) :=
        (Framing.next_some_iff packetFormat _ _ _).mpr ⟨Nat.not_lt.mp complete, Nat.not_lt.mp inside, rfl, rfl⟩
      exact ⟨_, .cut recvBuffer _ _ frames left front extracted, .cons (client_reads recvBuffer (Nat.not_lt.mp inside)) reads⟩

theorem extracts_process_packets (recvBuffer left : Bytes) (frames : List Bytes)
    (extracted : Framing.Extracts packetFormat recvBuffer frames left) :
    ∃ packets, ProcessPackets recvBuffer packets left ∧ List.Forall₂ Reads packets frames := by
  induction extracted with
  | wait recvBuffer stop => exact ⟨[], .wait recvBuffer ((Framing.next_none_iff packetFormat recvBuffer).mp stop), .nil⟩
  | cut recvBuffer frame rest frames left front _ ih =>
      obtain ⟨packets, processed, reads⟩ := ih
      obtain ⟨complete, inside, rfl, rfl⟩ := (Framing.next_some_iff packetFormat _ _ _).mp front
      have whole : ¬ (recvBuffer.length < headerSize ∨ recvBuffer.length < lengthField recvBuffer) :=
        not_or.mpr ⟨Nat.not_lt.mpr complete, Nat.not_lt.mpr inside⟩
      exact ⟨_, .turn recvBuffer packets left whole processed, .cons (client_reads recvBuffer inside) reads⟩

theorem reads_nonempty (packets : List Packet) (frames : List Bytes) (reads : List.Forall₂ Reads packets frames)
    (nonempty : ∀ frame ∈ frames, 0 < frame.length) : ∀ packet ∈ packets, 0 < packet.length := by
  induction reads with
  | nil => exact nofun
  | cons first _ ih =>
      intro packet member
      rcases List.mem_cons.mp member with same | later
      · rw [same, first.length]
        exact nonempty _ List.mem_cons_self
      · exact ih (fun frame listed => nonempty frame (List.mem_cons_of_mem _ listed)) packet later

-- A peer that declares length zero holds both loops for ever; nothing else does.
theorem extraction_loops_end_iff (buffer : RecvBuffer) (recvBuffer : Bytes) :
    ((∃ packets left, ProcessBuffer buffer packets left ∧ ∀ packet ∈ packets, 0 < packet.length) ↔
      ¬ Framing.MeetsZero packetFormat buffer.content) ∧
    ((∃ packets left, ProcessPackets recvBuffer packets left ∧ ∀ packet ∈ packets, 0 < packet.length) ↔
      ¬ Framing.MeetsZero packetFormat recvBuffer) := by
  constructor
  · rw [← Framing.extracts_iff_no_zero]
    constructor
    · rintro ⟨packets, left, processed, _⟩
      obtain ⟨frames, extracted, _⟩ := process_buffer_extracts buffer left packets processed
      exact ⟨frames, left.content, extracted⟩
    · rintro ⟨frames, left, extracted⟩
      obtain ⟨packets, rest, processed, _, reads⟩ := extracts_process_buffer buffer.content left frames extracted buffer rfl
      have nonempty := Framing.extracts_frames_nonempty packetFormat buffer.content frames left extracted
      exact ⟨packets, rest, processed, reads_nonempty packets frames reads nonempty⟩
  · rw [← Framing.extracts_iff_no_zero]
    constructor
    · rintro ⟨packets, left, processed, _⟩
      obtain ⟨frames, extracted, _⟩ := process_packets_extracts recvBuffer left packets processed
      exact ⟨frames, left, extracted⟩
    · rintro ⟨frames, left, extracted⟩
      obtain ⟨packets, processed, reads⟩ := extracts_process_packets recvBuffer left frames extracted
      have nonempty := Framing.extracts_frames_nonempty packetFormat recvBuffer frames left extracted
      exact ⟨packets, left, processed, reads_nonempty packets frames reads nonempty⟩

theorem zero_header_never_ends :
    (¬ ∃ packets left, ProcessBuffer (RecvBuffer.empty.received [0, 0, 0, 0] (by decide)) packets left) ∧
      ¬ ∃ packets left, ProcessPackets [0, 0, 0, 0] packets left := by
  have zero : Framing.MeetsZero packetFormat [0, 0, 0, 0] := .here _ (by decide) (by decide)
  constructor
  · rintro ⟨packets, left, processed⟩
    obtain ⟨frames, extracted, _⟩ := process_buffer_extracts _ left packets processed
    rw [content_received] at extracted
    exact Framing.no_zero_of_extracts packetFormat _ frames _ extracted zero
  · rintro ⟨packets, left, processed⟩
    obtain ⟨frames, extracted, _⟩ := process_packets_extracts _ left packets processed
    exact Framing.no_zero_of_extracts packetFormat _ frames left extracted zero

end Loops

-- A message as the program hands it to Send: type and payload.
structure Posted where
  type : UInt16
  payload : Bytes
deriving DecidableEq, Repr

def headerBytes (length type : UInt16) : Bytes := leBytes 2 length.toNat ++ leBytes 2 type.toNat

-- Session::Send and TcpClient::Send put the same bytes on the wire.
def Posted.frame (message : Posted) : Bytes :=
  headerBytes (UInt16.ofNat (headerSize + message.payload.length)) message.type ++ message.payload

def Posted.Fits (message : Posted) : Prop := headerSize + message.payload.length ≤ maxRecvBufferSize

instance (message : Posted) : Decidable message.Fits := inferInstanceAs (Decidable (_ ≤ _))

section RoundTrip

theorem le_bytes_length (width value : Nat) : (leBytes width value).length = width := by
  induction width generalizing value with
  | zero => rfl
  | succ width ih => rw [leBytes, List.length_cons, ih]

theorem le_nat_bytes (width value : Nat) : leNat (leBytes width value) = value % 256 ^ width := by
  induction width generalizing value with
  | zero => rw [pow_zero, Nat.mod_one]; rfl
  | succ width ih =>
      have split : value % (256 * 256 ^ width) = value % 256 + 256 * (value / 256 % 256 ^ width) := Nat.mod_mul
      rw [leBytes, leNat, ih, UInt8.toNat_ofNat', pow_succ' 256 width, split]

theorem le_nat_bytes_of_lt (width value : Nat) (small : value < 256 ^ width) : leNat (leBytes width value) = value := by
  rw [le_nat_bytes, Nat.mod_eq_of_lt small]

theorem header_length (length type : UInt16) : (headerBytes length type).length = headerSize := by
  rw [headerBytes, List.length_append, le_bytes_length, le_bytes_length]
  rfl

theorem header_length_field (length type : UInt16) (rest : Bytes) : lengthField (headerBytes length type ++ rest) = length.toNat := by
  have first : fieldAt (headerBytes length type ++ rest) 0 2 = leBytes 2 length.toNat := by
    rw [headerBytes, List.append_assoc, fieldAt, List.drop_zero]
    exact List.take_left' (le_bytes_length 2 _)
  rw [lengthField, first, le_nat_bytes_of_lt _ _ (UInt16.toNat_lt _)]

theorem header_type_field (length type : UInt16) (rest : Bytes) : typeField (headerBytes length type ++ rest) = type := by
  have second : fieldAt (headerBytes length type ++ rest) 2 2 = leBytes 2 type.toNat := by
    rw [headerBytes, List.append_assoc, fieldAt, List.drop_left' (le_bytes_length 2 _)]
    exact List.take_left' (le_bytes_length 2 _)
  rw [typeField, u16At, second, le_nat_bytes_of_lt _ _ (UInt16.toNat_lt _), UInt16.ofNat_toNat]

theorem header_payload (length type : UInt16) (rest : Bytes) : (headerBytes length type ++ rest).drop headerSize = rest :=
  List.drop_left' (header_length length type)

theorem frame_length (message : Posted) : message.frame.length = headerSize + message.payload.length := by
  rw [Posted.frame, List.length_append, header_length]

theorem frame_length_field (message : Posted) (fits : message.Fits) :
    lengthField message.frame = headerSize + message.payload.length := by
  have small : headerSize + message.payload.length < 2 ^ 16 := lt_of_le_of_lt fits (by decide)
  rw [Posted.frame, header_length_field, UInt16.toNat_ofNat', Nat.mod_eq_of_lt small]

theorem frame_type_field (message : Posted) : typeField message.frame = message.type :=
  header_type_field _ message.type message.payload

theorem frame_payload (message : Posted) : message.frame.drop headerSize = message.payload :=
  header_payload _ message.type message.payload

theorem frame_well_formed (message : Posted) (fits : message.Fits) : Framing.WellFormed packetFormat message.frame := by
  have whole := frame_length message
  refine ⟨?_, ?_, ?_⟩
  · exact le_of_le_of_eq (Nat.le_add_right _ _) whole.symm
  · rw [whole, headerSize]
    omega
  · exact (frame_length_field message fits).trans whole.symm

theorem frames_well_formed (messages : List Posted) (fit : ∀ message ∈ messages, message.Fits) :
    ∀ frame ∈ messages.map Posted.frame, Framing.WellFormed packetFormat frame := by
  intro frame member
  obtain ⟨message, posted, rfl⟩ := List.mem_map.mp member
  exact frame_well_formed message (fit message posted)

def Packet.posted (packet : Packet) : Posted := ⟨packet.type, packet.payload⟩

theorem reads_posted (packet : Packet) (message : Posted) (reads : Reads packet message.frame) : packet.posted = message := by
  have long : headerSize ≤ message.frame.length := by
    rw [frame_length]
    exact Nat.le_add_right _ _
  have sameType : packet.type = message.type := (reads.type long).trans (frame_type_field message)
  have samePayload : packet.payload = message.payload := reads.payload.trans (frame_payload message)
  rw [Packet.posted, sameType, samePayload]

theorem reads_all_posted (packets : List Packet) (messages : List Posted)
    (reads : List.Forall₂ Reads packets (messages.map Posted.frame)) : packets.map Packet.posted = messages := by
  induction messages generalizing packets with
  | nil =>
      cases reads with
      | nil => rfl
  | cons message messages ih =>
      cases reads with
      | cons first others => rw [List.map_cons, reads_posted _ message first, ih _ others]

end RoundTrip

end MmorpgSimulator
