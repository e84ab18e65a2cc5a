import MmorpgSimulator.RecvBuffer
import MmorpgSimulator.Ledger

set_option autoImplicit false

namespace MmorpgSimulator

-- packetCallback_: the payload pointer reaches to the end of the array, and no
-- handler looks at header.length.
def dispatch (data : GameData) (s : ServerState) (sid : SessionId) (packet : Packet) : ServerState :=
  handlePacket data s sid packet.type packet.memory

-- How many payload bytes can make a difference to each handler. The last byte of
-- a chat message never does: strncpy_s copies 127 of the 128.
def consulted : PacketType → Nat
  | .csLogin => 64
  | .csCharCreate => 21
  | .csCharSelect => 8
  | .csMove => 2
  | .csAttack => 8
  | .csChat => 148
  | .csItemUse => 1
  | .csItemEquip => 1
  | .csShopBuy => 2
  | .csShopSell => 1
  | .csQuestAccept => 2
  | .csQuestComplete => 2
  | .csPartyInvite => 20
  | .csPartyAccept => 1
  | _ => 0

def Confined (type : PacketType) (length : Nat) : Prop :=
  ∀ (data : GameData) (s : ServerState) (sid : SessionId) (buffer other rest rest' : RecvBuffer) (packet packet' : Packet),
    processOnce buffer = some (packet, rest) → processOnce other = some (packet', rest') →
    packet.type = type.code → packet.length = length → buffer.bytes.take length = other.bytes.take length →
    dispatch data s sid packet = dispatch data s sid packet'

section Enough

variable (payload : Bytes)

theorem u8_at_take (count offset : Nat) (inside : offset + 1 ≤ count) : u8At (payload.take count) offset = u8At payload offset := by
  rw [u8At, u8At, field_at_take payload count offset 1 inside]

theorem u16_at_take (count offset : Nat) (inside : offset + 2 ≤ count) : u16At (payload.take count) offset = u16At payload offset := by
  rw [u16At, u16At, field_at_take payload count offset 2 inside]

theorem u64_at_take (count offset : Nat) (inside : offset + 8 ≤ count) : u64At (payload.take count) offset = u64At payload offset := by
  rw [u64At, u64At, field_at_take payload count offset 8 inside]

theorem strncpy_c_string (field : Bytes) (count : Nat) : strncpyS (cString field) count = cString (field.take count) :=
  List.take_takeWhile

theorem chat_message_take (field : Bytes) :
    strncpyS (cString (field.take 127)) 127 = strncpyS (cString field) 127 := by
  rw [strncpy_c_string, strncpy_c_string, List.take_take, Nat.min_self]

theorem on_chat_message (s : ServerState) (sid : SessionId) (channel : UInt8) (targetName message message' : Bytes)
    (same : strncpyS message 127 = strncpyS message' 127) :
    onChat s sid ⟨channel, targetName, message⟩ = onChat s sid ⟨channel, targetName, message'⟩ := by
  simp only [onChat, same]

theorem decode_take (type : PacketType) (plain : type ≠ .csChat) :
    decodeRequest (payload.take (consulted type)) type = decodeRequest payload type := by
  cases type with
  | csChat => exact absurd rfl plain
  | csLogin => rw [decodeRequest, decodeRequest, field_at_take payload _ 0 64 (by decide)]
  | csCharCreate =>
      rw [decodeRequest, decodeRequest, field_at_take payload _ 0 21 (by decide), u8_at_take payload _ 20 (by decide)]
  | csCharSelect => rw [decodeRequest, decodeRequest, u64_at_take payload _ 0 (by decide)]
  | csMove => rw [decodeRequest, decodeRequest, u8_at_take payload _ 0 (by decide), u8_at_take payload _ 1 (by decide)]
  | csAttack => rw [decodeRequest, decodeRequest, u64_at_take payload _ 0 (by decide)]
  | csItemUse => rw [decodeRequest, decodeRequest, u8_at_take payload _ 0 (by decide)]
  | csItemEquip => rw [decodeRequest, decodeRequest, u8_at_take payload _ 0 (by decide)]
  | csShopBuy => rw [decodeRequest, decodeRequest, u16_at_take payload _ 0 (by decide)]
  | csShopSell => rw [decodeRequest, decodeRequest, u8_at_take payload _ 0 (by decide)]
  | csQuestAccept => rw [decodeRequest, decodeRequest, u16_at_take payload _ 0 (by decide)]
  | csQuestComplete => rw [decodeRequest, decodeRequest, u16_at_take payload _ 0 (by decide)]
  | csPartyInvite => rw [decodeRequest, decodeRequest, field_at_take payload _ 0 20 (by decide)]
  | csPartyAccept => rw [decodeRequest, decodeRequest, u8_at_take payload _ 0 (by decide)]
  | _ => rfl

theorem handler_for_code (type : PacketType) (known : type ∈ registered) : handlerFor type.code = some type := by
  have every : ∀ type ∈ registered, handlerFor type.code = some type := by decide
  exact every type known

theorem chat_take (data : GameData) (s : ServerState) (sid : SessionId) :
    handlePacket data s sid PacketType.csChat.code (payload.take 148) =
      handlePacket data s sid PacketType.csChat.code payload := by
  have message : fieldAt (payload.take 148) 21 128 = (fieldAt payload 21 128).take 127 := by
    rw [fieldAt, fieldAt, List.drop_take, List.take_take, List.take_take]
    rfl
  have same := chat_message_take (fieldAt payload 21 128)
  rw [← message] at same
  simp only [handlePacket, handler_for_code .csChat (by decide), Option.bind_some, decodeRequest, handle]
  rw [u8_at_take payload 148 0 (by decide), field_at_take payload 148 1 20 (by decide)]
  exact on_chat_message s sid _ _ _ _ same

theorem handle_packet_take (data : GameData) (s : ServerState) (sid : SessionId) (type : PacketType) (known : type ∈ registered) :
    handlePacket data s sid type.code (payload.take (consulted type)) = handlePacket data s sid type.code payload := by
  by_cases chat : type = .csChat
  · rw [chat]
    exact chat_take payload data s sid
  · simp only [handlePacket, handler_for_code type known, Option.bind_some, decode_take payload type chat]

theorem handle_packet_agree (data : GameData) (s : ServerState) (sid : SessionId) (type : PacketType) (known : type ∈ registered)
    (payload' : Bytes) (agree : payload.take (consulted type) = payload'.take (consulted type)) :
    handlePacket data s sid type.code payload = handlePacket data s sid type.code payload' := by
  rw [← handle_packet_take payload data s sid type known, agree, handle_packet_take payload' data s sid type known]

theorem process_once_packet (buffer rest : RecvBuffer) (packet : Packet) (front : processOnce buffer = some (packet, rest)) :
    packet = buffer.packet := by
  rw [processOnce] at front
  split at front
  · exact absurd front (by simp)
  · exact (Prod.mk.inj (Option.some.inj front)).1.symm

theorem process_once_whole (buffer : RecvBuffer)
    (whole : ¬ (buffer.recvSize < headerSize ∨ buffer.recvSize < lengthField buffer.bytes)) :
    ∃ rest, processOnce buffer = some (buffer.packet, rest) :=
  ⟨_, dif_neg whole⟩

theorem confined_of_covered (type : PacketType) (known : type ∈ registered) (length : Nat)
    (covered : headerSize + consulted type ≤ length) : Confined type length := by
  intro data s sid buffer other rest rest' packet packet' front front' typed _ agree
  have same := process_once_packet buffer rest packet front
  have same' := process_once_packet other rest' packet' front'
  have inner (count : Nat) (inside : count ≤ length) : buffer.bytes.take count = other.bytes.take count := by
    rw [← Nat.min_eq_left inside, ← List.take_take, ← List.take_take, agree]
  have header : headerSize ≤ length := le_trans (Nat.le_add_right _ _) covered
  have typed' : packet'.type = type.code := by
    rw [← typed, same, same']
    change typeField other.bytes = typeField buffer.bytes
    rw [typeField, typeField, u16At, u16At, ← field_at_take other.bytes headerSize 2 2 (by decide), ← inner headerSize header,
      field_at_take buffer.bytes headerSize 2 2 (by decide)]
  have payloads : packet.memory.take (consulted type) = packet'.memory.take (consulted type) := by
    rw [same, same']
    change (buffer.bytes.drop headerSize).take (consulted type) = (other.bytes.drop headerSize).take (consulted type)
    rw [List.take_drop, List.take_drop, inner _ covered]
  rw [dispatch, dispatch, typed, typed']
  exact handle_packet_agree packet.memory data s sid type known packet'.memory payloads

end Enough

section Probes

def loaded (front : Bytes) (last : UInt8) (room : front.length + 1 ≤ maxRecvBufferSize) : RecvBuffer :=
  RecvBuffer.empty.received (front ++ [last]) (by rw [List.length_append]; exact le_of_eq_of_le (Nat.zero_add _) room)

def unused (used : Nat) : Bytes := (List.replicate maxRecvBufferSize 0).drop used

variable (front : Bytes) (last other : UInt8) (room : front.length + 1 ≤ maxRecvBufferSize)

theorem loaded_bytes : (loaded front last room).bytes = front ++ (last :: unused (front.length + 1)) := by
  simp [loaded, RecvBuffer.received, RecvBuffer.empty, unused]

theorem loaded_size : (loaded front last room).recvSize = front.length + 1 := by
  simp [loaded, RecvBuffer.received, RecvBuffer.empty]

theorem loaded_once (complete : headerSize ≤ front.length + 1)
    (declared : lengthField (loaded front last room).bytes ≤ front.length + 1) :
    ∃ rest, processOnce (loaded front last room) = some ((loaded front last room).packet, rest) := by
  have size := loaded_size front last room
  have whole : ¬ ((loaded front last room).recvSize < headerSize ∨
      (loaded front last room).recvSize < lengthField (loaded front last room).bytes) := by
    rw [size]
    omega
  exact process_once_whole (loaded front last room) whole

theorem same_effect_of_confined (type : PacketType) (length : Nat) (confined : Confined type length)
    (complete : headerSize ≤ front.length + 1) (inside : length ≤ front.length)
    (declared : lengthField (loaded front last room).bytes = length)
    (declared' : lengthField (loaded front other room).bytes = length)
    (typed : typeField (loaded front last room).bytes = type.code) (data : GameData) (s : ServerState) (sid : SessionId) :
    dispatch data s sid (loaded front last room).packet = dispatch data s sid (loaded front other room).packet := by
  obtain ⟨rest, turn⟩ := loaded_once front last room complete (by omega)
  obtain ⟨rest', turn'⟩ := loaded_once front other room complete (by omega)
  have agree : (loaded front last room).bytes.take length = (loaded front other room).bytes.take length := by
    rw [loaded_bytes, loaded_bytes, List.take_append_of_le_length inside, List.take_append_of_le_length inside]
  exact confined data s sid _ _ rest rest' _ _ turn turn' typed declared agree

theorem loaded_dispatch (type : PacketType) (known : type ∈ registered) (length : UInt16) (common : Bytes)
    (width : common.length + 1 = consulted type) (room : (headerBytes length type.code ++ common).length + 1 ≤ maxRecvBufferSize)
    (data : GameData) (s : ServerState) (sid : SessionId) :
    dispatch data s sid (loaded (headerBytes length type.code ++ common) last room).packet =
      handlePacket data s sid type.code (common ++ [last]) := by
  have bytes := loaded_bytes (headerBytes length type.code ++ common) last room
  rw [List.append_assoc] at bytes
  have typed : (loaded (headerBytes length type.code ++ common) last room).packet.type = type.code := by
    change typeField (loaded (headerBytes length type.code ++ common) last room).bytes = type.code
    rw [bytes, header_type_field]
  have memory : (loaded (headerBytes length type.code ++ common) last room).packet.memory =
      (common ++ [last]) ++ unused ((headerBytes length type.code ++ common).length + 1) := by
    change (loaded (headerBytes length type.code ++ common) last room).bytes.drop headerSize = _
    rw [bytes, header_payload, List.append_assoc, List.singleton_append]
  have reach : (common ++ [last]).length = consulted type := by rw [List.length_append, List.length_singleton, width]
  rw [dispatch, typed, memory]
  refine handle_packet_agree _ data s sid type known _ ?_
  rw [List.take_append_of_le_length (le_of_eq reach.symm)]

def probeData : GameData where
  items := [{ id := 1, name := [112], type := consumableType, hp := 5 }]
  dropTable := []
  totalWeight := 0
  quests := []
  stdHash := List.length
  characterCreateArguments := fun name charType => some (name, charType)

-- Session 1 has an item, an NPC in reach, a party with session 3 and an
-- invitation from session 2, whose name is as long as names get.
def probed : ServerState :=
  { boot twoCharacters (fun _ => 10) with
    sessions := (((∅ : Std.ExtTreeMap SessionId Session).insert 1 { player := { accountUid := 1, charUid := 1, loggedIn := true } }).insert 2
      { player := { name := List.replicate 19 97, loggedIn := true } }).insert 3 {}
    party :=
      { nextPartyId := 2
        parties := (∅ : Std.ExtTreeMap UInt32 Party).insert 1 ⟨1, [1, 3]⟩
        playerParty := ((∅ : Std.ExtTreeMap SessionId UInt32).insert 1 1).insert 3 1
        pendingInvites := (∅ : Std.ExtTreeMap SessionId SessionId).insert 1 2 }
    inventories := (∅ : Std.ExtTreeMap SessionId Inventory).insert 1 (({} : Inventory).setSlot 0 ⟨1, 1⟩) }

-- A payload but for its last consulted byte, and two values of that byte which
-- the handler tells apart.
structure Probe where
  common : Bytes
  last : UInt8
  other : UInt8

def probe : PacketType → Probe
  | .csLogin => ⟨List.replicate 63 97, 97, 0⟩
  | .csCharCreate => ⟨List.replicate 20 0, 1, 2⟩
  | .csCharSelect => ⟨[1, 0, 0, 0, 0, 0, 0], 0, 1⟩
  | .csMove => ⟨[0], 0, 1⟩
  | .csAttack => ⟨[1, 0, 0, 0, 0, 0, 0], 0, 1⟩
  | .csChat => ⟨List.replicate 21 0 ++ List.replicate 126 97, 97, 0⟩
  | .csQuestAccept => ⟨[1], 0, 1⟩
  | .csQuestComplete => ⟨[1], 0, 1⟩
  | .csShopBuy => ⟨[1], 0, 1⟩
  | .csPartyInvite => ⟨List.replicate 19 97, 0, 97⟩
  | _ => ⟨[], 0, 1⟩

def repliesTo (type : PacketType) (payload : Bytes) : List (SessionId × Message) :=
  (handlePacket probeData probed 1 type.code payload).sent

theorem probe_tells (type : PacketType) (known : type ∈ registered) (loud : 0 < consulted type) :
    (probe type).common.length + 1 = consulted type ∧
      repliesTo type ((probe type).common ++ [(probe type).last]) ≠ repliesTo type ((probe type).common ++ [(probe type).other]) := by
  have every : ∀ type ∈ registered, 0 < consulted type →
      (probe type).common.length + 1 = consulted type ∧
        repliesTo type ((probe type).common ++ [(probe type).last]) ≠ repliesTo type ((probe type).common ++ [(probe type).other]) := by
    decide +kernel
  exact every type known loud

-- The type that a frame shorter than its header takes from the bytes behind it.
def foreign (code : UInt16) : UInt16 := UInt16.ofNat (code.toNat % 256 + 256 * 0xEE)

theorem foreign_dropped (type : PacketType) (known : type ∈ registered) (silent : consulted type = 0) :
    handlerFor (foreign type.code) = none ∧ leBytes 2 (foreign type.code).toNat = [UInt8.ofNat type.code.toNat, 0xEE] ∧
      repliesTo type [] ≠ [] := by
  have every : ∀ type ∈ registered, consulted type = 0 →
      handlerFor (foreign type.code) = none ∧ leBytes 2 (foreign type.code).toNat = [UInt8.ofNat type.code.toNat, 0xEE] ∧
        repliesTo type [] ≠ [] := by
    decide +kernel
  exact every type known silent

theorem not_confined_of_loud (type : PacketType) (known : type ∈ registered) (loud : 0 < consulted type) (length : Nat)
    (short : length < headerSize + consulted type) : ¬ Confined type length := by
  intro confined
  obtain ⟨width, differ⟩ := probe_tells type known loud
  have most : consulted type ≤ 148 := by cases type <;> decide
  have small : length < 2 ^ 16 := by rw [headerSize] at short; omega
  have size : (headerBytes (UInt16.ofNat length) type.code ++ (probe type).common).length = headerSize + (probe type).common.length := by
    rw [List.length_append, header_length]
  have room : (headerBytes (UInt16.ofNat length) type.code ++ (probe type).common).length + 1 ≤ maxRecvBufferSize := by
    rw [size, headerSize, maxRecvBufferSize]
    omega
  have declared (byte : UInt8) :
      lengthField (loaded (headerBytes (UInt16.ofNat length) type.code ++ (probe type).common) byte room).bytes = length := by
    rw [loaded_bytes, List.append_assoc, header_length_field, UInt16.toNat_ofNat', Nat.mod_eq_of_lt small]
  have typed :
      typeField (loaded (headerBytes (UInt16.ofNat length) type.code ++ (probe type).common) (probe type).last room).bytes = type.code := by
    rw [loaded_bytes, List.append_assoc, header_type_field]
  have same := same_effect_of_confined _ (probe type).last (probe type).other room type length confined
    (by omega) (by omega) (declared _) (declared _) typed probeData probed 1
  rw [loaded_dispatch _ type known _ _ width, loaded_dispatch _ type known _ _ width] at same
  exact differ (congrArg ServerState.sent same)

theorem header_bytes_split (length type : UInt16) :
    headerBytes length type = (leBytes 2 length.toNat ++ [UInt8.ofNat type.toNat]) ++ [UInt8.ofNat (type.toNat / 256)] := rfl

theorem not_confined_of_silent (type : PacketType) (known : type ∈ registered) (silent : consulted type = 0) (length : Nat)
    (short : length < headerSize) : ¬ Confined type length := by
  intro confined
  obtain ⟨dropped, bytes, heard⟩ := foreign_dropped type known silent
  have small : length < 2 ^ 16 := lt_trans short (by decide)
  have size : (leBytes 2 (UInt16.ofNat length).toNat ++ [UInt8.ofNat type.code.toNat]).length = 3 := rfl
  have ours : (loaded (leBytes 2 (UInt16.ofNat length).toNat ++ [UInt8.ofNat type.code.toNat])
      (UInt8.ofNat (type.code.toNat / 256)) (by rw [size]; decide)).bytes =
      headerBytes (UInt16.ofNat length) type.code ++ unused 4 := by
    rw [loaded_bytes, size, header_bytes_split, List.append_assoc _ [UInt8.ofNat (type.code.toNat / 256)], List.singleton_append]
  have theirs : (loaded (leBytes 2 (UInt16.ofNat length).toNat ++ [UInt8.ofNat type.code.toNat]) 0xEE (by rw [size]; decide)).bytes =
      headerBytes (UInt16.ofNat length) (foreign type.code) ++ unused 4 := by
    rw [loaded_bytes, size, headerBytes, bytes, List.append_assoc, List.append_assoc, List.singleton_append, List.cons_append,
      List.singleton_append]
  have same := same_effect_of_confined _ (UInt8.ofNat (type.code.toNat / 256)) 0xEE (by rw [size]; decide) type length confined
    (by rw [size]; decide) (by rw [size]; exact Nat.le_of_lt_succ short)
    (by rw [ours, header_length_field, UInt16.toNat_ofNat', Nat.mod_eq_of_lt small])
    (by rw [theirs, header_length_field, UInt16.toNat_ofNat', Nat.mod_eq_of_lt small])
    (by rw [ours, header_type_field]) probeData probed 1
  simp only [dispatch, RecvBuffer.packet, ours, theirs, header_type_field, header_payload] at same
  rw [← handle_packet_take (unused 4) probeData probed 1 type known, silent, List.take_zero] at same
  have ignored (memory : Bytes) : handlePacket probeData probed 1 (foreign type.code) memory = probed := by
    rw [handlePacket, dropped]
    rfl
  have quiet : probed.sent = [] := rfl
  rw [ignored] at same
  exact heard ((congrArg ServerState.sent same).trans quiet)

end Probes

theorem frame_confined_iff (type : PacketType) (known : type ∈ registered) (length : Nat) :
    Confined type length ↔ headerSize + consulted type ≤ length := by
  constructor
  · intro confined
    by_contra short
    rcases Nat.eq_zero_or_pos (consulted type) with silent | loud
    · exact not_confined_of_silent type known silent length (by omega) confined
    · exact not_confined_of_loud type known loud length (by omega) confined
  · exact confined_of_covered type known length

theorem shop_buy_confined_from_six : Confined .csShopBuy 6 ∧ ¬ Confined .csShopBuy 5 := by
  constructor
  · exact (frame_confined_iff .csShopBuy (by decide) 6).mpr (by decide)
  · intro confined
    exact absurd ((frame_confined_iff .csShopBuy (by decide) 5).mp confined) (by decide)

def emptyPurchase (next : Bytes) (room : ([4, 0, 3, 8] ++ next).length ≤ maxRecvBufferSize) : RecvBuffer :=
  RecvBuffer.empty.received ([4, 0, 3, 8] ++ next) (le_of_eq_of_le (Nat.zero_add _) room)

theorem next_frame_names_item :
    ∃ packet packet' rest rest', processOnce (emptyPurchase [1, 0] (by decide)) = some (packet, rest) ∧
      processOnce (emptyPurchase [9, 0] (by decide)) = some (packet', rest') ∧
      packet.type = PacketType.csShopBuy.code ∧ packet.length = 4 ∧
      (emptyPurchase [1, 0] (by decide)).bytes.take 4 = (emptyPurchase [9, 0] (by decide)).bytes.take 4 ∧
      ((dispatch shopData shopper 1 packet).player 1).gold = 90 ∧ ((dispatch shopData shopper 1 packet').player 1).gold = 100 := by
  obtain ⟨rest, turn⟩ := process_once_whole (emptyPurchase [1, 0] (by decide)) (by decide +kernel)
  obtain ⟨rest', turn'⟩ := process_once_whole (emptyPurchase [9, 0] (by decide)) (by decide +kernel)
  have bought : ((dispatch shopData shopper 1 (emptyPurchase [1, 0] (by decide)).packet).player 1).gold = 90 := by decide +kernel
  have refused : ((dispatch shopData shopper 1 (emptyPurchase [9, 0] (by decide)).packet).player 1).gold = 100 := by decide +kernel
  have agree : (emptyPurchase [1, 0] (by decide)).bytes.take 4 = (emptyPurchase [9, 0] (by decide)).bytes.take 4 := rfl
  have typed : (emptyPurchase [1, 0] (by decide)).packet.type = PacketType.csShopBuy.code := rfl
  have length : (emptyPurchase [1, 0] (by decide)).packet.length = 4 := rfl
  exact ⟨_, _, rest, rest', turn, turn', typed, length, agree, bought, refused⟩

end MmorpgSimulator
