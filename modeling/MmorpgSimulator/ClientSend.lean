import MmorpgSimulator.Segmentation
import MmorpgSimulator.Library.Run

set_option autoImplicit false

namespace MmorpgSimulator

-- What the non-blocking send() comes back with: how many of the bytes it was
-- given it has taken, or SOCKET_ERROR (WSAEWOULDBLOCK among others).
inductive SendResult where
  | sent (count : Nat)
  | socketError
deriving DecidableEq, Repr

def SendResult.accepted (bytes : Bytes) : SendResult → Bytes
  | .sent count => bytes.take count
  | .socketError => []

-- A call of TcpClient::Send with what its send() of the header and its send() of
-- the payload return. Every caller passes a packet and its size, or nullptr and 0.
structure SendCall where
  message : Posted
  header : SendResult
  payload : SendResult
deriving DecidableEq, Repr

def SendCall.headerBytes (call : SendCall) : Bytes :=
  MmorpgSimulator.headerBytes (UInt16.ofNat (headerSize + call.message.payload.length)) call.message.type

-- The sending side of a client: the bytes the socket has taken, and all that send()
-- was asked to take. Nothing is taken that was not asked for.
structure Uplink where
  sent : Bytes
  asked : Bytes
  bounded : sent.length ≤ asked.length
deriving DecidableEq

namespace Uplink

def fresh : Uplink := ⟨[], [], Nat.le_refl _⟩

theorem accepted_length (bytes : Bytes) (result : SendResult) : (result.accepted bytes).length ≤ bytes.length := by
  cases result with
  | sent count => exact List.length_take_le' count bytes
  | socketError => exact Nat.zero_le _

-- send(): its return value is not looked at.
def offer (uplink : Uplink) (bytes : Bytes) (result : SendResult) : Uplink where
  sent := uplink.sent ++ result.accepted bytes
  asked := uplink.asked ++ bytes
  bounded := by
    have fewer := accepted_length bytes result
    have before := uplink.bounded
    rw [List.length_append, List.length_append]
    omega

def send (uplink : Uplink) (call : SendCall) : Uplink :=
  let headed := uplink.offer call.headerBytes call.header
  if 0 < call.message.payload.length then headed.offer call.message.payload call.payload else headed

def Whole (uplink : Uplink) : Prop := uplink.sent <+: uplink.asked

instance (uplink : Uplink) : Decidable uplink.Whole := inferInstanceAs (Decidable (_ <+: _))

def missing (uplink : Uplink) : Bytes := uplink.asked.drop uplink.sent.length

-- A send() behind a gap takes what is missing there: nothing at all, or the same bytes
-- by coincidence.
def fitsGap (uplink : Uplink) (bytes : Bytes) (result : SendResult) : Prop :=
  uplink.missing ≠ [] ∧ result.accepted bytes <+: uplink.missing ++ bytes

def inPlace (uplink : Uplink) (bytes : Bytes) (result : SendResult) : Prop :=
  uplink.missing = [] ∨ uplink.fitsGap bytes result

def sendInPlace (uplink : Uplink) (call : SendCall) : Prop :=
  uplink.inPlace call.headerBytes call.header ∧
    (0 < call.message.payload.length →
      (uplink.offer call.headerBytes call.header).inPlace call.message.payload call.payload)

section Calls

variable (uplink : Uplink) (bytes : Bytes) (result : SendResult)

theorem accepted_prefix : result.accepted bytes <+: bytes := by
  cases result with
  | sent count => exact List.take_prefix count bytes
  | socketError => exact List.nil_prefix

theorem whole_split (whole : uplink.Whole) : uplink.asked = uplink.sent ++ uplink.missing := by
  obtain ⟨rest, split⟩ := whole
  rw [missing, ← split, List.drop_left]

theorem whole_before (whole : (uplink.offer bytes result).Whole) : uplink.Whole := by
  have longer : uplink.sent <+: uplink.asked ++ bytes := (List.prefix_append _ _).trans whole
  exact List.prefix_of_prefix_length_le longer (List.prefix_append _ _) uplink.bounded

theorem offer_whole_iff : (uplink.offer bytes result).Whole ↔ uplink.Whole ∧ uplink.inPlace bytes result := by
  constructor
  · intro whole
    have before := whole_before uplink bytes result whole
    refine ⟨before, ?_⟩
    by_cases gapless : uplink.missing = []
    · exact .inl gapless
    · have joined : uplink.sent ++ result.accepted bytes <+: uplink.asked ++ bytes := whole
      rw [whole_split uplink before, List.append_assoc] at joined
      exact .inr ⟨gapless, (List.prefix_append_right_inj uplink.sent).mp joined⟩
  · rintro ⟨whole, place⟩
    have continues : result.accepted bytes <+: uplink.missing ++ bytes := by
      rcases place with gapless | ⟨_, next⟩
      · rw [gapless]
        exact accepted_prefix bytes result
      · exact next
    change uplink.sent ++ result.accepted bytes <+: uplink.asked ++ bytes
    rw [whole_split uplink whole, List.append_assoc]
    exact (List.prefix_append_right_inj uplink.sent).mpr continues

variable (call : SendCall)

theorem send_whole_iff : (uplink.send call).Whole ↔ uplink.Whole ∧ uplink.sendInPlace call := by
  unfold send sendInPlace
  by_cases filled : 0 < call.message.payload.length
  · simp only [filled, if_true, forall_const]
    rw [offer_whole_iff, offer_whole_iff, and_assoc]
  · simp only [filled, if_false, false_implies, and_true]
    exact offer_whole_iff uplink call.headerBytes call.header

theorem send_asked : (uplink.send call).asked = uplink.asked ++ call.message.frame := by
  unfold send
  by_cases filled : 0 < call.message.payload.length
  · simp only [filled, if_true, offer, List.append_assoc]
    rfl
  · have empty : call.message.payload = [] := List.eq_nil_of_length_eq_zero (Nat.eq_zero_of_not_pos filled)
    rw [if_neg filled, Posted.frame, empty, List.append_nil, offer, SendCall.headerBytes, empty]

end Calls

section Runs

variable (uplink : Uplink) (calls : List SendCall)

theorem run_asked : (Machine.run send uplink calls).asked = uplink.asked ++ wire (calls.map SendCall.message) := by
  induction calls generalizing uplink with
  | nil => exact (List.append_nil _).symm
  | cons call rest ih =>
      rw [Machine.run_cons, ih, send_asked, List.append_assoc]
      rfl

theorem run_whole_iff : (Machine.run send uplink calls).Whole ↔ uplink.Whole ∧ Machine.Guarded send sendInPlace uplink calls := by
  induction calls generalizing uplink with
  | nil => exact (and_iff_left trivial).symm
  | cons call rest ih =>
      rw [Machine.run_cons, ih, send_whole_iff, and_assoc]
      rfl

end Runs

end Uplink

theorem do_read_wire_prefix (messages : List Posted) (fit : ∀ message ∈ messages, message.Fits) (chunks : List Bytes)
    (initial : chunks.flatten <+: wire messages) (packets : List Packet) (left : RecvBuffer)
    (reading : DoRead RecvBuffer.empty chunks packets left) : packets.map Packet.posted <+: messages := by
  obtain ⟨frames, fed, reads⟩ := do_read_feeds _ left chunks packets reading
  have extracted := (Framing.feeds_iff_extracts packetFormat _ chunks frames _ (Framing.next_nil packetFormat (by decide))).mp fed
  rw [List.nil_append] at extracted
  obtain ⟨later, split⟩ := initial
  have whole := wire_extracts messages fit
  rw [← split] at whole
  obtain ⟨second, joined, _⟩ := Framing.extracts_resume packetFormat _ later _ frames _ [] extracted whole
  obtain ⟨first, others, rfl, cut, _⟩ := List.map_eq_append_iff.mp joined
  rw [← cut] at reads
  rw [reads_all_posted packets first reads]
  exact List.prefix_append first others

theorem requests_whole_iff (calls : List SendCall) :
    ((Machine.run Uplink.send .fresh calls).sent <+: wire (calls.map SendCall.message) ↔
      Machine.Guarded Uplink.send Uplink.sendInPlace .fresh calls) ∧
    (Machine.Guarded Uplink.send Uplink.sendInPlace .fresh calls → (∀ call ∈ calls, call.message.Fits) →
      ∀ chunks packets left, chunks.flatten <+: (Machine.run Uplink.send .fresh calls).sent →
        DoRead RecvBuffer.empty chunks packets left → packets.map Packet.posted <+: calls.map SendCall.message) := by
  have asked : (Machine.run Uplink.send .fresh calls).asked = wire (calls.map SendCall.message) :=
    Uplink.run_asked .fresh calls
  have exact_ : (Machine.run Uplink.send .fresh calls).sent <+: wire (calls.map SendCall.message) ↔
      Machine.Guarded Uplink.send Uplink.sendInPlace .fresh calls := by
    rw [← asked]
    exact (Uplink.run_whole_iff .fresh calls).trans (and_iff_right List.nil_prefix)
  refine ⟨exact_, ?_⟩
  intro guarded fit chunks packets left initial reading
  refine do_read_wire_prefix _ ?_ chunks (initial.trans (exact_.mpr guarded)) packets left reading
  intro message member
  obtain ⟨call, listed, rfl⟩ := List.mem_map.mp member
  exact fit call listed

def cutAtTheEnd : List SendCall :=
  [⟨⟨0x0401, [0, 1]⟩, .sent 4, .sent 2⟩, ⟨⟨0x0501, [7, 0, 0, 0]⟩, .sent 4, .socketError⟩]

theorem cut_at_the_end_read (packets : List Packet) (left : RecvBuffer)
    (reading : DoRead RecvBuffer.empty [[6, 0, 1, 4, 0, 1, 8, 0, 1, 5]] packets left) :
    packets.map Packet.posted <+: cutAtTheEnd.map SendCall.message := by
  have all := requests_whole_iff cutAtTheEnd
  exact all.2 (all.1.mp (by decide)) (by decide) _ packets left (by decide) reading

-- The same attack, and a step after it: the step's header ends up in the attack's payload.
def stepBehindTheGap : List SendCall :=
  [⟨⟨0x0501, [7, 0, 0, 0]⟩, .sent 4, .socketError⟩, ⟨⟨0x0401, [0, 1]⟩, .sent 4, .sent 2⟩]

theorem step_behind_the_gap_garbles :
    ¬ (Machine.run Uplink.send .fresh stepBehindTheGap).sent <+: wire (stepBehindTheGap.map SendCall.message) := by decide

end MmorpgSimulator
