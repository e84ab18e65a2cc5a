import MmorpgSimulator.RecvBuffer
import MmorpgSimulator.Library.Run
import MmorpgSimulator.Library.Writes

set_option autoImplicit false

namespace MmorpgSimulator

-- What Send can frame: header.length has 16 bits, and a longer payload would be
-- copied past the end of the buffer it sizes.
structure Outgoing extends Posted where
  whole : headerSize + payload.length < 2 ^ 16

-- The sending side of a session: connected_, its async_writes and the socket. The
-- frames of all calls of Send are kept for comparison.
structure Outlet where
  connected : Bool := true
  writes : Writes.Channel UInt8 := {}
  called : List Bytes := []
deriving DecidableEq

namespace Outlet

-- Session::Send starts its async_write at once, whatever is still under way.
def send (outlet : Outlet) (message : Outgoing) : Outlet :=
  { outlet with
    writes := if outlet.connected then outlet.writes.start message.frame else outlet.writes
    called := outlet.called ++ [message.frame] }

-- The completion handler with an error; an operation that has written all of its
-- buffer completes without one.
def fail (outlet : Outlet) (operation : Nat) : Outlet :=
  if (outlet.writes.pending[operation]?).getD [] = [] then outlet
  else { outlet with connected := false, writes := outlet.writes.abandon operation }

def Intact (outlet : Outlet) : Prop := outlet.writes.stream <+: outlet.called.flatten

instance (outlet : Outlet) : Decidable outlet.Intact := inferInstanceAs (Decidable (_ <+: _))

end Outlet

inductive OutletAction where
  | send (message : Outgoing)
  | transfer (operation count : Nat)
  | fail (operation : Nat)
  | readError

def outletStep (outlet : Outlet) : OutletAction → Outlet
  | .send message => outlet.send message
  | .transfer operation count => { outlet with writes := outlet.writes.transfer operation count }
  | .fail operation => outlet.fail operation
  | .readError => { outlet with connected := false }

namespace Outlet

-- The stream is a prefix of the frames in call order, now and however the
-- operations under way go on.
def Secure (outlet : Outlet) : Prop := ∀ transfers, { outlet with writes := outlet.writes.serve transfers }.Intact

-- Send is called with nothing under way, or with nothing but repetitions of one
-- byte under way and to be sent.
def inTurn (outlet : Outlet) : OutletAction → Prop
  | .send message => outlet.connected = true → outlet.writes.pending.flatten ≠ [] →
      Writes.Uniform (outlet.writes.pending.flatten ++ message.frame)
  | _ => True

structure Ordered (outlet : Outlet) : Prop where
  order : Writes.InOrder outlet.writes.pending
  rest : ∃ lost, outlet.called.flatten = outlet.writes.stream ++ (outlet.writes.pending.flatten ++ lost) ∧
    (outlet.connected = true → lost = [])

variable (outlet : Outlet)

theorem ordered_secure (ordered : Ordered outlet) : Secure outlet := by
  intro transfers
  obtain ⟨lost, split, _⟩ := ordered.rest
  have same := outlet.writes.serve_in_order transfers ordered.order
  rw [Intact, split, ← List.append_assoc, ← same, List.append_assoc]
  exact List.prefix_append _ _

theorem ordered_start : Ordered {} := ⟨.inl nofun, [], rfl, fun _ => rfl⟩

theorem frame_cons (message : Outgoing) : ∃ head tail, message.frame = head :: tail := by
  refine List.exists_cons_of_ne_nil (fun empty => ?_)
  have length := frame_length message.toPosted
  rw [empty] at length
  exact absurd length.symm (Nat.ne_of_gt (Nat.lt_of_lt_of_le (by decide : 0 < headerSize) (Nat.le_add_right _ _)))

theorem started_order (message : Outgoing) (open_ : outlet.connected = true)
    (turn : inTurn outlet (.send message)) : Writes.InOrder (outlet.writes.start message.frame).pending := by
  by_cases idle : outlet.writes.pending.flatten = []
  · exact outlet.writes.start_idle message.frame idle
  · refine .inr ?_
    rw [Writes.Channel.start, List.flatten_append, List.flatten_singleton]
    exact turn open_ idle

theorem send_ordered (message : Outgoing) (ordered : Ordered outlet) (turn : inTurn outlet (.send message)) :
    Ordered (outlet.send message) := by
  obtain ⟨lost, split, kept⟩ := ordered.rest
  cases open_ : outlet.connected with
  | false =>
      have same : (outlet.send message).writes = outlet.writes := by simp [send, open_]
      refine ⟨same ▸ ordered.order, lost ++ message.frame, ?_, fun closed => absurd (open_.symm.trans closed) (by decide)⟩
      rw [same, send, List.flatten_append, List.flatten_singleton, split]
      simp only [List.append_assoc]
  | true =>
      have same : (outlet.send message).writes = outlet.writes.start message.frame := by simp [send, open_]
      refine ⟨same ▸ started_order outlet message open_ turn, [], ?_, fun _ => rfl⟩
      rw [same, send, List.flatten_append, List.flatten_singleton, split, kept open_, Writes.Channel.start, List.flatten_append,
        List.flatten_singleton]
      simp only [List.append_assoc, List.append_nil]

theorem transfer_ordered (operation count : Nat) (ordered : Ordered outlet) :
    Ordered { outlet with writes := outlet.writes.transfer operation count } := by
  obtain ⟨lost, split, kept⟩ := ordered.rest
  obtain ⟨order, same⟩ := outlet.writes.transfer_in_order operation count ordered.order
  refine ⟨order, lost, ?_, kept⟩
  rw [split, ← List.append_assoc, ← List.append_assoc, same]

theorem fail_ordered (operation : Nat) (ordered : Ordered outlet) : Ordered (outlet.fail operation) := by
  rw [fail]
  split
  · exact ordered
  · obtain ⟨lost, split, _⟩ := ordered.rest
    obtain ⟨order, dropped, same⟩ := outlet.writes.abandon_in_order operation ordered.order
    refine ⟨order, dropped ++ lost, ?_, fun closed => absurd closed Bool.false_ne_true⟩
    rw [split, ← same, List.append_assoc]
    rfl

theorem step_ordered (action : OutletAction) (ordered : Ordered outlet) (turn : inTurn outlet action) :
    Ordered (outletStep outlet action) := by
  cases action with
  | send message => exact send_ordered outlet message ordered turn
  | transfer operation count => exact transfer_ordered outlet operation count ordered
  | fail operation => exact fail_ordered outlet operation ordered
  | readError =>
      obtain ⟨lost, split, _⟩ := ordered.rest
      exact ⟨ordered.order, lost, split, fun closed => absurd closed Bool.false_ne_true⟩

theorem out_of_turn_insecure (action : OutletAction) (ordered : Ordered outlet) (out : ¬ inTurn outlet action) :
    ¬ Secure (outletStep outlet action) := by
  intro secure
  cases action with
  | send message =>
      refine out (fun open_ busy => ?_)
      obtain ⟨lost, split, kept⟩ := ordered.rest
      obtain ⟨head, tail, frame⟩ := frame_cons message
      have started : (outletStep outlet (.send message)).writes = outlet.writes.start (head :: tail) := by
        simp [outletStep, send, open_, frame]
      have called : (outletStep outlet (.send message)).called.flatten =
          outlet.writes.stream ++ (outlet.writes.pending.flatten ++ head :: tail) := by
        rw [outletStep, send, List.flatten_append, List.flatten_singleton, split, kept open_, frame]
        simp only [List.append_assoc, List.append_nil]
      rw [frame]
      refine outlet.writes.overlap_uniform ordered.order busy head tail (fun transfers => ?_)
      have hidden := secure transfers
      rw [Intact, called] at hidden
      rwa [← started]
  | transfer operation count => exact out trivial
  | fail operation => exact out trivial
  | readError => exact out trivial

theorem stream_secure_iff (actions : List OutletAction) :
    Machine.Throughout outletStep Secure {} actions ↔ Machine.Guarded outletStep inTurn {} actions :=
  Machine.throughout_iff_guarded outletStep inTurn Ordered Secure ordered_secure
    (fun outlet action ordered turn => step_ordered outlet action ordered turn)
    (fun outlet action ordered out => out_of_turn_insecure outlet action ordered out) {} actions ordered_start

-- SC_CHAR_INFO and SC_INVENTORY_LIST of one selection, shortened to a byte each:
-- one byte of the first goes out, then the second overtakes it.
def overtaking : List OutletAction :=
  [.send ⟨⟨518, [1]⟩, by decide⟩, .send ⟨⟨1799, [2]⟩, by decide⟩, .transfer 0 1, .transfer 1 5, .transfer 0 4]

theorem overtaking_garbles : ¬ (Machine.run outletStep {} overtaking).Intact := by decide

end Outlet

end MmorpgSimulator
