import MmorpgSimulator.Library.Simulation
import MmorpgSimulator.Replies

set_option autoImplicit false

namespace MmorpgSimulator

-- The client of a session, and what has been sent to it and has not arrived yet.
structure Feed where
  client : Client := {}
  pending : List Message := []

namespace Feed

variable (feed : Feed)

def hear (messages : List Message) : Feed := { feed with pending := feed.pending ++ messages }

def receive : Feed :=
  match feed.pending with
  | [] => feed
  | message :: rest => ⟨feed.client.receive message, rest⟩

def drained : Client := feed.pending.foldl Client.receive feed.client

theorem drained_hear (messages : List Message) : (feed.hear messages).drained = messages.foldl Client.receive feed.drained := by
  rw [drained, hear, List.foldl_append]
  rfl

theorem drained_receive : feed.receive.drained = feed.drained := by
  rw [receive]
  cases arrived : feed.pending with
  | nil => rfl
  | cons message rest =>
      rw [drained, drained, arrived]
      rfl

theorem receive_all (arrivals : Nat) (enough : feed.pending.length ≤ arrivals) : Feed.receive^[arrivals] feed = ⟨feed.drained, []⟩ := by
  induction arrivals generalizing feed with
  | zero =>
      have quiet : feed.pending = [] := List.length_eq_zero_iff.mp (Nat.le_zero.mp enough)
      rw [drained, quiet]
      exact congrArg (Feed.mk feed.client) quiet
  | succ arrivals ih =>
      have fewer : feed.receive.pending.length ≤ arrivals := by
        rw [receive]
        cases arrived : feed.pending with
        | nil => simp [arrived]
        | cons message rest => simpa [arrived] using enough
      rw [Function.iterate_succ_apply, ih feed.receive fewer, drained_receive]

theorem drained_quiet (quiet : feed.pending = []) : feed.drained = feed.client := by
  rw [drained, quiet]
  rfl

end Feed

-- The server, and a queue to the client of each session. Requests may come from
-- anybody in any order.
structure Relay where
  server : ServerState
  feeds : SessionId → Feed

inductive Turn where
  | serve (input : Input)
  | deliver (sid : SessionId)

def Turn.served : Turn → Option Input
  | .serve input => some input
  | .deliver _ => none

def newcomer (s : ServerState) (input : Input) : Option SessionId :=
  if input.event = .accept ∧ s.fault = none ∧ s.nextSessionId ∉ s.sessions then some s.nextSessionId else none

def seat {Seat : Type} (fresh : Seat) (seats : SessionId → Seat) : Option SessionId → SessionId → Seat
  | none => seats
  | some sid => Function.update seats sid fresh

def relayStep (data : GameData) (relay : Relay) : Turn → Relay
  | .serve input =>
      let server := step data { relay.server with sent := [] } input
      ⟨server, fun sid => (seat {} relay.feeds (newcomer relay.server input) sid).hear (inbox server.sent sid)⟩
  | .deliver sid => { relay with feeds := Function.update relay.feeds sid (relay.feeds sid).receive }

def Relay.boot (db : Database) (draw : Nat → Nat) : Relay := ⟨MmorpgSimulator.boot db draw, fun _ => {}⟩

-- The same with every message handled at once.
def stageStep (data : GameData) (scene : Scene) (input : Input) : Scene :=
  sceneStep data ⟨scene.server, seat {} scene.clients (newcomer scene.server input)⟩ input

def Relay.drained (relay : Relay) : Scene := ⟨relay.server, fun sid => (relay.feeds sid).drained⟩

def Scene.boot (db : Database) (draw : Nat → Nat) : Scene := ⟨MmorpgSimulator.boot db draw, fun _ => {}⟩

section Draining

variable (data : GameData)

theorem seat_map {Seat Other : Type} (view : Seat → Other) (fresh : Seat) (seats : SessionId → Seat) (taken : Option SessionId)
    (sid : SessionId) : view (seat fresh seats taken sid) = seat (view fresh) (fun sid => view (seats sid)) taken sid := by
  cases taken with
  | none => rfl
  | some newcomer =>
      rw [seat, seat]
      by_cases same : sid = newcomer
      · rw [same, Function.update_self, Function.update_self]
      · rw [Function.update_of_ne same, Function.update_of_ne same]

theorem serve_drained (relay : Relay) (input : Input) (sid : SessionId) :
    ((relayStep data relay (.serve input)).feeds sid).drained = (stageStep data relay.drained input).clients sid := by
  have heard := Feed.drained_hear (seat {} relay.feeds (newcomer relay.server input) sid)
    (inbox (step data { relay.server with sent := [] } input).sent sid)
  rw [seat_map Feed.drained] at heard
  exact heard

theorem deliver_drained (relay : Relay) (sid other : SessionId) :
    ((relayStep data relay (.deliver sid)).feeds other).drained = (relay.feeds other).drained := by
  change Feed.drained (Function.update relay.feeds sid (relay.feeds sid).receive other) = _
  by_cases same : other = sid
  · rw [same, Function.update_self]
    exact Feed.drained_receive _
  · rw [Function.update_of_ne same]

theorem deliveries (relay : Relay) (sid : SessionId) (arrivals : Nat) :
    Machine.run (relayStep data) relay (List.replicate arrivals (.deliver sid)) =
      { relay with feeds := Function.update relay.feeds sid (Feed.receive^[arrivals] (relay.feeds sid)) } := by
  induction arrivals generalizing relay with
  | zero => exact congrArg (Relay.mk relay.server) (Function.update_eq_self sid relay.feeds).symm
  | succ arrivals ih =>
      rw [List.replicate_succ, Machine.run_cons, ih]
      simp only [relayStep, Function.update_self, Function.update_idem, Function.iterate_succ_apply]

theorem relay_simulates : Machine.Simulates (relayStep data) (stageStep data) Relay.drained Turn.served where
  acts := by
    intro relay turn input served
    cases turn with
    | deliver sid => exact absurd served nofun
    | serve given =>
        obtain rfl : given = input := Option.some.inj served
        exact congrArg (Scene.mk _) (funext (serve_drained data relay given))
  rests := by
    intro relay turn unserved
    cases turn with
    | serve input => exact absurd unserved nofun
    | deliver sid => exact congrArg (Scene.mk _) (funext (deliver_drained data relay sid))

theorem relay_drained (db : Database) (draw : Nat → Nat) (turns : List Turn) :
    (Machine.run (relayStep data) (Relay.boot db draw) turns).drained =
      Machine.run (stageStep data) (Scene.boot db draw) (turns.filterMap Turn.served) :=
  (relay_simulates data).run (Relay.boot db draw) turns

theorem turn_party (relay : Relay) (turn : Turn) (party : PartyInvariant relay.server) : PartyInvariant (relayStep data relay turn).server := by
  cases turn with
  | deliver sid => exact party
  | serve input => exact step_party_invariant data _ input ⟨party.indexed, party.honest, party.attended⟩

theorem relay_party (db : Database) (draw : Nat → Nat) (turns : List Turn) :
    PartyInvariant (Machine.run (relayStep data) (Relay.boot db draw) turns).server := by
  have always := Machine.guarded_trivial (relayStep data) (fun _ _ => True) (fun _ _ => trivial) (Relay.boot db draw) turns
  apply Machine.run_invariant (relayStep data) (fun _ _ => True) (fun relay => PartyInvariant relay.server) _ (Relay.boot db draw) turns
    (boot_party_invariant db draw) always
  exact fun relay turn party _ => turn_party data relay turn party

end Draining

end MmorpgSimulator
