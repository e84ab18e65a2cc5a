import MmorpgSimulator.PartyNews

set_option autoImplicit false

namespace MmorpgSimulator

-- A client and the two queues between it and the server. Beside each message
-- stands the session whose packet made the server send it, beside each request the
-- session whose invitation the client was displaying; neither is on the wire.
structure Link where
  client : Client := {}
  displayed : Option SessionId := none
  up : List (Request × Option SessionId) := []
  down : List (SessionId × Message) := []

def invitedBy (entry : SessionId × Message) : Option SessionId :=
  match entry.2 with
  | .partyInvite _ => some entry.1
  | _ => none

namespace Link

variable (link : Link)

def receive : Link :=
  match link.down with
  | [] => link
  | entry :: rest =>
      { link with client := link.client.receive entry.2, displayed := (invitedBy entry).or link.displayed, down := rest }

def press (key : Key) : Link :=
  { link with
    client := (link.client.press key).1
    up := link.up ++ (link.client.press key).2.toList.map (fun request => (request, link.displayed)) }

def hear (cause : SessionId) (messages : List Message) : Link :=
  { link with down := link.down ++ messages.map (fun message => (cause, message)) }

def drained : Client := (link.down.map Prod.snd).foldl Client.receive link.client

def finallyDisplayed : Option SessionId := link.down.foldl (fun displayed entry => (invitedBy entry).or displayed) link.displayed

end Link

structure Net where
  server : ServerState
  links : SessionId → Link

inductive Action where
  | connect
  | press (sid : SessionId) (key : Key)
  | serve (sid : SessionId) (rolls : List Nat) (dbPlan : List DbOutcome)
  | receive (sid : SessionId)
  | disconnect (sid : SessionId)

namespace Net

variable (data : GameData) (net : Net)

def setLink (sid : SessionId) (link : Link) : Net := { net with links := Function.update net.links sid link }

def unsent : ServerState := { net.server with sent := [] }

def handled (cause : SessionId) (input : Input) : Net :=
  let server := step data net.unsent input
  { server, links := fun sid => (net.links sid).hear cause (inbox server.sent sid) }

-- The input a server step hands over, and what the sender of a packet displayed.
def served (action : Action) : Option (Input × Option SessionId) :=
  if net.server.fault.isSome then none
  else
    match action with
    | .serve sid rolls dbPlan => (net.links sid).up.head?.map (fun entry => (⟨.packet sid entry.1, rolls, dbPlan⟩, entry.2))
    | .disconnect sid => if sid ∈ net.server.sessions then some (⟨.disconnect sid, [], []⟩, none) else none
    | _ => none

end Net

-- The server's steps wait for ever once the process has died.
def netStep (data : GameData) (net : Net) : Action → Net
  | .connect =>
      if net.server.fault.isSome ∨ net.server.nextSessionId ∈ net.server.sessions then net
      else (net.handled data net.server.nextSessionId ⟨.accept, [], []⟩).setLink net.server.nextSessionId {}
  | .press sid key => if sid ∈ net.server.sessions then net.setLink sid ((net.links sid).press key) else net
  | .serve sid rolls dbPlan =>
      if net.server.fault.isSome then net
      else
        match (net.links sid).up with
        | [] => net
        | (request, _) :: rest =>
            (net.setLink sid { net.links sid with up := rest }).handled data sid ⟨.packet sid request, rolls, dbPlan⟩
  | .receive sid => net.setLink sid (net.links sid).receive
  | .disconnect sid =>
      if net.server.fault.isSome ∨ sid ∉ net.server.sessions then net
      else (net.handled data sid ⟨.disconnect sid, [], []⟩).setLink sid {}

def Net.boot (db : Database) (draw : Nat → Nat) : Net := ⟨MmorpgSimulator.boot db draw, fun _ => {}⟩

namespace Link

variable (link : Link)

theorem hear_nothing (cause : SessionId) : link.hear cause [] = link := by
  rw [hear, List.map_nil, List.append_nil]

theorem drained_hear (cause : SessionId) (messages : List Message) :
    (link.hear cause messages).drained = messages.foldl Client.receive link.drained := by
  have stripped : (messages.map (fun message => (cause, message))).map Prod.snd = messages := by
    rw [List.map_map]
    exact List.map_id messages
  rw [drained, hear, List.map_append, List.foldl_append, stripped]
  rfl

theorem drained_receive : link.receive.drained = link.drained := by
  rw [receive]
  cases arrived : link.down with
  | nil => rfl
  | cons entry rest =>
      rw [drained, drained, arrived]
      rfl

theorem receive_up : link.receive.up = link.up := by
  rw [receive]
  cases link.down <;> rfl

theorem finally_displayed_receive : link.receive.finallyDisplayed = link.finallyDisplayed := by
  rw [receive]
  cases arrived : link.down with
  | nil => rfl
  | cons entry rest =>
      rw [finallyDisplayed, finallyDisplayed, arrived]
      rfl

theorem finally_displayed_same (cause : SessionId) (messages : List Message)
    (others : ∀ message ∈ messages, ∀ invite, message ≠ .partyInvite invite) :
    (link.hear cause messages).finallyDisplayed = link.finallyDisplayed := by
  have keeps (displayed : Option SessionId) :
      (messages.map (fun message => (cause, message))).foldl (fun displayed entry => (invitedBy entry).or displayed) displayed = displayed := by
    induction messages generalizing displayed with
    | nil => rfl
    | cons message rest ih =>
        have silent : invitedBy (cause, message) = none := by
          cases message with
          | partyInvite invite => exact absurd rfl (others _ List.mem_cons_self invite)
          | _ => rfl
        rw [List.map_cons, List.foldl_cons, silent, Option.none_or]
        exact ih (fun later member => others later (List.mem_cons_of_mem message member)) displayed
  rw [finallyDisplayed, hear, List.foldl_append]
  exact keeps _

theorem finally_displayed_invite (cause : SessionId) (invite : ScPartyInvite) :
    (link.hear cause [.partyInvite invite]).finallyDisplayed = some cause := by
  rw [finallyDisplayed, hear, List.foldl_append]
  rfl

end Link

section Steps

variable (data : GameData) (net : Net)

theorem step_packet (s : ServerState) (input : Input) (sid : SessionId) (request : Request) (packet : input.event = .packet sid request)
    (alive : s.fault = none) (here : sid ∈ s.sessions) : step data s input = handle data (facing s input) sid request := by
  rw [step_alive data s input alive, packet]
  exact handle_event_here data (facing s input) sid request here

theorem step_stray (s : ServerState) (input : Input) (sid : SessionId) (request : Request) (packet : input.event = .packet sid request)
    (alive : s.fault = none) (gone : sid ∉ s.sessions) : step data s input = facing s input := by
  rw [step_alive data s input alive, packet]
  exact handle_event_absent data (facing s input) sid request gone

theorem step_disconnect (s : ServerState) (input : Input) (sid : SessionId) (leaves : input.event = .disconnect sid)
    (alive : s.fault = none) (here : sid ∈ s.sessions) :
    step data s input = onDisconnect (setUnconnected (facing s input) sid) sid := by
  rw [step_alive data s input alive, leaves]
  exact disconnect_here data (facing s input) sid here

theorem set_link_self (sid : SessionId) (link : Link) : (net.setLink sid link).links sid = link := by
  rw [Net.setLink]
  exact Function.update_self _ _ _

theorem set_link_other (sid other : SessionId) (link : Link) (apart : other ≠ sid) : (net.setLink sid link).links other = net.links other := by
  rw [Net.setLink]
  exact Function.update_of_ne apart _ _

theorem served_cases (action : Action) (input : Input) (seen : Option SessionId) (served : net.served action = some (input, seen)) :
    net.server.fault = none ∧
      ((∃ sid rolls dbPlan request, action = .serve sid rolls dbPlan ∧ (request, seen) ∈ (net.links sid).up ∧
          input = ⟨.packet sid request, rolls, dbPlan⟩) ∨
        ∃ sid, action = .disconnect sid ∧ sid ∈ net.server.sessions ∧ input = ⟨.disconnect sid, [], []⟩) := by
  cases alive : net.server.fault with
  | some fault => simp [Net.served, alive] at served
  | none =>
      refine ⟨rfl, ?_⟩
      cases action with
      | serve sid rolls dbPlan =>
          simp only [Net.served, alive, Option.isSome_none, Bool.false_eq_true, if_false, Option.map_eq_some_iff, Prod.mk.injEq] at served
          obtain ⟨⟨request, shown⟩, front, rfl, rfl⟩ := served
          exact .inl ⟨sid, rolls, dbPlan, request, rfl, List.mem_of_mem_head? front, rfl⟩
      | disconnect sid =>
          simp only [Net.served, alive, Option.isSome_none, Bool.false_eq_true, if_false, Option.ite_none_right_eq_some,
            Option.some.injEq, Prod.mk.injEq] at served
          obtain ⟨here, rfl, rfl⟩ := served
          exact .inr ⟨sid, rfl, here, rfl⟩
      | connect => simp [Net.served] at served
      | press sid key => simp [Net.served] at served
      | receive sid => simp [Net.served] at served

theorem served_request (sid : SessionId) (rolls : List Nat) (dbPlan : List DbOutcome) (entry : Request × Option SessionId)
    (rest : List (Request × Option SessionId)) (alive : net.server.fault = none) (queued : (net.links sid).up = entry :: rest) :
    net.served (.serve sid rolls dbPlan) = some (⟨.packet sid entry.1, rolls, dbPlan⟩, entry.2) := by
  simp only [Net.served, alive, queued]
  rfl

theorem popped_up (sid other : SessionId) (entry : Request × Option SessionId) (rest : List (Request × Option SessionId))
    (queued : (net.links sid).up = entry :: rest) (later : Request × Option SessionId)
    (member : later ∈ ((net.setLink sid { net.links sid with up := rest }).links other).up) : later ∈ (net.links other).up := by
  by_cases same : other = sid
  · rw [same, set_link_self] at member
    rw [same, queued]
    exact List.mem_cons_of_mem entry member
  · rwa [set_link_other net sid other _ same] at member

end Steps

end MmorpgSimulator
