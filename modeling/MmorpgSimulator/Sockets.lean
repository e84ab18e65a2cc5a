import MmorpgSimulator.Cables
import MmorpgSimulator.Transcripts

set_option autoImplicit false

namespace MmorpgSimulator

section Packets

theorem c_string_clean (field : Bytes) : 0 ∉ cString field :=
  fun zero => by simpa using List.mem_takeWhile_imp zero

theorem packet_legible (packet : Packet) (request : Request) (decoded : packet.request = some request) : request.Legible := by
  obtain ⟨type, _, read⟩ := Option.bind_eq_some_iff.mp decoded
  cases type <;> simp only [decodeRequest, Option.some.injEq, reduceCtorEq] at read <;> subst read
  case csChat => exact c_string_clean _
  all_goals trivial

end Packets

def Told (plant : Plant) : Prop :=
  Storable plant.server → plant.founded < 2 ^ 32 → plant.Fits ∧ Tellable plant.founded plant.server

section Levels

variable (data : GameData) (legible : data.Legible) (plant after : Plant) (told : Told plant)

theorem boot_told (db : Database) (draw : Nat → Nat) : Told (Plant.boot db draw) :=
  fun _ _ => ⟨nofun, boot_tellable db draw⟩

include told

theorem told_set (sid : SessionId) (cable : Cable) : Told (plant.setCable sid cable) := told

theorem told_idle (rolls : List Nat) (dbPlan : List DbOutcome) : Told (plant.spread { plant.server with sent := [], rolls, dbPlan }) := by
  intro storable few
  have kept : (plant.spread { plant.server with sent := [], rolls, dbPlan }).founded = plant.founded := by simp [Plant.spread]
  rw [kept] at few ⊢
  obtain ⟨fits, tellable⟩ := told ⟨storable.alive, storable.created, storable.accounts, storable.names⟩ few
  refine ⟨fun post member => fits post ?_, tellable.people, fitted_same (by rfl) tellable.fitted, ?_⟩
  · simpa [Plant.spread] using member
  · exact ⟨tellable.parties.indexed, tellable.parties.sized, tellable.parties.numbered, tellable.parties.undivided, nofun⟩

include legible in
theorem told_handled (input : Input) (clear : input.Legible) : Told (plant.handled data input) := by
  intro after few
  have before := storable_before data _ input after
  obtain ⟨fits, tellable⟩ := told ⟨before.alive, before.created, before.accounts, before.names⟩
    (lt_of_le_of_lt (Nat.le_add_right _ _) few)
  have ready : Tellable plant.founded { plant.server with sent := [] } :=
    ⟨tellable.people, fitted_same (by rfl) tellable.fitted, tellable.parties.indexed, tellable.parties.sized, tellable.parties.numbered, tellable.parties.undivided, nofun⟩
  obtain ⟨extra, sent, proper⟩ := (step_good data legible ready before input clear after).said
  refine ⟨fun post member => ?_, step_tellable data legible ready before input clear after (fun changed => ?_)⟩
  · rcases List.mem_append.mp member with old | fresh
    · exact fits post old
    · rw [sent, List.nil_append] at fresh
      exact (proper post fresh).fits
  · change plant.founded + (if _ then 0 else 1) < 2 ^ 32 at few
    rwa [if_neg changed] at few

include legible in
theorem told_callback (sid : SessionId) (packet : Packet) (rolls : List Nat) (dbPlan : List DbOutcome) :
    Told (plant.callback data sid packet rolls dbPlan) := by
  rw [Plant.callback]
  split
  · exact told
  · rename_i breathes
    split
    · rename_i here
      cases decoded : packet.request with
      | none =>
          have dropped : dispatch data { plant.server with sent := [], rolls, dbPlan } sid packet =
              { plant.server with sent := [], rolls, dbPlan } := by
            rw [Packet.request] at decoded
            rw [dispatch, handlePacket, decoded]
          rw [dropped]
          exact told_idle plant told rolls dbPlan
      | some request =>
          have alive : ({ plant.server with sent := [] } : ServerState).fault = none := by simpa using breathes
          have stepped : dispatch data { plant.server with sent := [], rolls, dbPlan } sid packet =
              step data { plant.server with sent := [] } ⟨.packet sid request, rolls, dbPlan⟩ := by
            rw [Packet.request] at decoded
            rw [dispatch, handlePacket, decoded, step_alive data _ _ alive]
            exact (handle_event_here data { plant.server with sent := [], rolls, dbPlan } sid request here).symm
          rw [stepped]
          exact told_handled data legible plant told _ (fun _ _ asks => by cases asks; exact packet_legible packet request decoded)
    · exact told_idle plant told rolls dbPlan

omit told in
include legible in
theorem told_callbacks (sid : SessionId) (packets : List Packet) (called : Callbacks data sid plant packets after) (told : Told plant) :
    Told after := by
  induction called with
  | nil plant => exact told
  | cons plant after packet packets rolls dbPlan _ ih => exact ih (told_callback data legible plant told sid packet rolls dbPlan)

include legible in
theorem told_step (moves : PlantStep data plant after) : Told after := by
  cases moves with
  | connect => exact told_set _ (told_handled data legible plant told _ (fun _ _ asks => by cases asks)) _ _
  | press sid => exact told_set plant told _ _
  | read after sid _ _ packets _ _ _ _ _ called => exact told_callbacks data legible _ after sid packets called (told_set plant told _ _)
  | receive sid => exact told_set plant told _ _
  | disconnect => exact told_set _ (told_handled data legible plant told _ (fun _ _ asks => by cases asks)) _ _

end Levels

section Sockets

variable (data : GameData) (legible : data.Legible) (db : Database) (draw : Nat → Nat) (plant : Plant)
  (reached : Relation.ReflTransGen (PlantStep data) (Plant.boot db draw) plant) (storable : Storable plant.server)
  (few : plant.founded < 2 ^ 32)
include legible reached storable few

omit storable few in
theorem reached_told : Told plant := by
  induction reached with
  | refl => exact boot_told db draw
  | tail _ moves ih => exact told_step data legible _ _ ih moves

theorem reached_fits : plant.Fits := (reached_told data legible db draw plant reached storable few).1

-- The sockets, with their chunks and buffers, are the message queues of Net: the same
-- server, the same clients, every message handled once, in order, and none lost.
theorem sockets_carry_messages :
    ∃ actions, Same (fun _ => 0) plant (Machine.run (netStep data) (Net.boot db draw) actions) ∧
      ∀ sid,
        ((plant.cables sid).down = [] → ((Machine.run (netStep data) (Net.boot db draw) actions).links sid).down = []) ∧
        ((plant.cables sid).up = [] → ((Machine.run (netStep data) (Net.boot db draw) actions).links sid).up = []) := by
  have fits := reached_fits data legible db draw plant reached storable few
  obtain ⟨actions, same, empty⟩ := cables_carry data db draw plant reached fits
  exact ⟨actions, same, fun sid => ⟨(empty sid).1, (empty sid).2 storable.alive⟩⟩

-- There is room to read into, whatever a read comes back with both loops end, and every
-- packet they find is one of the handlers'.
theorem sockets_never_jam (sid : SessionId) :
    (plant.cables sid).recv.recvSize < maxRecvBufferSize ∧
    (∀ chunk later, (plant.cables sid).up = chunk ++ later →
      ∀ room : (plant.cables sid).recv.recvSize + chunk.length ≤ maxRecvBufferSize,
        ∃ packets left, ProcessBuffer ((plant.cables sid).recv.received chunk room) packets left ∧
          ∀ packet ∈ packets, ∃ request, packet.request = some request) ∧
    ∀ chunk later, (plant.cables sid).down = chunk ++ later →
      ∃ packets left, ProcessPackets ((plant.cables sid).recvBuffer ++ chunk) packets left ∧
        ∀ packet ∈ packets, ∃ message, packet.message = some message := by
  have fits := reached_fits data legible db draw plant reached storable few
  obtain ⟨up, down⟩ := cables_never_jam data db draw plant reached fits sid
  exact ⟨(up storable.alive).1, (up storable.alive).2, down⟩

end Sockets

def heartbeatKey : TypedKey := ⟨.other .heartbeat trivial, fun _ _ pressed => by cases pressed; trivial⟩

-- A session whose client has sent a heartbeat; the server has read half its header.
def halfHeartbeat : Plant :=
  let here := ((Plant.boot twoCharacters (fun _ => 0)).handled probeData ⟨.accept, [], []⟩).setCable 1 {}
  let pressed := here.setCable 1 ((here.cables 1).press heartbeatKey.key)
  pressed.setCable 1 { pressed.cables 1 with up := [1, 255], recv := RecvBuffer.empty.received [4, 0] (by decide) }

theorem probe_legible : probeData.Legible := ⟨by decide, nofun⟩

theorem half_heartbeat_reached : Relation.ReflTransGen (PlantStep probeData) (Plant.boot twoCharacters (fun _ => 0)) halfHeartbeat := by
  refine .tail (.tail (.tail .refl (.connect _ rfl (by simp [Plant.boot, boot]))) (.press _ 1 heartbeatKey (by decide))) ?_
  exact .read _ _ 1 [4, 0] [1, 255] [] _ rfl rfl (by decide) (.wait _ (by decide)) (.nil _)

theorem half_heartbeat_storable : Storable halfHeartbeat.server := ⟨rfl, by decide +kernel, nofun, by decide +kernel⟩

theorem half_heartbeat_carried :
    ∃ actions, Same (fun _ => 0) halfHeartbeat (Machine.run (netStep probeData) (Net.boot twoCharacters (fun _ => 0)) actions) := by
  obtain ⟨actions, same, _⟩ := sockets_carry_messages probeData probe_legible twoCharacters (fun _ => 0) halfHeartbeat
    half_heartbeat_reached half_heartbeat_storable (by decide)
  exact ⟨actions, same⟩

theorem other_half_wakes :
    ∃ packets left, ProcessBuffer ((halfHeartbeat.cables 1).recv.received [1, 255] (by decide)) packets left ∧
      ∀ packet ∈ packets, ∃ request, packet.request = some request :=
  (sockets_never_jam probeData probe_legible twoCharacters (fun _ => 0) halfHeartbeat half_heartbeat_reached half_heartbeat_storable
    (by decide) 1).2.1 [1, 255] [] rfl (by decide)

end MmorpgSimulator
