import MmorpgSimulator.ItemNews

set_option autoImplicit false

namespace MmorpgSimulator

section Steps

variable (data : GameData) (clients : SessionId → Client) (s : ServerState) (sid : SessionId) (input : Input)

def StaysConnected (input : Input) : Prop := input.event ≠ .disconnect sid ∧ input.event ≠ .writeError sid

def PlaysOn (input : Input) : Prop := (∀ req, input.event ≠ .packet sid (.charSelect req)) ∧ StaysConnected sid input

theorem step_line_holds (indexed : s.party.Indexed) (stays : StaysConnected sid input) (open_ : s.line sid = some true) :
    (step data s input).line sid = some true := by
  cases dead : s.fault with
  | some fault => rwa [step_dead data s input fault dead]
  | none =>
      rw [step_alive data s input dead]
      cases happens : input.event with
      | accept =>
          change (doAccept (facing s input)).line sid = _
          rw [do_accept_line]
          split
          · rfl
          · exact open_
      | writeError other =>
          have apart : compare other sid ≠ .eq := fun same => stays.2 (Std.compare_eq_iff_eq.mp same ▸ happens)
          change (setUnconnected (facing s input) other).line sid = _
          simp only [ServerState.line, setUnconnected, Std.ExtTreeMap.getElem?_modify, if_neg apart]
          exact open_
      | disconnect other =>
          by_cases here : other ∈ s.sessions
          · rw [disconnect_here data (facing s input) other here]
            exact (on_disconnect_line (facing s input) other sid (fun same => stays.1 (same ▸ happens))).trans open_
          · rwa [disconnect_absent data (facing s input) other here]
      | packet other request =>
          by_cases here : other ∈ s.sessions
          · rw [handle_event_here data (facing s input) other request here]
            exact (handle_line data (facing s input) indexed other request sid).trans open_
          · rwa [handle_event_absent data (facing s input) other request here]

variable {View : Inventory → Client → Prop} {data} (mirroring : Mirroring data View)
include mirroring

theorem select_keeps_up (other : SessionId) (req : CsCharSelect) (row : Int32 × Int64 × Int64)
    (selects : selecting s input = some (other, req, row)) (unsent : s.sent = []) (apart : sid ≠ other) :
    KeepsUp View clients sid s (step data s input) := by
  have entered := (step_selecting data s other req input row selects).2.2.2
  obtain ⟨_, _, players, _⟩ := select_items data s other req input row selects
  obtain ⟨_, _, inboxes⟩ := enter_game_inbox data (admitted (facing s input) other req row) other
  have silent : (admitted (facing s input) other req row).sent = [] := unsent
  refine keeps_up_quiet mirroring ?_ (players sid apart).2
  rw [Unseen, shown, shown, entered, inboxes sid apart, silent, unsent, inbox, List.filterMap_nil, List.nil_append]
  apply hushed_fold wardrobe
  intro message told
  split at told
  · obtain rfl := List.mem_singleton.mp told
    exact hushed_gear _ id
  · exact absurd told List.not_mem_nil

theorem refusal_keeps_up (other : SessionId) (req : CsCharSelect) (alive : s.fault = none) (here : other ∈ s.sessions)
    (asks : input.event = .packet other (.charSelect req)) (stays : selecting s input = none) :
    KeepsUp View clients sid s (step data s input) := by
  have missing : ((facing s input).procReply (loginCall (facing s input) other req)).row = none := by
    rw [selecting, asks] at stays
    simp only [alive, Option.isNone_none, here, and_self, if_true, Option.map_eq_none_iff] at stays
    exact stays
  rw [step_alive data s input alive, asks, handle_event_here data (facing s input) other _ here]
  rw [show handle data (facing s input) other (.charSelect req) = onCharSelect data (facing s input) other req from rfl,
    on_char_select_missing data (facing s input) other req missing]
  exact keeps_up_quiet mirroring (Unseen.send (unseen_same (by rfl)) other _ (hushed_gear _ id)) (by rfl)

theorem step_keeps_up (indexed : s.party.Indexed) (unsent : s.sent = []) (stays : StaysConnected sid input)
    (unselected : ∀ req row, selecting s input ≠ some (sid, req, row)) (open_ : s.line sid = some true) :
    KeepsUp View clients sid s (step data s input) := by
  cases dead : s.fault with
  | some fault =>
      rw [step_dead data s input fault dead]
      exact id
  | none =>
      cases happens : input.event with
      | accept =>
          rw [step_alive data s input dead, happens]
          have sent : (doAccept (facing s input)).sent = s.sent := by
            rw [doAccept]
            split <;> rfl
          exact keeps_up_quiet mirroring (unseen_same sent) ((idle_do_accept (facing s input)).inventories sid)
      | writeError other =>
          rw [step_alive data s input dead, happens]
          exact keeps_up_quiet mirroring (unseen_same rfl) ((idle_set_unconnected (facing s input) other).inventories sid)
      | disconnect other =>
          rw [step_alive data s input dead, happens]
          by_cases here : other ∈ s.sessions
          · rw [disconnect_here data (facing s input) other here]
            have apart : sid ≠ other := fun same => stays.1 (same ▸ happens)
            have marked := idle_set_unconnected (facing s input) other
            have left := on_disconnect_departed (setUnconnected (facing s input) other) other
            have first : KeepsUp View clients sid s (setUnconnected (facing s input) other) :=
              keeps_up_quiet mirroring (unseen_same rfl) (marked.inventories sid)
            refine first.trans (keeps_up_speaks mirroring (on_disconnect_speaks (setUnconnected (facing s input) other) other) ?_
              (left.inventories sid apart))
            intro message answers
            cases message <;> first | exact id | exact absurd answers id
          · rw [disconnect_absent data (facing s input) other here]
            exact id
      | packet other request =>
          by_cases here : other ∈ s.sessions
          · cases request with
            | charSelect req =>
                cases selects : selecting s input with
                | none => exact refusal_keeps_up clients s sid input mirroring other req dead here happens selects
                | some selection =>
                    obtain ⟨owner, asked, row⟩ := selection
                    have apart : sid ≠ owner := fun same => unselected asked row (same ▸ selects)
                    exact select_keeps_up clients s sid input mirroring owner asked row selects unsent apart
            | _ =>
                rw [step_alive data s input dead, happens, handle_event_here data (facing s input) other _ here]
                exact handle_keeps_up (s := facing s input) mirroring other _ (by simp) indexed here open_
          · rw [step_alive data s input dead, happens, handle_event_absent data (facing s input) other request here]
            exact id

end Steps

section Entrance

variable (data : GameData)

structure KnownItems (inv : Inventory) : Prop where
  slots : ∀ index : Fin maxInventory, (inv.slot index).itemTid = 0 ∨ (data.findItem (inv.slot index).itemTid).isSome
  weapon : inv.weaponTid = 0 ∨ (data.findItem inv.weaponTid).isSome
  armor : inv.armorTid = 0 ∨ (data.findItem inv.armorTid).isSome

theorem listed_slot_id (inv : Inventory) (index : Nat) (known : (inv.slot index).itemTid = 0 ∨ (data.findItem (inv.slot index).itemTid).isSome) :
    ((listedSlot data inv index).getD {}).itemId = (inv.slot index).itemTid := by
  cases listed : listedItem data inv index with
  | some item =>
      rw [listedSlot, listed]
      exact (listed_id data inv index item listed).1
  | none =>
      have empty : (inv.slot index).itemTid = 0 := by
        rw [listedItem] at listed
        by_cases nothing : (inv.slot index).itemTid = 0
        · exact nothing
        · rw [if_neg nothing] at listed
          simpa [listed] using known
      rw [listedSlot, listed, empty]
      rfl

theorem greeting_gearless (s : ServerState) (sid : SessionId) (message : Message) (told : message ∈ greeting s sid) : ¬ SaysGear message := by
  rcases List.mem_cons.mp told with rfl | told
  · exact id
  · rcases List.mem_append.mp told with spawn | info
    · obtain ⟨npc, _, rfl⟩ := List.mem_map.mp spawn
      exact id
    · obtain ⟨other, _, rfl⟩ := List.mem_map.mp info
      exact id

def bareWardrobe : Vector ShownSlot maxInventory × Bytes × Bytes := (Vector.replicate maxInventory {}, [], [])

theorem settling_shows (s : ServerState) (sid : SessionId) (inv : Inventory) (known : KnownItems data inv) (client : Client)
    (fresh : wardrobe client = bareWardrobe) : ShowsItems data inv ((settling data s sid inv).foldl Client.receive client) := by
  simp only [wardrobe, bareWardrobe, Prod.mk.injEq] at fresh
  obtain ⟨bare, unarmed, unarmoured⟩ := fresh
  have slots (index : Fin maxInventory) :
      (client.onInventoryList (inventoryList data inv)).inventory[index].itemId = (inv.slot index).itemTid := by
    rw [inventory_list_shown, bare]
    simpa using listed_slot_id data inv index (known.slots index)
  have names : ((client.onInventoryList (inventoryList data inv)).equippedWeapon, (client.onInventoryList (inventoryList data inv)).equippedArmor) =
      (client.equippedWeapon, client.equippedArmor) :=
    Machine.foldl_frame Client.onInventoryUpdate (fun client => (client.equippedWeapon, client.equippedArmor)) (fun _ _ => rfl) _ _
  obtain ⟨weapon, armor⟩ := Prod.mk.inj names
  rw [settling, List.foldl_cons, outfit]
  split
  · rw [List.foldl_cons, List.foldl_nil]
    exact equip_result_shows slots known.weapon known.armor _ rfl rfl rfl
  · rename_i nothing
    rw [not_or, not_not, not_not] at nothing
    exact ⟨slots, .inl ⟨nothing.1, weapon.trans unarmed⟩, .inl ⟨nothing.2, armor.trans unarmoured⟩⟩

theorem select_shows (s : ServerState) (sid : SessionId) (req : CsCharSelect) (row : Int32 × Int64 × Int64) (input : Input)
    (clients : SessionId → Client) (selects : selecting s input = some (sid, req, row)) (unsent : s.sent = []) (open_ : s.line sid = some true)
    (fresh : wardrobe (clients sid) = bareWardrobe) (known : KnownItems data (storedItems s.db (input.answer 3) req.charUid)) :
    ShowsItems data ((step data s input).inventory sid) (shown clients (step data s input) sid) := by
  have items : (step data s input).inventory sid = storedItems s.db (input.answer 3) req.charUid :=
    (select_items data s sid req input row selects).1
  have entered := (step_selecting data s sid req input row selects).2.2.2
  obtain ⟨info, inboxes, _⟩ := enter_game_inbox data (admitted (facing s input) sid req row) sid
  have opened := inboxes ((admitted_line s sid req row input sid).trans open_)
  have sent : (admitted (facing s input) sid req row).sent = [] := unsent
  let greeted := (greeting (admitted (facing s input) sid req row) sid).foldl Client.receive (clients sid)
  have bare : wardrobe (greeted.receive (.attendanceInfo info)) = bareWardrobe := by
    have quiet : wardrobe greeted = wardrobe (clients sid) := hushed_fold wardrobe _ (fun message told => hushed_gear message
      (greeting_gearless _ sid message told)) (clients sid)
    exact (hushed_gear (.attendanceInfo info) id greeted).trans (quiet.trans fresh)
  rw [items, shown, entered, opened, sent, select_entrance data s sid req row input selects, inbox, List.filterMap_nil, List.nil_append,
    List.foldl_append, List.foldl_cons]
  exact settling_shows data _ sid _ known _ bare

end Entrance

section Stage

variable (data : GameData) (sid : SessionId)

structure UpToDate (scene : Scene) : Prop where
  party : PartyInvariant scene.server
  open_ : scene.server.line sid = some true
  shows : ShowsItems data (scene.server.inventory sid) (scene.clients sid)

theorem stage_seat (scene : Scene) (input : Input) (open_ : scene.server.line sid = some true) :
    shown (seat {} scene.clients (newcomer scene.server input)) { scene.server with sent := [] } sid = scene.clients sid := by
  have here : sid ∈ scene.server.sessions := (mem_line scene.server sid).mpr (by rw [open_]; rfl)
  exact seat_present {} scene.clients scene.server input sid here

theorem stage_up_to_date (scene : Scene) (input : Input) (plays : PlaysOn sid input) (fresh : UpToDate data sid scene) :
    UpToDate data sid (stageStep data scene input) := by
  let s : ServerState := { scene.server with sent := [] }
  have party : PartyInvariant s := ⟨fresh.party.indexed, fresh.party.honest, fresh.party.attended⟩
  have unselected (req : CsCharSelect) (row : Int32 × Int64 × Int64) : selecting s input ≠ some (sid, req, row) :=
    fun selects => plays.1 req (selecting_session s sid req input row selects)
  have follows := step_keeps_up (seat {} scene.clients (newcomer scene.server input)) s sid input (items_mirroring data) fresh.party.indexed
    rfl plays.2 unselected fresh.open_
  refine ⟨step_party_invariant data s input party, step_line_holds data s sid input fresh.party.indexed plays.2 fresh.open_, follows ?_⟩
  rw [stage_seat sid scene input fresh.open_]
  exact fresh.shows

theorem stage_selected (scene : Scene) (input : Input) (req : CsCharSelect) (row : Int32 × Int64 × Int64) (party : PartyInvariant scene.server)
    (selects : selecting scene.server input = some (sid, req, row)) (open_ : scene.server.line sid = some true)
    (fresh : wardrobe (scene.clients sid) = bareWardrobe) (known : KnownItems data (storedItems scene.server.db (input.answer 3) req.charUid)) :
    UpToDate data sid (stageStep data scene input) := by
  let s : ServerState := { scene.server with sent := [] }
  have tidy : PartyInvariant s := ⟨party.indexed, party.honest, party.attended⟩
  have here : sid ∈ scene.server.sessions := (mem_line scene.server sid).mpr (by rw [open_]; rfl)
  have seated := seat_present {} scene.clients scene.server input sid here
  have asks := selecting_session s sid req input row selects
  have line : (step data s input).line sid = some true := by
    obtain ⟨present, alive, _, _⟩ := step_selecting data s sid req input row selects
    rw [step_alive data s input alive, asks, handle_event_here data (facing s input) sid _ present]
    exact (handle_line data (facing s input) party.indexed sid _ sid).trans open_
  exact ⟨step_party_invariant data s input tidy, line,
    select_shows data s sid req row input _ selects rfl open_ ((congrArg wardrobe seated).trans fresh) known⟩

theorem stage_run_up_to_date (inputs : List Input) (plays : ∀ input ∈ inputs, PlaysOn sid input) (scene : Scene)
    (fresh : UpToDate data sid scene) : UpToDate data sid (Machine.run (stageStep data) scene inputs) := by
  induction inputs generalizing scene with
  | nil => exact fresh
  | cons input rest ih =>
      have stepped := stage_up_to_date data sid scene input (plays input List.mem_cons_self) fresh
      exact ih (fun later member => plays later (List.mem_cons_of_mem _ member)) _ stepped

-- One selection on a fresh client, and whatever anybody asks for afterwards: once
-- everything has arrived, the client shows what the server holds.
theorem inventory_mirrored (db : Database) (draw : Nat → Nat) (before after : List Turn) (input : Input) (req : CsCharSelect)
    (row : Int32 × Int64 × Int64) :
    let early := Machine.run (relayStep data) (Relay.boot db draw) before
    let late := Machine.run (relayStep data) early (.serve input :: after)
    selecting early.server input = some (sid, req, row) → early.server.line sid = some true →
      wardrobe (early.feeds sid).drained = bareWardrobe → KnownItems data (storedItems early.server.db (input.answer 3) req.charUid) →
        (∀ given ∈ after.filterMap Turn.served, PlaysOn sid given) →
          ShowsItems data (late.server.inventory sid) (late.feeds sid).drained := by
  intro early late selects open_ fresh known plays
  have party : PartyInvariant early.server := relay_party data db draw before
  have begun := stage_selected data sid early.drained input req row party selects open_ fresh known
  have ended : late.drained = Machine.run (stageStep data) (stageStep data early.drained input) (after.filterMap Turn.served) :=
    (relay_simulates data).run early (.serve input :: after)
  have reached : UpToDate data sid late.drained := by
    rw [ended]
    exact stage_run_up_to_date data sid _ plays _ begun
  exact reached.shows

def armoury : List Turn := [.serve ⟨.accept, [], []⟩, .serve ⟨.packet 1 (.login ⟨[49]⟩), [], []⟩]

def arming : List Turn := [.deliver 1, .serve ⟨.packet 1 (.shopBuy ⟨1⟩), [], []⟩, .serve ⟨.packet 1 (.itemEquip ⟨0⟩), [], []⟩]

theorem sword_shown :
    let early := Machine.run (relayStep arenaData) (Relay.boot twoCharacters (fun _ => 0)) armoury
    let late := Machine.run (relayStep arenaData) early (.serve ⟨.packet 1 (.charSelect ⟨1⟩), [], []⟩ :: arming)
    ShowsItems arenaData (late.server.inventory 1) (late.feeds 1).drained := by
  have plays : ∀ given ∈ arming.filterMap Turn.served, PlaysOn 1 given := by
    intro given member
    simp only [arming, Turn.served, List.filterMap_cons, List.filterMap_nil, List.mem_cons, List.not_mem_nil, or_false] at member
    rcases member with rfl | rfl <;> exact ⟨by simp, by simp, by simp⟩
  exact inventory_mirrored arenaData 1 twoCharacters (fun _ => 0) armoury arming ⟨.packet 1 (.charSelect ⟨1⟩), [], []⟩ ⟨1⟩ (1, 0, 0)
    (by decide +kernel) (by decide +kernel) (by decide +kernel)
    ⟨by decide +kernel, by decide +kernel, by decide +kernel⟩ plays

end Stage

end MmorpgSimulator
