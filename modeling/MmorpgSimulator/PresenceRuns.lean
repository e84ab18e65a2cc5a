import MmorpgSimulator.Presence

set_option autoImplicit false

namespace MmorpgSimulator

section Sights

variable {s t : ServerState}

theorem distinct_same (distinct : DistinctAccounts s) (still : ∀ sid, sightOf (t.player sid) = sightOf (s.player sid)) :
    DistinctAccounts t := by
  intro one other uid place place' seen seenToo
  rw [still] at seen seenToo
  exact distinct one other uid place place' seen seenToo

theorem distinct_accounts_iff :
    DistinctAccounts s ↔ s.inGame.Pairwise (fun one other => (s.player one).accountUid ≠ (s.player other).accountUid) := by
  constructor
  · intro distinct
    refine List.Pairwise.imp_of_mem (fun first second different same => ?_) (in_game_once s)
    have seen := sight_in_game _ ((mem_in_game s _).mp first)
    rw [same] at seen
    exact different (distinct _ _ _ _ _ seen (sight_in_game _ ((mem_in_game s _).mp second)))
  · intro pairwise one other uid place place' seen seenToo
    by_contra apart
    have playing (sid : SessionId) (spot : Place) (visible : sightOf (s.player sid) = some (uid, spot)) :
        sid ∈ s.inGame ∧ (s.player sid).accountUid = uid := by
      rw [sightOf, Option.ite_none_right_eq_some] at visible
      exact ⟨(mem_in_game s sid).mpr visible.1, congrArg Prod.fst (Option.some.inj visible.2)⟩
    have first := playing one place seen
    have second := playing other place' seenToo
    have symmetric : Std.Symm (fun one other => (s.player one).accountUid ≠ (s.player other).accountUid) := ⟨fun _ _ => Ne.symm⟩
    exact pairwise.forall first.1 second.1 apart (first.2.trans second.2.symm)

instance (s : ServerState) : Decidable (DistinctAccounts s) := decidable_of_iff _ distinct_accounts_iff.symm

end Sights

section Quiet

variable (clients : SessionId → Client) (s t : ServerState) (other : SessionId)

theorem shown_unsent {View : Type} {view : Client → View} (unsent : s.sent = []) (quiet : Unseen view clients other s t) :
    view (shown clients t other) = view (clients other) := by
  rw [quiet, shown, unsent]
  rfl

theorem attends_quiet (unsent : s.sent = []) (quiet : Unseen othersView clients other s t) (players : t.player other = s.player other)
    (still : ∀ mid, mid ≠ other → sightOf (t.player mid) = sightOf (s.player mid)) (distinct : DistinctAccounts s)
    (after : DistinctAccounts t) (attends : Attends (othersView (clients other)) s other) : Attends (othersView (shown clients t other)) t other := by
  rw [shown_unsent clients s t other unsent quiet]
  exact attends_same s other _ attends distinct after ⟨congrArg PlayerData.loggedIn players, congrArg PlayerData.accountUid players⟩ still

end Quiet

section Selections

variable (data : GameData) (clients : SessionId → Client) (s : ServerState) (sid : SessionId) (req : CsCharSelect)
  (row : Int32 × Int64 × Int64) (input : Input)

theorem select_attends (selects : selecting s input = some (sid, req, row)) (unsent : s.sent = []) (open_ : s.line sid = some true)
    (distinct : DistinctAccounts s) (after : DistinctAccounts (step data s input)) (attends : Attends (othersView (clients sid)) s sid) :
    Attends (othersView (shown clients (step data s input) sid)) (step data s input) sid := by
  have entered := (step_selecting data s sid req input row selects).2.2.2
  obtain ⟨_, _, players, _⟩ := select_items data s sid req input row selects
  obtain ⟨playing, account, kept, sight⟩ := select_sight data s sid req row input selects
  let t := admitted (facing s input) sid req row
  have rest (mid : SessionId) (apart : mid ≠ sid) : t.player mid = s.player mid := admitted_others (facing s input) sid req row mid apart
  have ready : DistinctAccounts t := by
    refine distinct_same after (fun mid => ?_)
    by_cases own : mid = sid
    · rw [own]
      exact sight.symm
    · rw [(players mid own).1, rest mid own]
  obtain ⟨info, inboxes, _⟩ := enter_game_inbox data t sid
  have opened := inboxes ((admitted_line s sid req row input sid).trans open_)
  have silent : t.sent = [] := unsent
  have settled (message : Message) (told : message ∈ Message.attendanceInfo info :: settling data t sid (entranceInventory t sid)) :
      Hushed othersView message := hushed_presence _ (outfit_quiet data _ _ info message told).1
  have known : (othersView (clients sid)).state = .charSelect ∨ (othersView (clients sid)).self = (t.player sid).accountUid := by
    rw [account]
    cases inGame : (s.player sid).loggedIn with
    | true => exact .inr (attends.inside inGame).2.1
    | false => exact (attends.outside inGame).2
  have others : (fun uid => (othersInGame t sid uid).or ((othersView (clients sid)).others uid)) = othersInGame t sid := by
    funext uid
    cases inGame : (s.player sid).loggedIn with
    | true =>
        rw [(attends.inside inGame).2.2, others_in_game_same sid distinct ready (fun mid apart => by rw [rest mid apart])]
        exact Option.or_self
    | false =>
        rw [(attends.outside inGame).1]
        exact Option.or_none
  have welcome := greeting_others sid t (clients sid) ready playing known
  have told : othersView (shown clients (step data s input) sid) = ⟨if (othersView (clients sid)).state = .charSelect then .inGame
      else (othersView (clients sid)).state, (t.player sid).accountUid, othersInGame t sid⟩ := by
    rw [shown, entered, opened, silent, inbox, List.filterMap_nil, List.nil_append, List.foldl_append, hushed_fold othersView _ settled,
      welcome, others]
  rw [told]
  refine ⟨fun _ => ⟨?_, account.trans kept.symm, ?_⟩, fun outside => ?_⟩
  · show (if (othersView (clients sid)).state = .charSelect then GameState.inGame else (othersView (clients sid)).state) ≠ .charSelect
    split
    · simp
    · assumption
  · exact (others_in_game_same sid ready after (fun mid apart => by rw [(players mid apart).1, rest mid apart])).symm
  · have inside : ((step data s input).player sid).loggedIn = true := by
      have seen := sight.trans (sight_in_game _ playing)
      rw [sightOf, Option.ite_none_right_eq_some] at seen
      exact seen.1
    rw [inside] at outside
    exact absurd outside (by simp)

theorem select_attends_other (selects : selecting s input = some (sid, req, row)) (unsent : s.sent = []) (other : SessionId)
    (open_ : s.line other = some true) (apart : other ≠ sid) (distinct : DistinctAccounts s) (after : DistinctAccounts (step data s input))
    (attends : Attends (othersView (clients other)) s other) :
    Attends (othersView (shown clients (step data s input) other)) (step data s input) other := by
  have entered := (step_selecting data s sid req input row selects).2.2.2
  obtain ⟨_, _, players, _⟩ := select_items data s sid req input row selects
  obtain ⟨playing, account, _, sight⟩ := select_sight data s sid req row input selects
  let t := admitted (facing s input) sid req row
  have rest : t.player other = s.player other := admitted_others (facing s input) sid req row other apart
  have line : t.line other = some true := (admitted_line s sid req row input other).trans open_
  have silent : t.sent = [] := unsent
  obtain ⟨_, _, inboxes⟩ := enter_game_inbox data t sid
  rw [shown, entered, inboxes other apart, silent, inbox, List.filterMap_nil, List.nil_append, ← entered]
  by_cases inGame : (s.player other).loggedIn = true
  · have listed : other ∈ t.inGame ∧ t.line other = some true := ⟨(mem_in_game t other).mpr (by rw [rest]; exact inGame), line⟩
    rw [if_pos listed, List.foldl_cons, List.foldl_nil, char_info_meets]
    refine meets_player s other sid (t.player sid) (Ne.symm apart) _ attends distinct after inGame (players other apart).1
      (fun mid away => by rw [(players mid away).1]) (fun uid old seen => ?_) (sight.trans (sight_in_game _ playing))
    rw [sightOf, Option.ite_none_right_eq_some] at seen
    exact (congrArg Prod.fst (Option.some.inj seen.2)).symm.trans account.symm
  · have away : ¬ (other ∈ t.inGame ∧ t.line other = some true) := fun both => inGame (rest ▸ (mem_in_game t other).mp both.1)
    rw [if_neg away, List.foldl_nil]
    refine ⟨fun inside => ?_, fun _ => ?_⟩
    · rw [(players other apart).1] at inside
      exact absurd inside inGame
    · rw [(players other apart).1]
      exact attends.outside (by simpa using inGame)

theorem refused_attends (alive : s.fault = none) (here : sid ∈ s.sessions) (asks : input.event = .packet sid (.charSelect req))
    (stays : selecting s input = none) (unsent : s.sent = []) (other : SessionId) (distinct : DistinctAccounts s)
    (after : DistinctAccounts (step data s input)) (attends : Attends (othersView (clients other)) s other) :
    Attends (othersView (shown clients (step data s input) other)) (step data s input) other := by
  have missing : ((facing s input).procReply (loginCall (facing s input) sid req)).row = none := by
    rw [selecting, asks] at stays
    simp only [alive, Option.isNone_none, here, and_self, if_true, Option.map_eq_none_iff] at stays
    exact stays
  have acts : step data s input = onCharSelect data (facing s input) sid req := by
    rw [step_alive data s input alive, asks, handle_event_here data (facing s input) sid _ here]
    rfl
  rw [acts, on_char_select_missing data (facing s input) sid req missing] at after ⊢
  have start : Unseen othersView clients other s ((facing s input).executeProc (loginCall (facing s input) sid req)).1 := unseen_same (by rfl)
  have quiet := start.send sid (.error { errorCode := 1, message := text "Character not found" }) (hushed_presence _ id)
  exact attends_quiet clients s _ other unsent quiet (by rfl) (fun mid _ => by rfl) distinct after attends

end Selections

section Departures

variable (s : ServerState) (sid : SessionId)

theorem on_disconnect_sent : (onDisconnect s sid).sent = (removeFromParty s sid).sent ++
    if (s.player sid).loggedIn = true then
      (neighbours s sid).flatMap (fun other => s.deliver other (.charLeave { charUid := (s.player sid).accountUid }))
    else [] := by
  have kept := remove_from_party_sessions s sid
  have listed : (onPlayerDisconnect s sid).inGame = s.inGame := by
    rw [ServerState.inGame, ServerState.inGame, onPlayerDisconnect]
    simp only [kept]
  have delivered : (onPlayerDisconnect s sid).deliver = s.deliver := deliver_same s (onPlayerDisconnect s sid) kept
  rw [onDisconnect]
  have known : (onPlayerDisconnect s sid).sessions[sid]? = s.sessions[sid]? := congrArg (fun sessions => sessions[sid]?) kept
  have player : s.player sid = ((s.sessions[sid]?).map Session.player).getD {} := rfl
  simp only [known]
  cases present : s.sessions[sid]? with
  | none =>
      rw [player, present]
      exact (List.append_nil _).symm
  | some session =>
      rw [player, present]
      simp only [Option.map_some, Option.getD_some]
      split
      · rw [ServerState.broadcastExcept, listed, delivered]
        rfl
      · exact (List.append_nil _).symm

variable (clients : SessionId → Client) (other : SessionId)

theorem on_disconnect_attends (unsent : s.sent = []) (apart : other ≠ sid) (open_ : s.line other = some true) (distinct : DistinctAccounts s)
    (after : DistinctAccounts (onDisconnect s sid)) (attends : Attends (othersView (clients other)) s other) :
    Attends (othersView (shown clients (onDisconnect s sid) other)) (onDisconnect s sid) other := by
  have gone := on_disconnect_departed s sid
  have left : (onDisconnect s sid).player sid = {} := gone.player
  have still (mid : SessionId) (away : mid ≠ sid) : sightOf ((onDisconnect s sid).player mid) = sightOf (s.player mid) := by
    rw [gone.players mid away]
  have party : Unseen othersView clients other s (removeFromParty s sid) :=
    (remove_from_party_speaks (Speaks.refl s) sid (fun _ => hushed_presence _ id) (fun _ => hushed_presence _ id)).unseen clients other
  have sent := on_disconnect_sent s sid
  have before : othersView (shown clients (removeFromParty s sid) other) = othersView (clients other) := shown_unsent clients s _ other unsent party
  have sent := on_disconnect_sent s sid
  by_cases played : (s.player sid).loggedIn = true
  · rw [if_pos played] at sent
    have once : (neighbours s sid).Nodup := (in_game_once s).filter _
    rw [shown_sends clients other (removeFromParty s sid) _ _ sent, inbox_deliver_each s _ once]
    by_cases inGame : (s.player other).loggedIn = true
    · obtain ⟨state, self, others⟩ := attends.inside inGame
      have listed : other ∈ neighbours s sid ∧ s.line other = some true := ⟨(mem_neighbours sid other).mpr ⟨inGame, apart⟩, open_⟩
      have seen := sight_in_game _ played
      have was (account : AccountUid) (old : Place) (visible : sightOf (s.player sid) = some (account, old)) :
          account = (s.player sid).accountUid := by
        rw [seen] at visible
        exact (congrArg Prod.fst (Option.some.inj visible)).symm
      have now : sightOf ((onDisconnect s sid).player sid) = (none : Option Place).map (fun new => ((s.player sid).accountUid, new)) := by
        rw [left]
        rfl
      have alone (mid : SessionId) (old : Place) (away : mid ≠ sid) : sightOf (s.player mid) ≠ some ((s.player sid).accountUid, old) :=
        fun visible => away (distinct mid sid _ _ _ visible seen)
      have changed := others_in_game_changed other distinct after sid (Ne.symm apart) still _ none was now alone
      rw [if_pos listed, List.foldl_cons, List.foldl_nil, char_leave_forgets, before]
      refine ⟨fun _ => ⟨state, by rw [gone.players other apart]; exact self, ?_⟩, fun outside => ?_⟩
      · rw [changed, ← others]
        rfl
      · rw [gone.players other apart, inGame] at outside
        exact absurd outside (by simp)
    · have away : ¬ (other ∈ neighbours s sid ∧ s.line other = some true) := fun both => inGame ((mem_neighbours sid other).mp both.1).1
      rw [if_neg away, List.foldl_nil, before]
      refine ⟨fun inside => ?_, fun _ => ?_⟩
      · rw [gone.players other apart] at inside
        exact absurd inside inGame
      · rw [gone.players other apart]
        exact attends.outside (by simpa using inGame)
  · rw [if_neg played, List.append_nil] at sent
    refine attends_quiet clients s _ other unsent (party.trans (unseen_same sent)) (gone.players other apart) (fun mid _ => ?_) distinct after attends
    by_cases leaver : mid = sid
    · rw [leaver, left, sightOf, sightOf, if_neg played, if_neg (by simp)]
    · exact still mid leaver

end Departures

def Visit (turn : Turn) : Prop :=
  ∀ input ∈ turn.served,
    match input.event with
    | .accept => True
    | .packet _ (.login _) => True
    | .packet _ (.charSelect _) => True
    | .packet _ (.move _) => True
    | .disconnect _ => True
    | _ => False

def strays (s : ServerState) (input : Input) : Bool :=
  match input.event with
  | .packet sid (.move _) => sid ∈ s.sessions ∧ (s.player sid).loggedIn = false ∧ neighbours s sid ≠ []
  | _ => false

-- Who logs in is not in the game yet, and who moves is there already, unless nobody is.
def InPlace (s : ServerState) (turn : Turn) : Prop := ∀ input ∈ turn.served, relogin s input = none ∧ strays s input = false

instance (s : ServerState) (turn : Turn) : Decidable (InPlace s turn) := inferInstanceAs (Decidable (∀ input ∈ turn.served, _))

section Steps

variable (data : GameData) (s : ServerState) (input : Input)

theorem step_open (visit : Visit (.serve input)) (indexed : s.party.Indexed) (all : ∀ sid ∈ s.sessions, s.line sid = some true)
    (sid : SessionId) (here : sid ∈ (step data s input).sessions) : (step data s input).line sid = some true := by
  have visiting := visit input rfl
  have open_ : ((step data s input).line sid).isSome := (mem_line _ sid).mp here
  have onward (line : (step data s input).line sid = s.line sid) : (step data s input).line sid = some true := by
    rw [line] at open_ ⊢
    exact all sid ((mem_line s sid).mpr open_)
  cases dead : s.fault with
  | some fault => exact onward (by rw [step_dead data s input fault dead])
  | none =>
      cases happens : input.event with
      | writeError other =>
          rw [happens] at visiting
          exact absurd visiting id
      | accept =>
          have accepted : step data s input = doAccept (facing s input) := by
            rw [step_alive data s input dead, happens]
            rfl
          have line := do_accept_line (facing s input) sid
          rw [← accepted] at line
          split at line
          · exact line
          · exact onward line
      | disconnect other =>
          by_cases present : other ∈ s.sessions
          · have left : step data s input = onDisconnect (setUnconnected (facing s input) other) other := by
              rw [step_alive data s input dead, happens, disconnect_here data (facing s input) other present]
            by_cases leaver : sid = other
            · rw [left, leaver] at here
              exact absurd here (on_disconnect_departed (setUnconnected (facing s input) other) other).gone
            · exact onward (by rw [left]; exact on_disconnect_line (facing s input) other sid leaver)
          · exact onward (by rw [step_alive data s input dead, happens, disconnect_absent data (facing s input) other present]; rfl)
      | packet other request =>
          by_cases present : other ∈ s.sessions
          · refine onward ?_
            rw [step_alive data s input dead, happens, handle_event_here data (facing s input) other request present]
            exact handle_line data (facing s input) indexed other request sid
          · exact onward (by rw [step_alive data s input dead, happens, handle_event_absent data (facing s input) other request present]; rfl)

theorem step_attends (clients : SessionId → Client) (visit : Visit (.serve input)) (inPlace : InPlace s (.serve input)) (unsent : s.sent = [])
    (all : ∀ sid ∈ s.sessions, s.line sid = some true) (distinct : DistinctAccounts s) (after : DistinctAccounts (step data s input))
    (other : SessionId) (here : other ∈ s.sessions) (stays : other ∈ (step data s input).sessions)
    (attends : Attends (othersView (clients other)) s other) :
    Attends (othersView (shown clients (step data s input) other)) (step data s input) other := by
  have visiting := visit input rfl
  obtain ⟨once, inside⟩ := inPlace input rfl
  have still (same : step data s input = facing s input) :
      Attends (othersView (shown clients (step data s input) other)) (step data s input) other := by
    rw [same] at after ⊢
    exact attends_quiet clients s _ other unsent (unseen_same rfl) rfl (fun _ _ => rfl) distinct after attends
  cases dead : s.fault with
  | some fault =>
      have same := step_dead data s input fault dead
      rw [same, shown, unsent]
      exact attends
  | none =>
      cases happens : input.event with
      | writeError sid =>
          rw [happens] at visiting
          exact absurd visiting id
      | accept =>
          have accepted : step data s input = doAccept (facing s input) := by
            rw [step_alive data s input dead, happens]
            rfl
          rw [accepted] at after ⊢
          have players := (idle_do_accept (facing s input)).players
          have sent : (doAccept (facing s input)).sent = s.sent := by
            rw [doAccept]
            split <;> rfl
          exact attends_quiet clients s _ other unsent (unseen_same sent) (players other) (fun mid _ => congrArg sightOf (players mid)) distinct
            after attends
      | disconnect sid =>
          by_cases present : sid ∈ s.sessions
          · have left : step data s input = onDisconnect (setUnconnected (facing s input) sid) sid := by
              rw [step_alive data s input dead, happens, disconnect_here data (facing s input) sid present]
            rw [left] at after stays ⊢
            have apart : other ≠ sid := by
              rintro rfl
              exact (on_disconnect_departed (setUnconnected (facing s input) other) other).gone stays
            have players := (idle_set_unconnected (facing s input) sid).players
            have marked : DistinctAccounts (setUnconnected (facing s input) sid) := distinct_same distinct (fun mid => congrArg sightOf (players mid))
            have ready := attends_quiet clients s (setUnconnected (facing s input) sid) other unsent (unseen_same rfl) (players other)
              (fun mid _ => congrArg sightOf (players mid)) distinct marked attends
            have unheard : shown clients (setUnconnected (facing s input) sid) other = clients other := by
              rw [shown, show (setUnconnected (facing s input) sid).sent = [] from unsent]
              rfl
            have line : (setUnconnected (facing s input) sid).line other = some true := by
              have far : compare sid other ≠ .eq := fun equal => apart (Std.compare_eq_iff_eq.mp equal).symm
              rw [ServerState.line, setUnconnected, Std.ExtTreeMap.getElem?_modify, if_neg far]
              exact all other here
            rw [unheard] at ready
            exact on_disconnect_attends _ sid clients other unsent apart line marked after ready
          · exact still (by rw [step_alive data s input dead, happens, disconnect_absent data (facing s input) sid present])
      | packet sid request =>
          by_cases present : sid ∈ s.sessions
          · have acts : step data s input = handle data (facing s input) sid request := by
              rw [step_alive data s input dead, happens, handle_event_here data (facing s input) sid request present]
            have ready : Attends (othersView (clients other)) (facing s input) other := ⟨attends.inside, attends.outside⟩
            cases request with
            | login login =>
                have outside : (s.player sid).loggedIn = false := by
                  simpa [relogin, happens, dead] using once
                rw [acts] at after ⊢
                exact on_login_attends data clients (facing s input) sid other login unsent present (all sid present) outside distinct after ready
            | charSelect req =>
                cases selects : selecting s input with
                | none => exact refused_attends data clients s sid req input dead present happens selects unsent other distinct after attends
                | some selection =>
                    obtain ⟨owner, asked, row⟩ := selection
                    by_cases own : other = owner
                    · subst own
                      exact select_attends data clients s other asked row input selects unsent (all other here) distinct after attends
                    · exact select_attends_other data clients s owner asked row input selects unsent other (all other here) own distinct after
                        attends
            | move move =>
                have ready' : (s.player sid).loggedIn = true ∨ neighbours s sid = [] := by
                  by_contra stray
                  obtain ⟨outside, others⟩ := not_or.mp stray
                  simp [strays, happens, present, outside, others] at inside
                rw [acts] at after ⊢
                exact on_move_attends clients (facing s input) sid other move unsent present ready' distinct after (all other here) ready
            | _ =>
                rw [happens] at visiting
                exact absurd visiting id
          · exact still (by rw [step_alive data s input dead, happens, handle_event_absent data (facing s input) sid request present])

end Steps

section Runs

variable (data : GameData)

structure Attending (scene : Scene) : Prop where
  party : PartyInvariant scene.server
  open_ : ∀ sid ∈ scene.server.sessions, scene.server.line sid = some true
  distinct : DistinctAccounts scene.server
  attending : ∀ sid ∈ scene.server.sessions, Attends (othersView (scene.clients sid)) scene.server sid

theorem stage_attending (scene : Scene) (input : Input) (visit : Visit (.serve input)) (inPlace : InPlace scene.server (.serve input))
    (after : DistinctAccounts (stageStep data scene input).server) (attending : Attending scene) : Attending (stageStep data scene input) := by
  let s : ServerState := { scene.server with sent := [] }
  have party : PartyInvariant s := ⟨attending.party.indexed, attending.party.honest, attending.party.attended⟩
  have open_ := step_open data s input visit party.indexed attending.open_
  refine ⟨step_party_invariant data s input party, open_, after, fun sid stays => ?_⟩
  rcases step_line_opens data s input party.indexed sid (open_ sid stays) with was | enters
  · have here : sid ∈ s.sessions := (mem_line s sid).mpr (by rw [was]; rfl)
    have before : Attends (othersView (seat {} scene.clients (newcomer scene.server input) sid)) s sid := by
      have seated := seat_present {} scene.clients scene.server input sid here
      rw [seated]
      exact ⟨(attending.attending sid here).inside, (attending.attending sid here).outside⟩
    exact step_attends data s input _ visit inPlace rfl attending.open_ attending.distinct after sid here stays before
  · obtain ⟨accepted, own, absent⟩ := step_newcomer data s input sid enters
    have taken : newcomer scene.server input = some sid := enters
    have sent : (step data s input).sent = [] := by
      rw [accepted, doAccept]
      split <;> rfl
    have player : (stageStep data scene input).server.player sid = {} := by
      change (step data s input).player sid = {}
      rw [accepted]
      exact ((idle_do_accept (facing s input)).players sid).trans (player_absent s sid absent)
    have fresh : (stageStep data scene input).clients sid = {} := by
      change (inbox (step data s input).sent sid).foldl Client.receive (seat {} scene.clients (newcomer scene.server input) sid) = {}
      rw [sent, taken]
      exact Function.update_self sid {} scene.clients
    rw [fresh]
    refine ⟨fun inside => ?_, fun _ => ⟨?_, .inr ?_⟩⟩
    · rw [player] at inside
      exact absurd inside (by simp)
    · funext uid
      simp [othersView]
    · rw [player]
      rfl

theorem relay_attending (relay : Relay) (turn : Turn) (visit : Visit turn) (inPlace : InPlace relay.server turn)
    (after : DistinctAccounts (relayStep data relay turn).server) (attending : Attending relay.drained) :
    Attending (relayStep data relay turn).drained := by
  cases turn with
  | deliver sid =>
      have rests : (relayStep data relay (.deliver sid)).drained = relay.drained := (relay_simulates data).rests relay _ rfl
      rw [rests]
      exact attending
  | serve input =>
      have acts : (relayStep data relay (.serve input)).drained = stageStep data relay.drained input := (relay_simulates data).acts relay _ input rfl
      rw [acts]
      exact stage_attending data relay.drained input visit inPlace after attending

theorem boot_attending (db : Database) (draw : Nat → Nat) : Attending (Relay.boot db draw).drained where
  party := boot_party_invariant db draw
  open_ := fun sid here => by simp [Relay.drained, Relay.boot, boot] at here
  distinct := by
    intro one other uid place place' seen
    have absent : (boot db draw).player one = {} := player_absent (boot db draw) one (by simp [boot])
    rw [show (Relay.boot db draw).drained.server = boot db draw from rfl, absent, sightOf, if_neg (by simp)] at seen
    exact absurd seen (by simp)
  attending := fun sid here => by simp [Relay.drained, Relay.boot, boot] at here

-- A session in the game to which nothing is under way shows, by their accounts, the
-- other sessions in the game where they stand, and nobody else.
def Relay.Acquainted (relay : Relay) : Prop :=
  ∀ sid, (relay.server.player sid).loggedIn = true → (relay.feeds sid).pending = [] →
    ∀ uid place, ((relay.feeds sid).client.otherPlayers[uid]?).map (fun other => (other.posX, other.posY)) = some place ↔
      ∃ other, other ≠ sid ∧ (relay.server.player other).loggedIn = true ∧ (relay.server.player other).accountUid = uid ∧
        ((relay.server.player other).posX, (relay.server.player other).posY) = place

theorem attending_acquainted (relay : Relay) (attending : Attending relay.drained) : relay.Acquainted := by
  intro sid playing quiet uid place
  have here : sid ∈ relay.server.sessions := by
    by_contra absent
    rw [player_absent relay.server sid absent] at playing
    exact absurd playing nofun
  obtain ⟨_, _, others⟩ := (attending.attending sid here).inside playing
  have drained : relay.drained.clients sid = (relay.feeds sid).client := Feed.drained_quiet (relay.feeds sid) quiet
  rw [drained] at others
  have seen : ((relay.feeds sid).client.otherPlayers[uid]?).map (fun other => (other.posX, other.posY)) = othersInGame relay.server sid uid :=
    congrFun others uid
  have apart : DistinctAccounts relay.server := attending.distinct
  rw [seen, others_in_game_iff sid apart]
  refine exists_congr (fun other => and_congr_right (fun _ => ?_))
  rw [sightOf, Option.ite_none_right_eq_some, Option.some.injEq, Prod.mk.injEq]

theorem visits_acquainted (db : Database) (draw : Nat → Nat) (turns : List Turn) (visits : ∀ turn ∈ turns, Visit turn)
    (distinct : Machine.Throughout (relayStep data) (fun relay => DistinctAccounts relay.server) (Relay.boot db draw) turns)
    (inPlace : Machine.Guarded (relayStep data) (fun relay turn => InPlace relay.server turn) (Relay.boot db draw) turns) :
    Machine.Throughout (relayStep data) Relay.Acquainted (Relay.boot db draw) turns := by
  have apart := Machine.throughout_steps (relayStep data) _ (Relay.boot db draw) turns distinct
  have guarded := Machine.guarded_among (relayStep data) _ Visit (Relay.boot db draw) turns visits
    (Machine.guarded_and (relayStep data) _ _ (Relay.boot db draw) turns inPlace apart)
  apply Machine.throughout_of_guarded (relayStep data) _ (fun relay => Attending relay.drained) Relay.Acquainted attending_acquainted _
    (Relay.boot db draw) turns (boot_attending db draw) guarded
  exact fun relay turn attending guard => relay_attending data relay turn guard.1 guard.2.1 guard.2.2 attending

def serve (event : Event) : Turn := .serve ⟨event, [], []⟩

def comesIn (sid : SessionId) (accountId : Bytes) (charUid : CharUid) : List Turn :=
  [serve .accept, serve (.packet sid (.login ⟨accountId⟩)), serve (.packet sid (.charSelect ⟨charUid⟩))]

def arrives (sid : SessionId) (messages : Nat) : List Turn := List.replicate messages (.deliver sid)

def movesUnnamed : List Turn :=
  comesIn 1 [49] 1 ++ [serve .accept, serve (.packet 2 (.move ⟨1, 0⟩))] ++ arrives 1 30 ++ arrives 2 30

-- Both are in the game when session 1 logs in again, to its own account, and then session 2 moves.
def logsInAgain : List Turn :=
  comesIn 1 [49] 1 ++ comesIn 2 [50] 2 ++ [serve (.packet 1 (.login ⟨[49]⟩)), serve (.packet 2 (.move ⟨1, 0⟩))] ++ arrives 1 30 ++ arrives 2 30

theorem arrives_all (relay : Relay) (sid : SessionId) (messages : Nat) (enough : (relay.feeds sid).pending.length ≤ messages) :
    Machine.run (relayStep data) relay (arrives sid messages) =
      { relay with feeds := Function.update relay.feeds sid ⟨(relay.feeds sid).drained, []⟩ } := by
  rw [arrives, deliveries, Feed.receive_all _ messages enough]

theorem arrives_two (relay : Relay) (sid other : SessionId) (apart : other ≠ sid) (messages : Nat)
    (first : (relay.feeds sid).pending.length ≤ messages) (second : (relay.feeds other).pending.length ≤ messages) :
    Machine.run (relayStep data) (Machine.run (relayStep data) relay (arrives sid messages)) (arrives other messages) =
      ⟨relay.server, Function.update (Function.update relay.feeds sid ⟨(relay.feeds sid).drained, []⟩) other
        ⟨(relay.feeds other).drained, []⟩⟩ := by
  have kept : Function.update relay.feeds sid ⟨(relay.feeds sid).drained, []⟩ other = relay.feeds other :=
    Function.update_of_ne apart _ relay.feeds
  rw [arrives_all data relay sid messages first, arrives_all]
  · simp only [kept]
  · simpa only [kept] using second

def Misleads (turns : List Turn) : Prop :=
  (∀ turn ∈ turns, Visit turn) ∧
    Machine.Throughout (relayStep emptyData) (fun relay => DistinctAccounts relay.server) (Relay.boot twoCharacters (fun _ => 0)) turns ∧
      (∀ sid ∈ [1, 2], ((Machine.run (relayStep emptyData) (Relay.boot twoCharacters (fun _ => 0)) turns).feeds sid).pending = []) ∧
        ¬ (Machine.run (relayStep emptyData) (Relay.boot twoCharacters (fun _ => 0)) turns).Acquainted

theorem stray_turns_mislead : Misleads movesUnnamed ∧ Misleads logsInAgain := by
  constructor
  · refine ⟨by simp [movesUnnamed, comesIn, arrives, serve, Visit, Turn.served], by decide +kernel, ?_⟩
    rw [movesUnnamed, Machine.run_append, Machine.run_append]
    generalize before : Machine.run (relayStep emptyData) (Relay.boot twoCharacters (fun _ => 0))
      (comesIn 1 [49] 1 ++ [serve .accept, serve (.packet 2 (.move ⟨1, 0⟩))]) = relay
    have stranger : relay.server.inGame = [1] ∧ (relay.feeds 1).pending.length ≤ 30 ∧ (relay.feeds 2).pending.length ≤ 30 ∧
        ((relay.feeds 1).drained.otherPlayers[(0 : AccountUid)]?).map (fun other => (other.posX, other.posY)) = some (11, 10) := by
      rw [← before]
      decide +kernel
    obtain ⟨inGame, first, second, shows⟩ := stranger
    rw [arrives_two emptyData relay 1 2 (by decide) 30 first second]
    refine ⟨by simp, fun known => ?_⟩
    have playing : (relay.server.player 1).loggedIn = true := (mem_in_game relay.server 1).mp (inGame ▸ List.mem_singleton_self 1)
    obtain ⟨other, apart, plays, _⟩ := (known 1 playing rfl 0 (11, 10)).mp shows
    have present := (mem_in_game relay.server other).mpr plays
    rw [inGame] at present
    exact apart (List.mem_singleton.mp present)
  · refine ⟨by simp [logsInAgain, comesIn, arrives, serve, Visit, Turn.served], by decide +kernel, ?_⟩
    rw [logsInAgain, Machine.run_append, Machine.run_append]
    generalize before : Machine.run (relayStep emptyData) (Relay.boot twoCharacters (fun _ => 0))
      (comesIn 1 [49] 1 ++ comesIn 2 [50] 2 ++ [serve (.packet 1 (.login ⟨[49]⟩)), serve (.packet 2 (.move ⟨1, 0⟩))]) = relay
    have stale : relay.server.inGame = [1, 2] ∧ (relay.feeds 1).pending.length ≤ 30 ∧ (relay.feeds 2).pending.length ≤ 30 ∧
        (relay.server.player 2).posX = 6 ∧
          ((relay.feeds 1).drained.otherPlayers[(2 : AccountUid)]?).map (fun other => (other.posX, other.posY)) = some (5, 5) := by
      rw [← before]
      decide +kernel
    obtain ⟨inGame, first, second, stands, shows⟩ := stale
    rw [arrives_two emptyData relay 1 2 (by decide) 30 first second]
    refine ⟨by simp, fun known => ?_⟩
    have playing : (relay.server.player 1).loggedIn = true := (mem_in_game relay.server 1).mp (inGame ▸ List.mem_cons_self)
    obtain ⟨other, apart, plays, _, place⟩ := (known 1 playing rfl 2 (5, 5)).mp shows
    have present := (mem_in_game relay.server other).mpr plays
    rw [inGame] at present
    obtain rfl := (List.mem_pair.mp present).resolve_left apart
    change ((relay.server.player 2).posX, (relay.server.player 2).posY) = (5, 5) at place
    have still : (6 : Int16) = 5 := stands.symm.trans (congrArg Prod.fst place)
    exact absurd still (by decide)

theorem two_visitors_acquainted : Machine.Throughout (relayStep emptyData) Relay.Acquainted (Relay.boot twoCharacters (fun _ => 0))
    (comesIn 1 [49] 1 ++ comesIn 2 [50] 2 ++ [serve (.packet 2 (.move ⟨1, 0⟩))] ++ arrives 1 30) :=
  visits_acquainted emptyData twoCharacters (fun _ => 0) _ (by simp [comesIn, arrives, serve, Visit, Turn.served]) (by decide +kernel)
    (by decide +kernel)

end Runs

end MmorpgSimulator
