import MmorpgSimulator.QuestPanels
import MmorpgSimulator.PresenceRuns

set_option autoImplicit false

namespace MmorpgSimulator

-- What everyone in the game is told: NPCs that die and come, items used, and what is
-- said to the whole world.
def isNews : Message → Bool
  | .npcDeath _ | .npcSpawn _ | .itemUseResult _ => true
  | .chat chat => chat.channel = 0
  | _ => false

def newsOf (messages : List Message) : List Message := messages.filter isNews

def newsFor (s : ServerState) (sid : SessionId) : List Message := newsOf (inbox s.sent sid)

structure Listening (s : ServerState) (sid : SessionId) : Prop where
  playing : (s.player sid).loggedIn = true
  open_ : s.line sid = some true

instance (s : ServerState) (sid : SessionId) : Decidable (Listening s sid) :=
  decidable_of_iff ((s.player sid).loggedIn = true ∧ s.line sid = some true) ⟨fun both => ⟨both.1, both.2⟩, fun h => ⟨h.playing, h.open_⟩⟩

def Proclaims (s t : ServerState) (news : List Message) (sid : SessionId) : Prop :=
  Listening s sid → newsFor t sid = newsFor s sid ++ news

section Telling

variable {s t u : ServerState} {sid : SessionId}

theorem news_append (first second : List Message) : newsOf (first ++ second) = newsOf first ++ newsOf second := List.filter_append first second

theorem proclaims_nothing (same : newsFor t sid = newsFor s sid) : Proclaims s t [] sid :=
  fun _ => same.trans (List.append_nil _).symm

theorem news_same (same : t.sent = s.sent) : newsFor t sid = newsFor s sid := by
  rw [newsFor, newsFor, same]

theorem news_speaks (speaks : Speaks (fun message => isNews message = false) s t) : newsFor t sid = newsFor s sid := by
  obtain ⟨extra, sent, spoken⟩ := speaks
  have silent : newsOf (inbox extra sid) = [] := by
    refine List.filter_eq_nil_iff.mpr (fun message member => ?_)
    simp [spoken (sid, message) ((mem_inbox extra sid message).mp member)]
  rw [newsFor, sent, inbox_append, news_append, silent, List.append_nil]
  rfl

theorem news_broadcast (message : Message) : Proclaims s (s.broadcast message) (newsOf [message]) sid := by
  intro listening
  have told : inbox (s.broadcast message).sent sid = inbox s.sent sid ++ [message] := by
    refine (inbox_append s.sent _ sid).trans ?_
    rw [inbox_deliver_each s s.inGame (in_game_once s), if_pos ⟨(mem_in_game s sid).mpr listening.playing, listening.open_⟩]
  rw [newsFor, told, news_append]
  rfl

end Telling

section Handlers

variable (data : GameData) (s : ServerState) (sid : SessionId)

theorem respawn_news : ∃ news, ∀ other, Proclaims s (respawn s) news other := by
  rw [respawn]
  split
  · exact ⟨[], fun other => proclaims_nothing rfl⟩
  · rename_i index _
    exact ⟨newsOf [.npcSpawn (npcSpawnOf (spawned s index))], fun other listening => news_broadcast
      (s := { s.rolled.rolled with npcs := s.npcs.set index (spawned s index), nextNpcUid := s.nextNpcUid + 1 }) _
      ⟨listening.playing, listening.open_⟩⟩

theorem killing_news (index : Fin maxNpc) (line : ∀ other, (killNpc data s sid index).line other = s.line other)
    (playing : ∀ other, ((killNpc data s sid index).player other).loggedIn = (s.player other).loggedIn) :
    ∃ news, ∀ other, Proclaims s (killNpc data s sid index) news other := by
  have quiet : Speaks (fun message => isNews message = false) (announceDeath s index) (afterDeath data s sid index) := by
    have shared : Speaks (fun message => isNews message = false) (announceDeath s index)
        (shareKill data (announceDeath s index) sid s.npcs[index]) :=
      share_kill_speaks data (Speaks.refl (announceDeath s index)) sid s.npcs[index] (fun _ => rfl) (fun _ => rfl) (fun _ => rfl)
    exact drop_item_speaks data (update_quest_progress_speaks data shared sid (fun _ => rfl)) sid (fun _ => rfl)
  have replaces : killNpc data s sid index = respawn (afterDeath data s sid index) := rfl
  rw [replaces] at line playing ⊢
  generalize afterDeath data s sid index = t at quiet line playing ⊢
  obtain ⟨later, respawned⟩ := respawn_news t
  refine ⟨newsOf [.npcDeath
    { npcUid := s.npcs[index].uid, expReward := s.npcs[index].expReward, goldReward := s.npcs[index].goldReward }] ++ later,
    fun other listening => ?_⟩
  have still : Listening t other := by
    constructor
    · rw [← player_same t _ (respawn_sessions t) other, playing other]
      exact listening.playing
    · rw [← line_same t _ (respawn_sessions t) other, line other]
      exact listening.open_
  have announced : newsFor (announceDeath s index) other = _ := news_broadcast _ listening
  rw [respawned other still, news_speaks quiet, announced, List.append_assoc]

theorem on_attack_news (indexed : s.party.Indexed) (atk : CsAttack) : ∃ news, ∀ other, Proclaims s (onAttack data s sid atk) news other := by
  have blow (index : Fin maxNpc) : Speaks (fun message => isNews message = false) s (strike s sid index) :=
    Speaks.send (t := setNpc s index (struck (s.player sid) s.npcs[index])) ((Speaks.refl s).same rfl) sid _ rfl
  cases slew : slain s sid atk with
  | none =>
      refine ⟨[], fun other => proclaims_nothing ?_⟩
      rcases slain_none data s sid atk slew with missed | ⟨index, hit⟩
      · rw [missed]
        exact news_speaks ((Speaks.refl s).send sid _ rfl)
      · rw [hit]
        exact news_speaks (blow index)
  | some npc =>
      obtain ⟨index, target, dies, _⟩ := slain_some s sid atk npc slew
      have line := handle_line data s indexed sid (.attack atk)
      have playing := handle_logged_in data s sid (.attack atk) (by simp)
      rw [handle, on_attack_kills data s sid atk index target dies] at line playing
      rw [on_attack_kills data s sid atk index target dies]
      obtain ⟨news, killed⟩ := killing_news data (strike s sid index) sid index line playing
      refine ⟨news, fun other listening => ?_⟩
      rw [killed other ⟨listening.playing, listening.open_⟩, news_speaks (blow index)]

theorem on_chat_news (chat : CsChat) : ∃ news, ∀ other, Proclaims s (onChat s sid chat) news other := by
  by_cases world : chat.channel = 0
  · rw [onChat, if_pos world]
    exact ⟨_, fun other => news_broadcast _⟩
  · refine ⟨[], fun other => proclaims_nothing (news_speaks ?_)⟩
    have start : Speaks (fun message => isNews message = false) s s := Speaks.refl s
    have apart (reply : ScChat) (same : reply.channel = chat.channel) : isNews (.chat reply) = false := by
      simp [isNews, same, world]
    rw [onChat, if_neg world]
    refine .ite (fun _ => ?_) (fun _ => .ite (fun _ => ?_) (fun _ => start))
    · have replied (reply : ScChat) (same : reply.channel = chat.channel) : Speaks (fun message => isNews message = false) s
          ((sessionsNamed s chat.targetName).foldl (fun t other => (t.send other (.chat reply)).send sid (.chat reply)) s) :=
        start.fold _ (fun t other => ((Speaks.refl t).send other _ (apart reply same)).send sid _ (apart reply same)) _
      exact .ite (fun _ => (replied _ rfl).send sid _ rfl) (fun _ => replied _ rfl)
    · split
      · exact .fold _ (fun t mid => (Speaks.refl t).send mid _ (apart _ rfl)) _ (start.same (by rfl))
      · exact start.send sid _ rfl

theorem listening_set_player (other : SessionId) (player : PlayerData) (same : player.loggedIn = (s.player sid).loggedIn)
    (listening : Listening s other) : Listening (s.setPlayer sid player) other where
  playing := by
    rcases SameQuests.player_or s sid other player with still | ⟨rfl, changed⟩
    · rw [still]
      exact listening.playing
    · rw [changed, same]
      exact listening.playing
  open_ := (line_set_player s sid other player).trans listening.open_

theorem on_item_use_news (req : CsItemUse) : ∃ news, ∀ other, Proclaims s (onItemUse data s sid req) news other := by
  have nothing (t : ServerState) (sent : t.sent = s.sent) : ∃ news, ∀ other, Proclaims s t news other :=
    ⟨[], fun other => proclaims_nothing (news_same sent)⟩
  have announced (t : ServerState) (sent : t.sent = s.sent) (stays : ∀ other, Listening s other → Listening t other) (message reply : Message)
      (quiet : isNews reply = false) : ∃ news, ∀ other, Proclaims s (sendCharInfo ((t.broadcast message).send sid reply) sid) news other := by
    have said : Speaks (fun message => isNews message = false) (t.broadcast message) (sendCharInfo ((t.broadcast message).send sid reply) sid) :=
      send_char_info_speaks ((Speaks.refl _).send sid reply quiet) sid (fun _ => rfl)
    refine ⟨newsOf [message], fun other listening => ?_⟩
    rw [news_speaks said, news_broadcast message (stays other listening), news_same sent]
  rw [onItemUse]
  simp only
  split
  · exact nothing _ rfl
  · split
    · exact nothing _ rfl
    · rename_i item _
      split
      · exact nothing _ rfl
      · refine announced _ (by rfl) (fun other listening => ?_) _ _ rfl
        have drunk := listening_set_player (s.touchInventory sid) sid other
          { s.player sid with hp := min ((s.player sid).hp + item.hp) (s.player sid).maxHp } rfl ⟨listening.playing, listening.open_⟩
        exact ⟨drunk.playing, drunk.open_⟩

theorem on_char_select_news (req : CsCharSelect) (other : SessionId) (apart : other ≠ sid) :
    newsFor (onCharSelect data s sid req) other = newsFor s other := by
  cases found : (s.procReply (loginCall s sid req)).row with
  | none =>
      rw [on_char_select_missing data s sid req found]
      exact news_speaks (Speaks.send ((Speaks.refl s).same (by rfl)) sid _ rfl)
  | some row =>
      rw [on_char_select_found data s sid req row found]
      obtain ⟨_, _, others⟩ := enter_game_inbox data (admitted s sid req row) sid
      rw [newsFor, others other apart, news_append]
      split <;> exact List.append_nil _

theorem handle_news (indexed : s.party.Indexed) (request : Request) :
    ∃ news, ∀ other, (∀ req, request = .charSelect req → other ≠ sid) → Proclaims s (handle data s sid request) news other := by
  have quiet (rest : Request) (silent : ∀ message, rest.Answers message → isNews message = false) :
      ∃ news, ∀ other, (∀ req, rest = .charSelect req → other ≠ sid) → Proclaims s (handle data s sid rest) news other :=
    ⟨[], fun other _ => proclaims_nothing (news_speaks ((handle_speaks data s sid rest).weaken silent))⟩
  have told (t : ServerState) (proclaimed : ∃ news, ∀ other, Proclaims s t news other) :
      ∃ news, ∀ other, (∀ req, request = .charSelect req → other ≠ sid) → Proclaims s t news other :=
    proclaimed.imp (fun news each other _ => each other)
  cases request with
  | attack atk => exact told _ (on_attack_news data s sid indexed atk)
  | chat chat => exact told _ (on_chat_news s sid chat)
  | itemUse req => exact told _ (on_item_use_news data s sid req)
  | charSelect req => exact ⟨[], fun other apart => proclaims_nothing (on_char_select_news data s sid req other (apart req rfl))⟩
  | _ => exact quiet _ (fun message answers => by cases message <;> first | rfl | exact absurd answers id)

end Handlers

section Turns

variable (data : GameData)

theorem step_news (s : ServerState) (input : Input) (indexed : s.party.Indexed) :
    ∃ news, ∀ other, selector input ≠ some other → Proclaims s (step data s input) news other := by
  have quiet (t : ServerState) (said : Speaks (fun message => isNews message = false) s t) :
      ∃ news, ∀ other, selector input ≠ some other → Proclaims s t news other :=
    ⟨[], fun other _ => proclaims_nothing (news_speaks said)⟩
  have start (t : ServerState) (sent : t.sent = s.sent) : Speaks (fun message => isNews message = false) s t := (Speaks.refl s).same sent
  cases dead : s.fault with
  | some fault =>
      rw [step_dead data s input fault dead]
      exact quiet s (Speaks.refl s)
  | none =>
      rw [step_alive data s input dead]
      cases happens : input.event with
      | accept =>
          refine quiet (doAccept (facing s input)) (start _ ?_)
          rw [doAccept]
          split <;> rfl
      | writeError sid => exact quiet (setUnconnected (facing s input) sid) (start _ rfl)
      | disconnect sid =>
          by_cases here : sid ∈ s.sessions
          · rw [disconnect_here data (facing s input) sid here]
            have farewell := on_disconnect_speaks (setUnconnected (facing s input) sid) sid
            exact quiet _ ((start (setUnconnected (facing s input) sid) rfl).trans
              (farewell.weaken (fun message answers => by cases message <;> first | rfl | exact absurd answers id)))
          · rw [disconnect_absent data (facing s input) sid here]
            exact quiet _ (start _ rfl)
      | packet sid request =>
          by_cases here : sid ∈ s.sessions
          · rw [handle_event_here data (facing s input) sid request here]
            obtain ⟨news, told⟩ := handle_news data (facing s input) sid indexed request
            refine ⟨news, fun other unselected listening => told other ?_ ⟨listening.playing, listening.open_⟩⟩
            rintro req rfl rfl
            exact unselected (by rw [selector, happens])
          · rw [handle_event_absent data (facing s input) sid request here]
            exact quiet _ (start _ rfl)

def Turn.arrival (relay : Relay) (sid : SessionId) : Turn → List Message
  | .deliver other => if other = sid then (relay.feeds sid).pending.take 1 else []
  | .serve _ => []

def tidings (sid : SessionId) : Relay → List Turn → List Message
  | _, [] => []
  | relay, turn :: rest => turn.arrival relay sid ++ tidings sid (relayStep data relay turn) rest

-- A session that listens all along and selects no character in between.
structure Remains (relay : Relay) (turns : List Turn) (sid : SessionId) : Prop where
  listens : Machine.Throughout (relayStep data) (fun relay => Listening relay.server sid) relay turns
  settled : ∀ turn ∈ turns, ∀ input ∈ turn.served, selector input ≠ some sid

theorem arrival_pending (feed : Feed) : feed.pending.take 1 ++ feed.receive.pending = feed.pending := by
  rw [Feed.receive]
  cases arrived : feed.pending with
  | nil => simp [arrived]
  | cons message rest => rfl

theorem turn_news (relay : Relay) (turn : Turn) (indexed : relay.server.party.Indexed) :
    ∃ news, ∀ sid, Listening relay.server sid → (∀ input ∈ turn.served, selector input ≠ some sid) →
      newsOf (turn.arrival relay sid) ++ newsOf ((relayStep data relay turn).feeds sid).pending =
        newsOf (relay.feeds sid).pending ++ news := by
  cases turn with
  | deliver other =>
      refine ⟨[], fun sid _ _ => ?_⟩
      rw [List.append_nil, ← news_append, Turn.arrival]
      refine congrArg newsOf ?_
      change _ ++ (Function.update relay.feeds other (relay.feeds other).receive sid).pending = _
      by_cases same : sid = other
      · subst same
        rw [if_pos rfl, Function.update_self, arrival_pending]
      · rw [if_neg (Ne.symm same), Function.update_of_ne same, List.nil_append]
  | serve input =>
      obtain ⟨news, told⟩ := step_news data { relay.server with sent := [] } input indexed
      refine ⟨news, fun sid listening settled => ?_⟩
      have here : sid ∈ relay.server.sessions := (mem_line relay.server sid).mpr (by
        rw [listening.open_]
        rfl)
      have spread := told sid (settled input rfl) ⟨listening.playing, listening.open_⟩
      change newsOf [] ++ newsOf ((seat {} relay.feeds (newcomer relay.server input) sid).pending ++
        inbox (step data { relay.server with sent := [] } input).sent sid) = _
      rw [seat_present {} relay.feeds relay.server input sid here, news_append]
      exact congrArg (newsOf (relay.feeds sid).pending ++ ·) spread

theorem turns_news (relay : Relay) (turns : List Turn) (party : PartyInvariant relay.server) :
    ∃ news, ∀ sid, Remains data relay turns sid →
      newsOf (tidings data sid relay turns) ++ newsOf ((Machine.run (relayStep data) relay turns).feeds sid).pending =
        newsOf (relay.feeds sid).pending ++ news := by
  induction turns generalizing relay with
  | nil => exact ⟨[], fun sid _ => (List.append_nil _).symm⟩
  | cons turn rest ih =>
      have still := turn_party data relay turn party
      obtain ⟨first, now⟩ := turn_news data relay turn party.indexed
      obtain ⟨second, later⟩ := ih (relayStep data relay turn) still
      refine ⟨first ++ second, fun sid remains => ?_⟩
      have begins := now sid remains.listens.1 (remains.settled turn List.mem_cons_self)
      have goesOn := later sid ⟨remains.listens.2, fun next member => remains.settled next (List.mem_cons_of_mem turn member)⟩
      rw [tidings, news_append, Machine.run_cons, List.append_assoc, goesOn, ← List.append_assoc, begins, List.append_assoc]

-- All who stay in the game are told the same news in the same order; of two of them,
-- one is at most behind the other.
theorem news_in_one_order (db : Database) (draw : Nat → Nat) (before turns : List Turn) :
    let relay := Machine.run (relayStep data) (Relay.boot db draw) before
    let after := Machine.run (relayStep data) relay turns
    ∃ news,
      (∀ sid, Remains data relay turns sid →
        newsOf (tidings data sid relay turns) ++ newsOf (after.feeds sid).pending = newsOf (relay.feeds sid).pending ++ news) ∧
      ∀ one other, Remains data relay turns one → Remains data relay turns other →
        newsOf (relay.feeds one).pending = [] → newsOf (relay.feeds other).pending = [] →
          newsOf (tidings data one relay turns) <+: newsOf (tidings data other relay turns) ∨
            newsOf (tidings data other relay turns) <+: newsOf (tidings data one relay turns) := by
  intro relay after
  obtain ⟨news, told⟩ := turns_news data relay turns (relay_party data db draw before)
  refine ⟨news, told, fun one other remains remains' quiet quiet' => ?_⟩
  have first := told one remains
  have second := told other remains'
  rw [quiet, List.nil_append] at first
  rw [quiet', List.nil_append] at second
  exact List.prefix_or_prefix_of_prefix ⟨_, first⟩ ⟨_, second⟩

def bothEntered : List Turn := comesIn 1 [49] 1 ++ comesIn 2 [50] 2 ++ arrives 1 30 ++ arrives 2 30

def conversation : List Turn :=
  [serve (.packet 2 (.chat ⟨0, [], [72]⟩)), serve (.packet 1 (.chat ⟨0, [], [73]⟩)), .deliver 1]

theorem conversation_in_order :
    let relay := Machine.run (relayStep emptyData) (Relay.boot twoCharacters (fun _ => 0)) bothEntered
    newsOf (tidings emptyData 1 relay conversation) <+: newsOf (tidings emptyData 2 relay conversation) ∨
      newsOf (tidings emptyData 2 relay conversation) <+: newsOf (tidings emptyData 1 relay conversation) := by
  intro relay
  obtain ⟨news, _, ordered⟩ := news_in_one_order emptyData twoCharacters (fun _ => 0) bothEntered conversation
  have quiet : (relay.feeds 1).pending.length = 0 ∧ (relay.feeds 2).pending.length = 0 := by decide +kernel
  have remains (sid : SessionId) (one : sid = 1 ∨ sid = 2) : Remains emptyData relay conversation sid := by
    refine ⟨?_, by simp [conversation, serve, Turn.served, selector]⟩
    rcases one with rfl | rfl <;> decide +kernel
  exact ordered 1 2 (remains 1 (.inl rfl)) (remains 2 (.inr rfl)) (by rw [List.length_eq_zero_iff.mp quiet.1]; rfl)
    (by rw [List.length_eq_zero_iff.mp quiet.2]; rfl)

end Turns

end MmorpgSimulator
