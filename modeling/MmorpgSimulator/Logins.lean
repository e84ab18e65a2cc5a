import MmorpgSimulator.Registry

set_option autoImplicit false

namespace MmorpgSimulator

section Ids

variable (data : GameData)

def numberOf (accountId : Bytes) : Option Nat := if atoll accountId ≤ 0 then none else some (atoll accountId).toNat

def hashedId (accountId : Bytes) : Nat := data.stdHash accountId % 900000000 + 100000000

theorem channel_id_of (accountId : Bytes) : channelIdOf data accountId = (numberOf accountId).getD (hashedId data accountId) := by
  rw [channelIdOf, numberOf]
  split <;> rfl

-- Two ids that are told apart: other numbers, and no number that is the other's hash.
def Unmistakable (first second : Bytes) : Prop :=
  match numberOf first, numberOf second with
  | some number, some other => number ≠ other
  | some number, none => number ≠ hashedId data second
  | none, some number => hashedId data first ≠ number
  | none, none => True

instance (first second : Bytes) : Decidable (Unmistakable data first second) :=
  match one : numberOf first, two : numberOf second with
  | some number, some other => decidable_of_iff (number ≠ other) (by rw [Unmistakable, one, two])
  | some number, none => decidable_of_iff (number ≠ hashedId data second) (by rw [Unmistakable, one, two])
  | none, some number => decidable_of_iff (hashedId data first ≠ number) (by rw [Unmistakable, one, two])
  | none, none => .isTrue (by rw [Unmistakable, one, two]; trivial)

theorem channel_ids_differ_iff (first second : Bytes) (hashes : numberOf first = none → numberOf second = none →
    data.stdHash first % 900000000 ≠ data.stdHash second % 900000000) :
    channelIdOf data first ≠ channelIdOf data second ↔ Unmistakable data first second := by
  rw [channel_id_of, channel_id_of, Unmistakable]
  cases one : numberOf first with
  | some number =>
      cases numberOf second with
      | some other => exact Iff.rfl
      | none => exact Iff.rfl
  | none =>
      cases two : numberOf second with
      | some other => exact Iff.rfl
      | none =>
          have apart := hashes one two
          refine iff_of_true ?_ trivial
          simp only [Option.getD_none, hashedId]
          omega

end Ids

def AccountsNamed (people : List AccountRow × CharacterTable) : Prop := ∀ row ∈ people.1, row.accountUid = row.channelId

theorem accounts_named_enrolment : Enrolment AccountsNamed where
  login := by
    intro db channelId named
    simp only [Database.spAccountLogin]
    split
    · intro row member
      rcases List.mem_append.mp member with old | fresh
      · exact named row old
      · rw [List.mem_singleton.mp fresh]
    · exact named
  create := by
    intro db accountUid charName charType result created named
    rw [Database.spCharacterCreate] at created
    split at created
    · exact absurd created (by simp)
    · obtain rfl := Option.some.inj created
      intro row member
      obtain ⟨old, before, rfl⟩ := List.mem_map.mp member
      exact named old before
  attend := by
    intro db charUid named
    simp only [Database.spAttendanceCheck]
    split <;> exact named

theorem named_account_channel (db : Database) (channelId : Nat) (named : AccountsNamed (peopleOf db)) : namedAccount db channelId = channelId := by
  rw [namedAccount]
  cases found : db.accounts.find? (fun row => row.channelType = 0 ∧ row.channelId = channelId) with
  | none => rfl
  | some row =>
      have number : row.accountUid = row.channelId := named row (List.mem_of_find?_eq_some found)
      have asked : row.channelType = 0 ∧ row.channelId = channelId := by simpa using List.find?_some found
      simp only [Option.map_some, Option.getD_some, number, asked.2]
      split <;> rfl

section Runs

variable (data : GameData)

theorem login_account_channel (s : ServerState) (named : AccountsNamed (peopleOf s.db)) (input : Input) (sid : SessionId) (accountId : Bytes)
    (asks : input.event = .packet sid (.login ⟨accountId⟩)) (alive : s.fault = none) (here : sid ∈ s.sessions) :
    ((step data s input).player sid).accountUid = channelIdOf data accountId := by
  have handled : step data s input = onLogin data (facing s input) sid ⟨accountId⟩ := by
    rw [step_alive data s input alive, asks, handle_event_here data (facing s input) sid _ here]
    rfl
  have same : namedAccount (facing s input).db (channelIdOf data accountId) = channelIdOf data accountId :=
    named_account_channel s.db _ named
  rw [handled, on_login_player data (facing s input) sid ⟨accountId⟩ here, loginAccount]
  simp only [same]
  split <;> rfl

theorem logins_apart_iff (s : ServerState) (empty : s.db.accounts = []) (earlier between : List Input) (one other : Input)
    (first second : SessionId) (firstId secondId : Bytes) (firstAsks : one.event = .packet first (.login ⟨firstId⟩))
    (secondAsks : other.event = .packet second (.login ⟨secondId⟩))
    (firstHandled : (Machine.run (step data) s earlier).fault = none ∧ first ∈ (Machine.run (step data) s earlier).sessions)
    (secondHandled : (Machine.run (step data) s (earlier ++ one :: between)).fault = none ∧
      second ∈ (Machine.run (step data) s (earlier ++ one :: between)).sessions)
    (hashes : numberOf firstId = none → numberOf secondId = none → data.stdHash firstId % 900000000 ≠ data.stdHash secondId % 900000000) :
    ((step data (Machine.run (step data) s earlier) one).player first).accountUid ≠
        ((step data (Machine.run (step data) s (earlier ++ one :: between)) other).player second).accountUid ↔
      Unmistakable data firstId secondId := by
  have start : AccountsNamed (peopleOf s.db) := by
    intro row member
    have listed : row ∈ s.db.accounts := member
    rw [empty] at listed
    exact absurd listed List.not_mem_nil
  have named (inputs : List Input) := accounts_named_enrolment.run data s inputs start
  rw [login_account_channel data _ (named earlier) one first firstId firstAsks firstHandled.1 firstHandled.2,
    login_account_channel data _ (named _) other second secondId secondAsks secondHandled.1 secondHandled.2]
  exact channel_ids_differ_iff data firstId secondId hashes

end Runs

-- What std::hash computes of a byte string on the platform of the server: FNV-1a of 64 bits.
def fnv1a (bytes : Bytes) : Nat := bytes.foldl (fun hash byte => (hash ^^^ byte.toNat) * 1099511628211 % 2 ^ 64) 14695981039346656037

def hashingData : GameData := { emptyData with stdHash := fnv1a }

theorem named_logins_apart :
    ((step hashingData (Machine.run (step hashingData) (boot twoCharacters (fun _ => 0)) [⟨.accept, [], []⟩, ⟨.accept, [], []⟩])
        ⟨.packet 1 (.login ⟨text "alice"⟩), [], []⟩).player 1).accountUid ≠
      ((step hashingData (Machine.run (step hashingData) (boot twoCharacters (fun _ => 0))
        ([⟨.accept, [], []⟩, ⟨.accept, [], []⟩] ++ ⟨.packet 1 (.login ⟨text "alice"⟩), [], []⟩ :: []))
        ⟨.packet 2 (.login ⟨text "bob"⟩), [], []⟩).player 2).accountUid := by
  refine (logins_apart_iff hashingData (boot twoCharacters (fun _ => 0)) rfl [⟨.accept, [], []⟩, ⟨.accept, [], []⟩] [] _ _ 1 2
    (text "alice") (text "bob") rfl rfl ?_ ?_ ?_).mpr ?_
  · exact ⟨by decide +kernel, by decide +kernel⟩
  · exact ⟨by decide +kernel, by decide +kernel⟩
  · exact fun _ _ => by decide +kernel
  · decide +kernel

theorem padded_logins_share :
    ((step hashingData (Machine.run (step hashingData) (boot twoCharacters (fun _ => 0)) [⟨.accept, [], []⟩, ⟨.accept, [], []⟩])
        ⟨.packet 1 (.login ⟨text "7"⟩), [], []⟩).player 1).accountUid =
      ((step hashingData (Machine.run (step hashingData) (boot twoCharacters (fun _ => 0))
        ([⟨.accept, [], []⟩, ⟨.accept, [], []⟩] ++ ⟨.packet 1 (.login ⟨text "7"⟩), [], []⟩ :: []))
        ⟨.packet 2 (.login ⟨text "7up"⟩), [], []⟩).player 2).accountUid ∧ text "7" ≠ text "7up" := by
  decide +kernel

end MmorpgSimulator
