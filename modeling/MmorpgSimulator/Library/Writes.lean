import Mathlib

set_option autoImplicit false

namespace Writes

variable {Symbol : Type*}

-- Several writes on one stream: what each still has to write, in the order they
-- were started, and what has come out so far.
structure Channel (Symbol : Type*) where
  pending : List (List Symbol) := []
  stream : List Symbol := []
deriving DecidableEq

namespace Channel

def start (channel : Channel Symbol) (word : List Symbol) : Channel Symbol := { channel with pending := channel.pending ++ [word] }

-- One step of an operation moves a non-empty prefix of what remains of it.
def transfer (channel : Channel Symbol) (operation count : Nat) : Channel Symbol :=
  match channel.pending[operation]? with
  | none => channel
  | some word =>
      if count = 0 ∨ word.length < count then channel
      else { pending := channel.pending.set operation (word.drop count), stream := channel.stream ++ word.take count }

def abandon (channel : Channel Symbol) (operation : Nat) : Channel Symbol :=
  { channel with pending := channel.pending.set operation [] }

def serve (channel : Channel Symbol) (transfers : List (Nat × Nat)) : Channel Symbol :=
  transfers.foldl (fun channel step => channel.transfer step.1 step.2) channel

end Channel

def Alone (pending : List (List Symbol)) : Prop := ∀ word ∈ pending, word = [] ∨ word = pending.flatten

def Uniform (word : List Symbol) : Prop := ∃ symbol, ∀ other ∈ word, other = symbol

-- No order of steps can be told from the order in which the operations started.
def InOrder (pending : List (List Symbol)) : Prop := Alone pending ∨ Uniform pending.flatten

section Words

theorem uniform_of_subset (word rest : List Symbol) (subset : rest ⊆ word) (uniform : Uniform word) : Uniform rest := by
  obtain ⟨symbol, same⟩ := uniform
  exact ⟨symbol, fun other member => same other (subset member)⟩

theorem uniform_replicate (word : List Symbol) (symbol : Symbol) (same : ∀ other ∈ word, other = symbol) :
    word = List.replicate word.length symbol :=
  List.eq_replicate_iff.mpr ⟨rfl, same⟩

theorem uniform_comm (first second : List Symbol) (uniform : Uniform (first ++ second)) : first ++ second = second ++ first := by
  obtain ⟨symbol, same⟩ := uniform
  rw [uniform_replicate first symbol (fun other member => same other (List.mem_append_left _ member)),
    uniform_replicate second symbol (fun other member => same other (List.mem_append_right _ member)),
    List.replicate_append_replicate, List.replicate_append_replicate, Nat.add_comm]

variable (pending : List (List Symbol)) (operation : Nat) (word : List Symbol)

theorem pending_split (found : pending[operation]? = some word) :
    pending = pending.take operation ++ word :: pending.drop (operation + 1) := by
  obtain ⟨bound, rfl⟩ := List.getElem?_eq_some_iff.mp found
  rw [List.cons_getElem_drop_succ, List.take_append_drop]

theorem flatten_split (found : pending[operation]? = some word) :
    pending.flatten = (pending.take operation).flatten ++ (word ++ (pending.drop (operation + 1)).flatten) := by
  conv_lhs => rw [pending_split pending operation word found]
  rw [List.flatten_append, List.flatten_cons]

theorem flatten_set (found : pending[operation]? = some word) (left : List Symbol) :
    (pending.set operation left).flatten = (pending.take operation).flatten ++ (left ++ (pending.drop (operation + 1)).flatten) := by
  obtain ⟨bound, _⟩ := List.getElem?_eq_some_iff.mp found
  rw [List.set_eq_take_append_cons_drop, if_pos bound, List.flatten_append, List.flatten_cons]

theorem alone_neighbours (alone : Alone pending) (found : pending[operation]? = some word) (busy : word ≠ []) :
    (pending.take operation).flatten = [] ∧ (pending.drop (operation + 1)).flatten = [] := by
  have whole : word = pending.flatten := (alone word (List.mem_of_getElem? found)).resolve_left busy
  have split := flatten_split pending operation word found
  have lengths := congrArg List.length (whole.trans split)
  simp only [List.length_append] at lengths
  constructor <;> apply List.eq_nil_of_length_eq_zero <;> omega

theorem alone_set (alone : Alone pending) (found : pending[operation]? = some word) (busy : word ≠ []) (left : List Symbol) :
    (pending.set operation left).flatten = left ∧ Alone (pending.set operation left) := by
  obtain ⟨before, after⟩ := alone_neighbours pending operation word alone found busy
  have rest : (pending.set operation left).flatten = left := by
    rw [flatten_set pending operation word found left, before, after, List.nil_append, List.append_nil]
  refine ⟨rest, fun other member => ?_⟩
  rw [rest]
  obtain ⟨bound, _⟩ := List.getElem?_eq_some_iff.mp found
  rw [List.set_eq_take_append_cons_drop, if_pos bound] at member
  rcases List.mem_append.mp member with earlier | later
  · exact .inl (List.flatten_eq_nil_iff.mp before other earlier)
  · rcases List.mem_cons.mp later with same | later
    · exact .inr same
    · exact .inl (List.flatten_eq_nil_iff.mp after other later)

theorem uniform_set (uniform : Uniform pending.flatten) (found : pending[operation]? = some word) (left : List Symbol)
    (part : left ⊆ word) : Uniform (pending.set operation left).flatten := by
  refine uniform_of_subset _ _ ?_ uniform
  rw [flatten_split pending operation word found, flatten_set pending operation word found left]
  intro symbol member
  simp only [List.mem_append] at member ⊢
  exact member.imp_right (Or.imp_left (@part symbol))

theorem in_order_set (ordered : InOrder pending) (found : pending[operation]? = some word) (left : List Symbol) (part : left ⊆ word) :
    InOrder (pending.set operation left) := by
  cases word with
  | nil =>
      obtain rfl : left = [] := List.subset_nil.mp part
      obtain ⟨bound, same⟩ := List.getElem?_eq_some_iff.mp found
      rwa [← same, List.set_getElem_self bound]
  | cons head tail =>
      rcases ordered with alone | uniform
      · exact .inl (alone_set pending operation _ alone found (List.cons_ne_nil head tail) left).2
      · exact .inr (uniform_set pending operation _ uniform found left part)

theorem in_order_moves (ordered : InOrder pending) (found : pending[operation]? = some word) (count : Nat) :
    word.take count ++ (pending.set operation (word.drop count)).flatten = pending.flatten := by
  cases word with
  | nil =>
      obtain ⟨bound, same⟩ := List.getElem?_eq_some_iff.mp found
      rw [List.take_nil, List.drop_nil, List.nil_append, ← same, List.set_getElem_self bound]
  | cons head tail =>
      rcases ordered with alone | uniform
      · have whole := (alone _ (List.mem_of_getElem? found)).resolve_left (List.cons_ne_nil head tail)
        rw [(alone_set pending operation _ alone found (List.cons_ne_nil head tail) _).1, List.take_append_drop, whole]
      · have split := flatten_split pending operation (head :: tail) found
        rw [flatten_set pending operation _ found, split]
        conv_rhs => rw [← List.take_append_drop count (head :: tail), List.append_assoc]
        rw [← List.append_assoc, ← List.append_assoc (pending.take operation).flatten]
        congr 1
        refine uniform_comm _ _ (uniform_of_subset _ _ ?_ uniform)
        rw [split]
        intro symbol member
        simp only [List.mem_append] at member ⊢
        rcases member with taken | earlier
        · exact .inr (.inl (List.mem_of_mem_take taken))
        · exact .inl earlier

theorem in_order_drops (ordered : InOrder pending) (found : pending[operation]? = some word) :
    (pending.set operation []).flatten ++ word = pending.flatten := by
  cases word with
  | nil =>
      obtain ⟨bound, same⟩ := List.getElem?_eq_some_iff.mp found
      rw [List.append_nil, ← same, List.set_getElem_self bound]
  | cons head tail =>
      rcases ordered with alone | uniform
      · have whole := (alone _ (List.mem_of_getElem? found)).resolve_left (List.cons_ne_nil head tail)
        rw [(alone_set pending operation _ alone found (List.cons_ne_nil head tail) []).1, List.nil_append, whole]
      · rw [flatten_set pending operation _ found, flatten_split pending operation (head :: tail) found, List.nil_append,
          List.append_assoc]
        congr 1
        refine uniform_comm _ _ (uniform_of_subset _ _ ?_ uniform)
        rw [flatten_split pending operation (head :: tail) found]
        intro symbol member
        simp only [List.mem_append] at member ⊢
        tauto

theorem repeats_itself (front : List Symbol) (symbol : Symbol) (same : ∀ other ∈ front, other = symbol) (long : front ≠ [])
    (starts : word <+: front ++ word) : ∀ other ∈ word, other = symbol := by
  have at_ (index : Nat) : ∀ bound : index < word.length, word[index] = symbol := by
    induction index using Nat.strongRecOn with
    | ind index ih =>
        intro bound
        rw [starts.getElem bound]
        by_cases early : index < front.length
        · rw [List.getElem_append_left early]
          exact same _ (List.getElem_mem early)
        · have positive : 0 < front.length := List.length_pos_iff.mpr long
          rw [List.getElem_append_right (Nat.not_lt.mp early)]
          exact ih (index - front.length) (by omega) _
  intro other member
  obtain ⟨index, bound, rfl⟩ := List.mem_iff_getElem.mp member
  exact at_ index bound

end Words

namespace Channel

variable (channel : Channel Symbol)

theorem transfer_some (operation count : Nat) (word : List Symbol) (found : channel.pending[operation]? = some word)
    (positive : 0 < count) (fits : count ≤ word.length) :
    channel.transfer operation count =
      { pending := channel.pending.set operation (word.drop count), stream := channel.stream ++ word.take count } := by
  have moves : ¬ (count = 0 ∨ word.length < count) := by omega
  simp only [transfer, found, if_neg moves]

theorem transfer_none (operation count : Nat) (idle : ∀ word, channel.pending[operation]? = some word → count = 0 ∨ word.length < count) :
    channel.transfer operation count = channel := by
  cases found : channel.pending[operation]? with
  | none => simp only [transfer, found]
  | some word => simp only [transfer, found, if_pos (idle word found)]

theorem transfer_in_order (operation count : Nat) (ordered : InOrder channel.pending) :
    InOrder (channel.transfer operation count).pending ∧
      (channel.transfer operation count).stream ++ (channel.transfer operation count).pending.flatten =
        channel.stream ++ channel.pending.flatten := by
  by_cases moves : ∃ word, channel.pending[operation]? = some word ∧ 0 < count ∧ count ≤ word.length
  · obtain ⟨word, found, positive, fits⟩ := moves
    rw [transfer_some channel operation count word found positive fits]
    refine ⟨in_order_set _ operation word ordered found _ (List.drop_subset count word), ?_⟩
    rw [List.append_assoc, in_order_moves _ operation word ordered found count]
  · have idle : channel.transfer operation count = channel := by
      refine transfer_none channel operation count (fun word found => ?_)
      by_contra moving
      exact moves ⟨word, found, by omega, by omega⟩
    rw [idle]
    exact ⟨ordered, rfl⟩

theorem abandon_in_order (operation : Nat) (ordered : InOrder channel.pending) :
    InOrder (channel.abandon operation).pending ∧
      ∃ lost, (channel.abandon operation).pending.flatten ++ lost = channel.pending.flatten := by
  cases found : channel.pending[operation]? with
  | none =>
      have outside : channel.pending.set operation [] = channel.pending := List.set_eq_of_length_le (List.getElem?_eq_none_iff.mp found)
      rw [abandon, outside]
      exact ⟨ordered, [], List.append_nil _⟩
  | some word =>
      exact ⟨in_order_set _ operation word ordered found [] (List.nil_subset word), word, in_order_drops _ operation word ordered found⟩

theorem serve_in_order (transfers : List (Nat × Nat)) (ordered : InOrder channel.pending) :
    (channel.serve transfers).stream ++ (channel.serve transfers).pending.flatten = channel.stream ++ channel.pending.flatten := by
  induction transfers generalizing channel with
  | nil => rfl
  | cons transfer rest ih =>
      obtain ⟨kept, same⟩ := transfer_in_order channel transfer.1 transfer.2 ordered
      exact (ih (channel.transfer transfer.1 transfer.2) kept).trans same

theorem start_idle (word : List Symbol) (idle : channel.pending.flatten = []) : InOrder (channel.start word).pending := by
  refine .inl (fun other member => ?_)
  rw [start, List.flatten_append, idle, List.flatten_singleton, List.nil_append]
  rcases List.mem_append.mp member with old | fresh
  · exact .inl (List.flatten_eq_nil_iff.mp idle other old)
  · exact .inr (List.mem_singleton.mp fresh)

theorem started_last (word : List Symbol) : (channel.start word).pending[channel.pending.length]? = some word := by
  simp [start]

theorem transfer_part (operation count : Nat) (word : List Symbol) (found : channel.pending[operation]? = some word)
    (fits : count ≤ word.length) :
    (channel.transfer operation count).stream = channel.stream ++ word.take count ∧
      ∀ other, other ≠ operation → (channel.transfer operation count).pending[other]? = channel.pending[other]? := by
  by_cases nothing : count = 0
  · rw [transfer_none channel operation count (fun _ _ => .inl nothing), nothing, List.take_zero, List.append_nil]
    exact ⟨rfl, fun _ _ => rfl⟩
  · rw [transfer_some channel operation count word found (Nat.pos_of_ne_zero nothing) fits]
    exact ⟨rfl, fun other apart => List.getElem?_set_ne (Ne.symm apart)⟩

-- If nothing that can come out shows that a word was started on top of others,
-- they all consist of one and the same symbol.
theorem overlap_uniform (ordered : InOrder channel.pending) (busy : channel.pending.flatten ≠ []) (head : Symbol) (tail : List Symbol)
    (hidden : ∀ transfers, ((channel.start (head :: tail)).serve transfers).stream <+:
      channel.stream ++ (channel.pending.flatten ++ head :: tail)) :
    Uniform (channel.pending.flatten ++ head :: tail) := by
  have next (front : List Symbol) (transfers : List (Nat × Nat))
      (comes : ((channel.start (head :: tail)).serve transfers).stream = channel.stream ++ front) :
      front <+: channel.pending.flatten ++ head :: tail := by
    have starts := hidden transfers
    rw [comes] at starts
    exact (List.prefix_append_right_inj channel.stream).mp starts
  have whole : head :: tail <+: channel.pending.flatten ++ head :: tail :=
    next _ [(channel.pending.length, (head :: tail).length)] (by
      rw [serve, List.foldl_cons, List.foldl_nil, (transfer_part _ _ _ _ (started_last channel (head :: tail)) (le_refl _)).1,
        List.take_length]
      rfl)
  have ahead : ∀ other ∈ channel.pending.flatten, other = head := by
    rcases ordered with alone | ⟨symbol, same⟩
    · -- The one busy word is let out up to any position, then the newcomer's head.
      obtain ⟨word, listed, some_⟩ : ∃ word ∈ channel.pending, word ≠ [] := by
        by_contra nothing
        refine busy (List.flatten_eq_nil_iff.mpr (fun word listed => ?_))
        by_contra some_
        exact nothing ⟨word, listed, some_⟩
      have everything : word = channel.pending.flatten := (alone word listed).resolve_left some_
      obtain ⟨operation, bound, found⟩ := List.getElem_of_mem listed
      have present : (channel.start (head :: tail)).pending[operation]? = some word := by
        rw [start, List.getElem?_append_left bound, List.getElem?_eq_getElem bound, found]
      intro other member
      rw [← everything] at member
      obtain ⟨index, inside, rfl⟩ := List.mem_iff_getElem.mp member
      obtain ⟨out, others⟩ := transfer_part _ operation index word present inside.le
      have last := (others channel.pending.length (by omega)).trans (started_last channel (head :: tail))
      have starts := next (word.take index ++ [head]) [(operation, index), (channel.pending.length, 1)] (by
        rw [serve, List.foldl_cons, List.foldl_cons, List.foldl_nil, (transfer_part _ _ 1 _ last (Nat.le_add_left 1 _)).1, out,
          ← List.append_assoc]
        rfl)
      have position : index < (word.take index ++ [head]).length := by
        rw [List.length_append, List.length_take, Nat.min_eq_left inside.le]
        exact Nat.lt_succ_self index
      have same := starts.getElem position
      rw [List.getElem_append_right (by rw [List.length_take]; exact Nat.min_le_left _ _)] at same
      simp only [← everything, List.getElem_append_left inside, List.getElem_singleton] at same
      exact same.symm
    · have first := next [head] [(channel.pending.length, 1)]
        (transfer_part _ _ 1 _ (started_last channel (head :: tail)) (Nat.le_add_left 1 _)).1
      obtain ⟨front, rest, split⟩ := List.exists_cons_of_ne_nil busy
      rw [split, List.cons_append, List.cons_prefix_cons] at first
      intro other member
      rw [same other member, first.1]
      exact (same front (by rw [split]; exact List.mem_cons_self)).symm
  refine ⟨head, fun other member => ?_⟩
  rcases List.mem_append.mp member with old | fresh
  · exact ahead other old
  · exact repeats_itself (head :: tail) channel.pending.flatten head ahead busy whole other fresh

end Channel

end Writes
