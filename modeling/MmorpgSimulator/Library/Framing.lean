import Mathlib

set_option autoImplicit false

namespace Framing

-- A stream is cut into frames by a length read from the first `header` symbols
-- of what is left. The length counts the header and is whatever the sender wrote.
structure Format (Symbol : Type*) where
  header : Nat
  frameLength : List Symbol → Nat
  headerOnly : ∀ front rest : List Symbol, header ≤ front.length → frameLength (front ++ rest) = frameLength front

variable {Symbol : Type*} (format : Format Symbol)

def next (buffer : List Symbol) : Option (List Symbol × List Symbol) :=
  if buffer.length < format.header then none
  else if buffer.length < format.frameLength buffer then none
  else some (buffer.take (format.frameLength buffer), buffer.drop (format.frameLength buffer))

-- The extraction loop as a big-step relation: it has a derivation exactly when it ends.
inductive Extracts : List Symbol → List (List Symbol) → List Symbol → Prop where
  | wait (buffer : List Symbol) (stop : next format buffer = none) : Extracts buffer [] buffer
  | cut (buffer frame rest : List Symbol) (frames : List (List Symbol)) (left : List Symbol)
      (front : next format buffer = some (frame, rest)) (more : Extracts rest frames left) :
      Extracts buffer (frame :: frames) left

inductive MeetsZero : List Symbol → Prop where
  | here (buffer : List Symbol) (complete : format.header ≤ buffer.length) (zero : format.frameLength buffer = 0) :
      MeetsZero buffer
  | later (buffer frame rest : List Symbol) (front : next format buffer = some (frame, rest))
      (meets : MeetsZero rest) : MeetsZero buffer

theorem next_some_iff (buffer frame rest : List Symbol) :
    next format buffer = some (frame, rest) ↔
      format.header ≤ buffer.length ∧ format.frameLength buffer ≤ buffer.length ∧
        frame = buffer.take (format.frameLength buffer) ∧ rest = buffer.drop (format.frameLength buffer) := by
  unfold next
  split
  · rename_i short
    simp [Nat.not_le.mpr short]
  · rename_i long
    split
    · rename_i unfinished
      simp [Nat.not_le.mpr unfinished]
    · rename_i whole
      simp [Nat.not_lt.mp long, Nat.not_lt.mp whole, eq_comm]

theorem next_none_iff (buffer : List Symbol) :
    next format buffer = none ↔ buffer.length < format.header ∨ buffer.length < format.frameLength buffer := by
  unfold next
  split
  · rename_i short
    simp [short]
  · rename_i long
    split <;> simp_all

theorem next_splits (buffer frame rest : List Symbol) (front : next format buffer = some (frame, rest)) :
    buffer = frame ++ rest := by
  obtain ⟨_, _, rfl, rfl⟩ := (next_some_iff format buffer frame rest).mp front
  exact (List.take_append_drop _ _).symm

theorem next_append (buffer frame rest later : List Symbol) (front : next format buffer = some (frame, rest)) :
    next format (buffer ++ later) = some (frame, rest ++ later) := by
  obtain ⟨complete, whole, rfl, rfl⟩ := (next_some_iff format buffer frame rest).mp front
  have same := format.headerOnly buffer later complete
  refine (next_some_iff format _ _ _).mpr ⟨?_, ?_, ?_, ?_⟩
  · simp only [List.length_append]; omega
  · simp only [same, List.length_append]; omega
  · rw [same, List.take_append_of_le_length whole]
  · rw [same, List.drop_append_of_le_length whole]

theorem extracts_unique (buffer : List Symbol) (frames frames' : List (List Symbol)) (left left' : List Symbol)
    (one : Extracts format buffer frames left) (other : Extracts format buffer frames' left') :
    frames = frames' ∧ left = left' := by
  induction one generalizing frames' with
  | wait buffer stop =>
      cases other with
      | wait _ _ => exact ⟨rfl, rfl⟩
      | cut _ frame rest _ _ front _ => simp [stop] at front
  | cut buffer frame rest frames left front _ ih =>
      cases other with
      | wait _ stop => simp [stop] at front
      | cut _ frame' rest' frames' _ front' more' =>
          have pair : frame = frame' ∧ rest = rest' := by simpa [front] using front'
          obtain ⟨rfl, rfl⟩ := pair
          obtain ⟨rfl, rfl⟩ := ih frames' more'
          exact ⟨rfl, rfl⟩

theorem extracts_splits (buffer : List Symbol) (frames : List (List Symbol)) (left : List Symbol)
    (extracted : Extracts format buffer frames left) : buffer = frames.flatten ++ left := by
  induction extracted with
  | wait buffer _ => rfl
  | cut buffer frame rest frames left front _ ih =>
      rw [next_splits format buffer frame rest front, ih, List.flatten_cons, List.append_assoc]

theorem extracts_of_no_zero (buffer : List Symbol) (none : ¬ MeetsZero format buffer) :
    ∃ frames left, Extracts format buffer frames left := by
  induction size : buffer.length using Nat.strong_induction_on generalizing buffer with
  | _ length ih =>
      cases front : next format buffer with
      | none => exact ⟨[], buffer, .wait buffer front⟩
      | some pair =>
          obtain ⟨frame, rest⟩ := pair
          obtain ⟨complete, whole, _, restEq⟩ := (next_some_iff format buffer frame rest).mp front
          have positive : format.frameLength buffer ≠ 0 := fun zero => none (.here buffer complete zero)
          have shorter : rest.length < length := by
            rw [restEq, List.length_drop]
            omega
          obtain ⟨frames, left, more⟩ := ih rest.length shorter rest
            (fun meets => none (.later buffer frame rest front meets)) rfl
          exact ⟨frame :: frames, left, .cut buffer frame rest frames left front more⟩

theorem zero_stays (buffer : List Symbol) (complete : format.header ≤ buffer.length)
    (zero : format.frameLength buffer = 0) : next format buffer = some ([], buffer) :=
  (next_some_iff format buffer [] buffer).mpr ⟨complete, by omega, by simp [zero], by simp [zero]⟩

theorem no_zero_of_extracts (buffer : List Symbol) (frames : List (List Symbol)) (left : List Symbol)
    (extracted : Extracts format buffer frames left) : ¬ MeetsZero format buffer := by
  induction extracted with
  | wait buffer stop =>
      intro meets
      cases meets with
      | here _ complete zero => simp [zero_stays format buffer complete zero] at stop
      | later _ frame rest front _ => simp [stop] at front
  | cut buffer frame rest frames left front more ih =>
      intro meets
      cases meets with
      | here _ complete zero =>
          have pair : [] = frame ∧ buffer = rest := by
            simpa [zero_stays format buffer complete zero] using front
          exact ih (pair.2 ▸ .here buffer complete zero)
      | later _ frame' rest' front' meets =>
          have pair : frame = frame' ∧ rest = rest' := by simpa [front] using front'
          exact ih (pair.2 ▸ meets)

theorem extracts_frames_nonempty (buffer : List Symbol) (frames : List (List Symbol)) (left : List Symbol)
    (extracted : Extracts format buffer frames left) (frame : List Symbol) (member : frame ∈ frames) : 0 < frame.length := by
  have noZero := no_zero_of_extracts format buffer frames left extracted
  induction extracted with
  | wait _ _ => exact absurd member List.not_mem_nil
  | cut buffer first rest frames left front _ ih =>
      rcases List.mem_cons.mp member with same | later
      · obtain ⟨complete, whole, cut, _⟩ := (next_some_iff format buffer first rest).mp front
        have positive : format.frameLength buffer ≠ 0 := fun zero => noZero (.here buffer complete zero)
        rw [same, cut, List.length_take]
        omega
      · exact ih later (fun meets => noZero (.later buffer first rest front meets))

theorem extracts_iff_no_zero (buffer : List Symbol) :
    (∃ frames left, Extracts format buffer frames left) ↔ ¬ MeetsZero format buffer := by
  constructor
  · rintro ⟨frames, left, extracted⟩
    exact no_zero_of_extracts format buffer frames left extracted
  · exact extracts_of_no_zero format buffer

theorem extracts_append (buffer later : List Symbol) (first second : List (List Symbol)) (middle left : List Symbol)
    (before : Extracts format buffer first middle) (after : Extracts format (middle ++ later) second left) :
    Extracts format (buffer ++ later) (first ++ second) left := by
  induction before with
  | wait buffer _ => exact after
  | cut buffer frame rest frames middle front _ ih =>
      exact .cut _ frame (rest ++ later) (frames ++ second) left
        (next_append format buffer frame rest later front) (ih after)

theorem extracts_of_initial (stream : List Symbol) (frames : List (List Symbol)) (left : List Symbol)
    (extracted : Extracts format stream frames left) (buffer : List Symbol) (initial : buffer <+: stream) :
    ∃ first middle, Extracts format buffer first middle := by
  obtain ⟨later, rfl⟩ := initial
  apply extracts_of_no_zero format buffer
  intro meets
  refine no_zero_of_extracts format _ frames left extracted ?_
  clear extracted
  induction meets with
  | here buffer complete zero =>
      exact .here _ (by simp only [List.length_append]; omega) (by rw [format.headerOnly buffer later complete, zero])
  | later buffer frame rest front _ ih =>
      exact .later _ frame (rest ++ later) (next_append format buffer frame rest later front) ih

def WellFormed (frame : List Symbol) : Prop :=
  format.header ≤ frame.length ∧ 0 < frame.length ∧ format.frameLength frame = frame.length

theorem next_well_formed (frame later : List Symbol) (formed : WellFormed format frame) :
    next format (frame ++ later) = some (frame, later) := by
  obtain ⟨complete, _, declared⟩ := formed
  have alone : next format frame = some (frame, []) :=
    (next_some_iff format frame frame []).mpr ⟨complete, by omega, by simp [declared], by simp [declared]⟩
  simpa using next_append format frame frame [] later alone

theorem next_nil (positive : 0 < format.header) : next format [] = none :=
  (next_none_iff format []).mpr (.inl positive)

-- Extraction undoes concatenation of well-formed frames.
theorem extracts_flatten (positive : 0 < format.header) (frames : List (List Symbol))
    (formed : ∀ frame ∈ frames, WellFormed format frame) : Extracts format frames.flatten frames [] := by
  induction frames with
  | nil => exact .wait [] (next_nil format positive)
  | cons frame rest ih =>
      exact .cut _ frame rest.flatten rest [] (next_well_formed format frame rest.flatten (formed frame (by simp)))
        (ih (fun other member => formed other (by simp [member])))

-- Chunks arrive one at a time; each is appended to what the last extraction left.
inductive Feeds : List Symbol → List (List Symbol) → List (List Symbol) → List Symbol → Prop where
  | done (buffer : List Symbol) : Feeds buffer [] [] buffer
  | chunk (buffer arrived : List Symbol) (chunks : List (List Symbol)) (first second : List (List Symbol))
      (middle left : List Symbol) (extracted : Extracts format (buffer ++ arrived) first middle)
      (rest : Feeds middle chunks second left) : Feeds buffer (arrived :: chunks) (first ++ second) left

theorem extracts_left_waits (buffer : List Symbol) (frames : List (List Symbol)) (left : List Symbol)
    (extracted : Extracts format buffer frames left) : next format left = none := by
  induction extracted with
  | wait _ stop => exact stop
  | cut _ _ _ _ _ _ _ ih => exact ih

theorem extracts_resume (buffer later : List Symbol) (frames first : List (List Symbol)) (middle left : List Symbol)
    (before : Extracts format buffer first middle) (whole : Extracts format (buffer ++ later) frames left) :
    ∃ second, frames = first ++ second ∧ Extracts format (middle ++ later) second left := by
  induction before generalizing frames with
  | wait buffer _ => exact ⟨frames, rfl, whole⟩
  | cut buffer frame rest first middle front _ ih =>
      have extended := next_append format buffer frame rest later front
      cases whole with
      | wait _ stop => simp [extended] at stop
      | cut _ frame' rest' frames _ front' more =>
          have pair : frame = frame' ∧ rest ++ later = rest' := by simpa [extended] using front'
          obtain ⟨rfl, rfl⟩ := pair
          obtain ⟨second, rfl, after⟩ := ih frames more
          exact ⟨second, rfl, after⟩

theorem feeds_iff_extracts (buffer : List Symbol) (chunks frames : List (List Symbol)) (left : List Symbol)
    (waiting : next format buffer = none) :
    Feeds format buffer chunks frames left ↔ Extracts format (buffer ++ chunks.flatten) frames left := by
  constructor
  · intro fed
    induction fed with
    | done buffer => simpa using Extracts.wait buffer waiting
    | chunk buffer arrived chunks first second middle left extracted _ ih =>
        have after := ih (extracts_left_waits format _ _ _ extracted)
        simpa using extracts_append format (buffer ++ arrived) chunks.flatten first second middle left extracted after
  · intro extracted
    induction chunks generalizing buffer frames with
    | nil =>
        obtain ⟨rfl, rfl⟩ := extracts_unique format _ _ _ _ _ (by simpa using extracted) (.wait buffer waiting)
        exact .done left
    | cons arrived chunks ih =>
        have stream : buffer ++ (arrived :: chunks).flatten = (buffer ++ arrived) ++ chunks.flatten := by simp
        rw [stream] at extracted
        obtain ⟨first, middle, before⟩ := extracts_of_initial format _ frames left extracted (buffer ++ arrived)
          ⟨chunks.flatten, rfl⟩
        obtain ⟨second, rfl, after⟩ := extracts_resume format (buffer ++ arrived) chunks.flatten frames first middle left
          before extracted
        exact .chunk buffer arrived chunks first second middle left before
          (ih middle second (extracts_left_waits format _ _ _ before) after)

theorem extracts_left_short (bound : Nat) (positive : 0 < format.header) (frames : List (List Symbol))
    (formed : ∀ frame ∈ frames, WellFormed format frame) (small : ∀ frame ∈ frames, frame.length ≤ bound) (room : 0 < bound)
    (buffer later left : List Symbol) (first : List (List Symbol)) (stream : buffer ++ later = frames.flatten)
    (extracted : Extracts format buffer first left) : left.length < bound := by
  induction extracted generalizing frames with
  | wait buffer stop =>
      cases frames with
      | nil =>
          have nothing : buffer = [] := (List.append_eq_nil_iff.mp stream).1
          rw [nothing]
          exact room
      | cons frame frames =>
          by_contra full
          have long : frame.length ≤ buffer.length := le_trans (small frame List.mem_cons_self) (Nat.not_lt.mp full)
          obtain ⟨rest, rfl⟩ : frame <+: buffer :=
            List.prefix_of_prefix_length_le ⟨frames.flatten, by rw [List.flatten_cons] at stream; exact stream.symm⟩ ⟨later, rfl⟩ long
          rw [next_well_formed format frame rest (formed frame List.mem_cons_self)] at stop
          exact absurd stop nofun
  | cut buffer frame rest first left front _ ih =>
      cases frames with
      | nil =>
          have nothing : buffer = [] := (List.append_eq_nil_iff.mp stream).1
          rw [nothing, next_nil format positive] at front
          exact absurd front nofun
      | cons declared frames =>
          have extended := next_append format buffer frame rest later front
          rw [stream, List.flatten_cons, next_well_formed format declared frames.flatten (formed declared List.mem_cons_self)] at extended
          have same : declared = frame ∧ frames.flatten = rest ++ later := Prod.mk.inj (Option.some.inj extended)
          exact ih frames (fun other member => formed other (List.mem_cons_of_mem _ member))
            (fun other member => small other (List.mem_cons_of_mem _ member)) same.2.symm

theorem feeds_left_short (bound : Nat) (positive : 0 < format.header) (frames : List (List Symbol))
    (formed : ∀ frame ∈ frames, WellFormed format frame) (small : ∀ frame ∈ frames, frame.length ≤ bound) (room : 0 < bound)
    (chunks later first : List (List Symbol)) (left : List Symbol) (stream : (chunks ++ later).flatten = frames.flatten)
    (fed : Feeds format [] chunks first left) : left.length < bound := by
  have extracted := (feeds_iff_extracts format [] chunks first left (next_nil format positive)).mp fed
  exact extracts_left_short format bound positive frames formed small room _ later.flatten left first
    (by rw [← stream, List.nil_append, List.flatten_append]) extracted

inductive Border : List Symbol → List Symbol → Prop where
  | here (buffer : List Symbol) : Border buffer buffer
  | later (buffer frame rest border : List Symbol) (front : next format buffer = some (frame, rest)) (more : Border rest border) :
      Border buffer border

-- The loop comes to a header that declares more than `bound`, with `bound` symbols at hand.
inductive MeetsOversized (bound : Nat) : List Symbol → Prop where
  | here (buffer : List Symbol) (full : bound ≤ buffer.length) (long : bound < format.frameLength buffer) : MeetsOversized bound buffer
  | later (buffer frame rest : List Symbol) (front : next format buffer = some (frame, rest)) (meets : MeetsOversized bound rest) :
      MeetsOversized bound buffer

theorem border_of_zero (buffer : List Symbol) (meets : MeetsZero format buffer) :
    ∃ border, Border format buffer border ∧ format.header ≤ border.length ∧ format.frameLength border = 0 := by
  induction meets with
  | here buffer complete zero => exact ⟨buffer, .here buffer, complete, zero⟩
  | later buffer frame rest front _ ih =>
      obtain ⟨border, reached, complete, zero⟩ := ih
      exact ⟨border, .later buffer frame rest border front reached, complete, zero⟩

theorem border_of_oversized (bound : Nat) (buffer : List Symbol) (meets : MeetsOversized format bound buffer) :
    ∃ border, Border format buffer border ∧ bound ≤ border.length ∧ bound < format.frameLength border := by
  induction meets with
  | here buffer full long => exact ⟨buffer, .here buffer, full, long⟩
  | later buffer frame rest front _ ih =>
      obtain ⟨border, reached, full, long⟩ := ih
      exact ⟨border, .later buffer frame rest border front reached, full, long⟩

theorem oversized_long (bound : Nat) (buffer : List Symbol) (meets : MeetsOversized format bound buffer) : bound ≤ buffer.length := by
  induction meets with
  | here buffer full _ => exact full
  | later buffer frame rest front _ ih =>
      rw [next_splits format buffer frame rest front, List.length_append]
      omega

theorem oversized_append (bound : Nat) (header : format.header ≤ bound) (buffer later : List Symbol)
    (meets : MeetsOversized format bound buffer) : MeetsOversized format bound (buffer ++ later) := by
  induction meets with
  | here buffer full long =>
      refine .here _ (by rw [List.length_append]; omega) ?_
      rwa [format.headerOnly buffer later (le_trans header full)]
  | later buffer frame rest front _ ih => exact .later _ frame (rest ++ later) (next_append format buffer frame rest later front) ih

-- Where no frame above the bound was cut, what is left reaches the bound exactly at an oversized header.
theorem extracts_full_iff (bound : Nat) (header : format.header ≤ bound) (buffer : List Symbol) (frames : List (List Symbol))
    (left : List Symbol) (extracted : Extracts format buffer frames left) (small : ∀ frame ∈ frames, frame.length ≤ bound) :
    bound ≤ left.length ↔ MeetsOversized format bound buffer := by
  induction extracted with
  | wait buffer stop =>
      constructor
      · intro full
        rcases (next_none_iff format buffer).mp stop with short | unfinished
        · omega
        · exact .here buffer full (by omega)
      · intro meets
        cases meets with
        | here _ full _ => exact full
        | later _ frame rest front _ => simp [stop] at front
  | cut buffer frame rest frames left front _ ih =>
      rw [ih (fun other member => small other (List.mem_cons_of_mem frame member))]
      constructor
      · exact .later buffer frame rest front
      · intro meets
        cases meets with
        | here _ _ long =>
            obtain ⟨_, whole, cut, _⟩ := (next_some_iff format buffer frame rest).mp front
            have fits := small frame List.mem_cons_self
            rw [cut, List.length_take, Nat.min_eq_left whole] at fits
            omega
        | later _ frame' rest' front' meets =>
            have pair : frame = frame' ∧ rest = rest' := by simpa [front] using front'
            exact pair.2 ▸ meets

end Framing
