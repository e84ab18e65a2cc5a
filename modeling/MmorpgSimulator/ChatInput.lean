import MmorpgSimulator.Protocol
import MmorpgSimulator.Library.Run
import MmorpgSimulator.Library.Utf8

set_option autoImplicit false

namespace MmorpgSimulator

-- WideCharToMultiByte(CP_UTF8, ..) on one wchar_t: half of a surrogate pair becomes U+FFFD.
def wideCharToMultiByte (wc : UInt16) : Bytes :=
  if 0xD800 ≤ wc.toNat ∧ wc.toNat ≤ 0xDFFF then [0xEF, 0xBF, 0xBD] else String.utf8EncodeChar (Char.ofNat wc.toNat)

-- Find start of last UTF-8 char: i goes down while it is at a trailing byte.
def charStart (input : Bytes) : Nat → Nat
  | 0 => 0
  | i + 1 => if Utf8.Trailing (input.getD (i + 1) 0) then charStart input i else i + 1

def eraseLast (input : Bytes) : Bytes := if input = [] then input else input.take (charStart input (input.length - 1))

def typeKey (input : Bytes) (wc : UInt16) : Bytes :=
  if wc = 8 ∨ wc = 127 then eraseLast input else input ++ wideCharToMultiByte wc

def chatLine : Bytes → List UInt16 → Option Bytes
  | _, [] => none
  | input, wc :: later => if wc = 13 ∨ wc = 10 then some input else chatLine (typeKey input wc) later

def whisperMark : List Char := ['/', 'w', ' ']

def partyMark : List Char := ['/', 'p', ' ']

-- The CS_Chat that Enter sends, if any. A whisper without a message is not sent.
def enterChat (input : Bytes) : Option CsChat :=
  if input = [] then none
  else if Utf8.encode whisperMark <+: input then
    match (input.drop 3).findIdx? (· = 32) with
    | none => none
    | some width =>
        some ⟨1, strncpyS (cString ((input.drop 3).take width)) 19, strncpyS (cString (input.drop (3 + width + 1))) 127⟩
  else if Utf8.encode partyMark <+: input then some ⟨2, [], strncpyS (cString (input.drop 3)) 127⟩
  else some ⟨0, [], strncpyS (cString input) 127⟩

-- A character of the Basic Multilingual Plane that is neither a control code nor
-- half of a surrogate pair.
def Printable (wc : UInt16) : Prop :=
  0x20 ≤ wc.toNat ∧ ¬ (0x7F ≤ wc.toNat ∧ wc.toNat ≤ 0x9F) ∧ ¬ (0xD800 ≤ wc.toNat ∧ wc.toNat ≤ 0xDFFF)

instance (wc : UInt16) : Decidable (Printable wc) := inferInstanceAs (Decidable (_ ∧ _))

inductive Keystroke where
  | char (wc : UInt16) (printable : Printable wc)
  | backspace

namespace Keystroke

def wchar : Keystroke → UInt16
  | .char wc _ => wc
  | .backspace => 8

def onText (line : List Char) : Keystroke → List Char
  | .char wc _ => line ++ [Char.ofNat wc.toNat]
  | .backspace => line.dropLast

end Keystroke

def leftOver (keys : List Keystroke) : List Char := Machine.run Keystroke.onText [] keys

section Editor

theorem char_start_back (front : Bytes) (head : UInt8) (tail : Bytes) (leads : ¬ Utf8.Trailing head)
    (trail : ∀ byte ∈ tail, Utf8.Trailing byte) (i : Nat) (inside : i ≤ tail.length) :
    charStart (front ++ head :: tail) (front.length + i) = front.length := by
  induction i with
  | zero =>
      cases size : front.length with
      | zero => rfl
      | succ below =>
          have here : (front ++ head :: tail).getD (below + 1) 0 = head := by
            rw [← size, List.getD_append_right _ _ _ _ (Nat.le_refl _), Nat.sub_self]
            rfl
          rw [Nat.add_zero, charStart, here, if_neg leads]
  | succ i ih =>
      have here : (front ++ head :: tail).getD (front.length + i + 1) 0 = tail.getD i 0 := by
        rw [List.getD_append_right _ _ _ _ (by omega), Nat.add_assoc, Nat.add_sub_cancel_left]
        rfl
      have follows : Utf8.Trailing (tail.getD i 0) := by
        rw [List.getD_eq_getElem _ _ inside]
        exact trail _ (List.getElem_mem _)
      rw [← Nat.add_assoc, charStart, here, if_pos follows]
      exact ih (Nat.le_of_succ_le inside)

theorem erase_last_char (line : List Char) (char : Char) : eraseLast (Utf8.encode (line ++ [char])) = Utf8.encode line := by
  obtain ⟨head, tail, shape⟩ := Utf8.char_shape char
  have split : Utf8.encode (line ++ [char]) = Utf8.encode line ++ head :: tail := by
    rw [Utf8.encode_append, Utf8.encode, Utf8.encode, List.flatMap_singleton, shape.bytes]
  have last : (Utf8.encode line ++ head :: tail).length - 1 = (Utf8.encode line).length + tail.length := by
    rw [List.length_append, List.length_cons]
    omega
  rw [split, eraseLast, if_neg (List.append_ne_nil_of_right_ne_nil _ (List.cons_ne_nil _ _)), last,
    char_start_back _ head tail shape.leads shape.trail _ (Nat.le_refl _), List.take_left]

theorem erase_last_encode (line : List Char) : eraseLast (Utf8.encode line) = Utf8.encode line.dropLast := by
  cases line using List.reverseRecOn with
  | nil => rfl
  | append_singleton line char => rw [erase_last_char, List.dropLast_concat]

theorem type_key_encode (line : List Char) (key : Keystroke) :
    typeKey (Utf8.encode line) key.wchar = Utf8.encode (key.onText line) := by
  cases key with
  | char wc printable =>
      obtain ⟨low, control, surrogate⟩ := printable
      have plain : ¬ (wc = 8 ∨ wc = 127) := by
        rintro (rfl | rfl)
        · exact absurd low (by decide)
        · exact control (by decide)
      change typeKey (Utf8.encode line) wc = Utf8.encode (line ++ [Char.ofNat wc.toNat])
      rw [typeKey, if_neg plain, wideCharToMultiByte, if_neg surrogate, Utf8.encode_append, Utf8.encode, Utf8.encode,
        List.flatMap_singleton]
  | backspace => exact erase_last_encode line

theorem editor_encodes (keys : List Keystroke) (line : List Char) :
    Machine.run typeKey (Utf8.encode line) (keys.map Keystroke.wchar) = Utf8.encode (Machine.run Keystroke.onText line keys) := by
  induction keys generalizing line with
  | nil => rfl
  | cons key later ih => rw [List.map_cons, Machine.run_cons, Machine.run_cons, type_key_encode, ih]

theorem chat_line_run (keys : List Keystroke) (enter : UInt16) (ends : enter = 13 ∨ enter = 10) (input : Bytes) :
    chatLine input (keys.map Keystroke.wchar ++ [enter]) = some (Machine.run typeKey input (keys.map Keystroke.wchar)) := by
  induction keys generalizing input with
  | nil => exact if_pos ends
  | cons key later ih =>
      have goesOn : ¬ (key.wchar = 13 ∨ key.wchar = 10) := by
        cases key with
        | char wc printable =>
            rintro (rfl | rfl)
            · exact absurd printable.1 (by decide)
            · exact absurd printable.1 (by decide)
        | backspace => decide
      rw [List.map_cons, List.cons_append, chatLine, if_neg goesOn, ih, Machine.run_cons]

theorem written_on_text (line : List Char) (key : Keystroke) (written : ∀ char ∈ line, char.toNat ≠ 0) :
    ∀ char ∈ key.onText line, char.toNat ≠ 0 := by
  cases key with
  | char wc printable =>
      intro char member
      rcases List.mem_append.mp member with before | last
      · exact written char before
      · obtain ⟨low, _, surrogate⟩ := printable
        have valid : wc.toNat.isValidChar := by
          have small := wc.toNat_lt
          unfold Nat.isValidChar
          omega
        rw [List.mem_singleton.mp last, Char.ofNat, dif_pos valid]
        change wc.toNat ≠ 0
        omega
  | backspace => exact fun char member => written char (List.mem_of_mem_dropLast member)

theorem left_over_written (keys : List Keystroke) : ∀ char ∈ leftOver keys, char.toNat ≠ 0 :=
  Machine.foldl_keeps Keystroke.onText (fun line => ∀ char ∈ line, char.toNat ≠ 0) written_on_text keys [] nofun

end Editor

section Sending

theorem world_line_sent (line : List Char) (written : ∀ char ∈ line, char.toNat ≠ 0) (filled : line ≠ [])
    (noWhisper : ¬ whisperMark <+: line) (noParty : ¬ partyMark <+: line) :
    enterChat (Utf8.encode line) = some ⟨0, [], (Utf8.encode line).take 127⟩ := by
  have some_ : Utf8.encode line ≠ [] := fun none => filled (Utf8.encode_empty line (congrArg List.length none))
  have whisper : ¬ Utf8.encode whisperMark <+: Utf8.encode line := mt (Utf8.prefix_of_encode line whisperMark) noWhisper
  have party : ¬ Utf8.encode partyMark <+: Utf8.encode line := mt (Utf8.prefix_of_encode line partyMark) noParty
  have all : cString (Utf8.encode line) = Utf8.encode line := by
    rw [cString, List.takeWhile_eq_self_iff]
    exact fun byte member => decide_eq_true (Utf8.encode_no_zero line written byte member)
  rw [enterChat, if_neg some_, if_neg whisper, if_neg party, all, strncpyS]

end Sending

-- The editor keeps what is typed; what it sends is text, cut between two characters,
-- exactly when a character ends at the 127th byte or the line is no longer.
theorem chat_typed_iff (keys : List Keystroke) (enter : UInt16) (ends : enter = 13 ∨ enter = 10)
    (noWhisper : ¬ whisperMark <+: leftOver keys) (noParty : ¬ partyMark <+: leftOver keys) :
    (∀ before after, keys = before ++ after →
      Machine.run typeKey [] (before.map Keystroke.wchar) = Utf8.encode (leftOver before)) ∧
    (leftOver keys ≠ [] → ∃ message,
      (chatLine [] (keys.map Keystroke.wchar ++ [enter])).bind enterChat = some ⟨0, [], message⟩ ∧
      (Utf8.Valid message ∧ Utf8.CutTo 127 (leftOver keys) message ↔ Utf8.Parts 127 (leftOver keys))) := by
  have encodes (typed : List Keystroke) : Machine.run typeKey [] (typed.map Keystroke.wchar) = Utf8.encode (leftOver typed) :=
    editor_encodes typed []
  refine ⟨fun before _ _ => encodes before, fun filled => ⟨(Utf8.encode (leftOver keys)).take 127, ?_, ?_⟩⟩
  · rw [chat_line_run keys enter ends, encodes]
    exact world_line_sent (leftOver keys) (left_over_written keys) filled noWhisper noParty
  · constructor
    · rintro ⟨valid, _⟩
      exact Utf8.parts_of_valid (leftOver keys) 127 valid
    · intro parts
      have cut := Utf8.cut_of_parts (leftOver keys) 127 parts
      exact ⟨Utf8.valid_of_cut (leftOver keys) 127 _ cut, cut⟩

def syllable : List Keystroke := [.char 0xD55C (by decide), .char 0x61 (by decide), .backspace]

theorem syllable_sent : ∃ message, (chatLine [] (syllable.map Keystroke.wchar ++ [13])).bind enterChat = some ⟨0, [], message⟩ ∧
    Utf8.Valid message ∧ Utf8.CutTo 127 (leftOver syllable) message := by
  obtain ⟨_, sends⟩ := chat_typed_iff syllable 13 (.inl rfl) (by decide) (by decide)
  obtain ⟨message, sent, text⟩ := sends (by decide)
  exact ⟨message, sent, text.mpr (.inl (by decide))⟩

-- 126 letters and an accented one: the field ends with its first byte.
def splitLine : List Keystroke := List.replicate 126 (.char 0x61 (by decide)) ++ [.char 0xE9 (by decide)]

theorem split_line_no_text : ∃ message,
    (chatLine [] (splitLine.map Keystroke.wchar ++ [13])).bind enterChat = some ⟨0, [], message⟩ ∧ ¬ Utf8.Valid message := by
  have line : leftOver splitLine = List.replicate 126 'a' ++ [Char.ofNat 0xE9] := by decide +kernel
  have letters (count : Nat) : (Utf8.encode (List.replicate count 'a')).length = count := by
    rw [Utf8.encode, List.length_flatMap, List.map_replicate, List.sum_replicate]
    exact Nat.mul_one count
  have whole : (Utf8.encode (leftOver splitLine)).length = 128 := by
    rw [line, Utf8.encode_append, List.length_append, letters]
    rfl
  refine ⟨(Utf8.encode (leftOver splitLine)).take 127, by rw [line]; decide +kernel, fun valid => ?_⟩
  rcases Utf8.parts_of_valid (leftOver splitLine) 127 valid with fits | ⟨count, part⟩
  · rw [whole] at fits
    exact absurd fits (by decide)
  · rcases Nat.lt_or_ge count 127 with inside | behind
    · rw [line, List.take_append_of_le_length (by simp; omega), List.take_replicate, letters] at part
      omega
    · rw [List.take_of_length_le (by rwa [line]), whole] at part
      exact absurd part (by decide)

end MmorpgSimulator
