import Mathlib

set_option autoImplicit false

namespace Utf8

def encode (line : List Char) : List UInt8 := line.flatMap String.utf8EncodeChar

def Valid (bytes : List UInt8) : Prop := ∃ line, encode line = bytes

def Trailing (byte : UInt8) : Prop := byte &&& 0xC0 = 0x80

instance (byte : UInt8) : Decidable (Trailing byte) := inferInstanceAs (Decidable (_ = _))

def CutTo (limit : Nat) (line : List Char) (bytes : List UInt8) : Prop :=
  ∃ count, bytes = encode (line.take count) ∧ bytes.length ≤ limit ∧
    ∀ more, (encode (line.take more)).length ≤ limit → line.take more <+: line.take count

-- A character ends where the limit is, or the whole line does before.
def Parts (limit : Nat) (line : List Char) : Prop :=
  (encode line).length ≤ limit ∨ ∃ count, (encode (line.take count)).length = limit

section Characters

theorem trailing_iff (byte : UInt8) : Trailing byte ↔ 0x80 ≤ byte.toNat ∧ byte.toNat < 0xC0 := by
  have all : ∀ value < 256, Trailing (UInt8.ofNat value) ↔ 0x80 ≤ value ∧ value < 0xC0 := by decide +kernel
  have same := all byte.toNat byte.toNat_lt
  rwa [UInt8.ofNat_toNat] at same

theorem of_nat_to_nat (value : Nat) (small : value < 256) : (UInt8.ofNat value).toNat = value :=
  UInt8.toNat_ofNat_of_lt' small

theorem trailing_byte (value : Nat) : Trailing (UInt8.ofNat (value % 64 + 0x80)) := by
  rw [trailing_iff, of_nat_to_nat _ (by omega)]
  omega

structure Shape (char : Char) (head : UInt8) (tail : List UInt8) : Prop where
  bytes : String.utf8EncodeChar char = head :: tail
  leads : ¬ Trailing head
  trail : ∀ byte ∈ tail, Trailing byte
  ascii : head.toNat < 0x80 → head.toNat = char.toNat

theorem ascii_shape (char : Char) (value : Nat) (small : value ≤ 0x7f) (same : value = char.toNat)
    (bytes : String.utf8EncodeChar char = [UInt8.ofNat value]) : Shape char (UInt8.ofNat value) [] where
  bytes := bytes
  leads := by
    rw [trailing_iff, of_nat_to_nat _ (by omega)]
    omega
  trail := nofun
  ascii := fun _ => (of_nat_to_nat _ (by omega)).trans same

theorem wide_shape (char : Char) (value : Nat) (tail : List UInt8) (high : 0xC0 ≤ value) (small : value < 256)
    (trail : ∀ byte ∈ tail, Trailing byte) (bytes : String.utf8EncodeChar char = UInt8.ofNat value :: tail) :
    Shape char (UInt8.ofNat value) tail where
  bytes := bytes
  leads := by
    rw [trailing_iff, of_nat_to_nat _ small]
    omega
  trail := trail
  ascii := by
    rw [of_nat_to_nat _ small]
    omega

theorem char_shape (char : Char) : ∃ head tail, Shape char head tail := by
  by_cases one : char.val.toNat ≤ 0x7f
  · exact ⟨_, _, ascii_shape char char.val.toNat one rfl (by simp only [String.utf8EncodeChar, one, if_true])⟩
  · by_cases two : char.val.toNat ≤ 0x7ff
    · refine ⟨_, _, wide_shape char (char.val.toNat / 64 % 0x20 + 0xC0) [UInt8.ofNat (char.val.toNat % 64 + 0x80)]
        (by omega) (by omega) ?_ (by simp only [String.utf8EncodeChar, one, two, if_true, if_false])⟩
      simp only [List.mem_singleton, forall_eq]
      exact trailing_byte _
    · by_cases three : char.val.toNat ≤ 0xffff
      · refine ⟨_, _, wide_shape char (char.val.toNat / 4096 % 0x10 + 0xE0)
          [UInt8.ofNat (char.val.toNat / 64 % 64 + 0x80), UInt8.ofNat (char.val.toNat % 64 + 0x80)] (by omega) (by omega) ?_
          (by simp only [String.utf8EncodeChar, one, two, three, if_true, if_false])⟩
        simp only [List.mem_cons, List.not_mem_nil, or_false, forall_eq_or_imp, forall_eq]
        exact ⟨trailing_byte _, trailing_byte _⟩
      · refine ⟨_, _, wide_shape char (char.val.toNat / 262144 % 0x08 + 0xF0)
          [UInt8.ofNat (char.val.toNat / 4096 % 64 + 0x80), UInt8.ofNat (char.val.toNat / 64 % 64 + 0x80),
            UInt8.ofNat (char.val.toNat % 64 + 0x80)] (by omega) (by omega) ?_
          (by simp only [String.utf8EncodeChar, one, two, three, if_false])⟩
        simp only [List.mem_cons, List.not_mem_nil, or_false, forall_eq_or_imp, forall_eq]
        exact ⟨trailing_byte _, trailing_byte _, trailing_byte _⟩

theorem char_no_zero (char : Char) (written : char.toNat ≠ 0) : ∀ byte ∈ String.utf8EncodeChar char, byte ≠ 0 := by
  obtain ⟨head, tail, shape⟩ := char_shape char
  rw [shape.bytes]
  rintro byte member rfl
  rcases List.mem_cons.mp member with first | later
  · rw [← first] at shape
    exact written (shape.ascii (by decide)).symm
  · exact absurd (shape.trail 0 later) (by decide)

end Characters

section Lines

variable (line : List Char)

theorem encode_append (first second : List Char) : encode (first ++ second) = encode first ++ encode second :=
  List.flatMap_append

theorem encode_of_take (count : Nat) : encode (line.take count) <+: encode line := by
  obtain ⟨rest, whole⟩ := List.take_prefix count line
  conv_rhs => rw [← whole, encode_append]
  exact List.prefix_append _ _

theorem encode_empty (none : (encode line).length = 0) : line = [] := by
  cases line with
  | nil => rfl
  | cons char rest =>
      obtain ⟨head, tail, shape⟩ := char_shape char
      rw [encode, List.flatMap_cons, shape.bytes] at none
      exact absurd none (Nat.succ_ne_zero _)

theorem encode_no_zero (written : ∀ char ∈ line, char.toNat ≠ 0) : ∀ byte ∈ encode line, byte ≠ 0 := by
  intro byte member
  obtain ⟨char, listed, inside⟩ := List.mem_flatMap.mp member
  exact char_no_zero char (written char listed) byte inside

theorem to_byte_array : (encode line).toByteArray = line.utf8Encode := rfl

theorem prefix_of_encode (word : List Char) (initial : encode word <+: encode line) : word <+: line := by
  obtain ⟨rest, whole⟩ := initial
  refine List.isPrefix_of_utf8Encode_append_eq_utf8Encode rest.toByteArray ?_
  rw [← to_byte_array, ← to_byte_array, ← whole, List.toByteArray_append]

theorem shorter_prefix (first second : List Char) (one : first <+: line) (other : second <+: line)
    (shorter : (encode first).length ≤ (encode second).length) : first <+: second := by
  rcases List.prefix_or_prefix_of_prefix one other with before | after
  · exact before
  · obtain ⟨rest, rfl⟩ := after
    rw [encode_append, List.length_append] at shorter
    rw [encode_empty rest (by omega), List.append_nil]

variable (limit : Nat)

theorem cut_of_parts (parts : Parts limit line) : CutTo limit line ((encode line).take limit) := by
  have short : ((encode line).take limit).length ≤ limit := List.length_take_le _ _
  rcases parts with fits | ⟨count, exact_⟩
  · refine ⟨line.length, ?_, short, fun more _ => ?_⟩
    · rw [List.take_length, List.take_of_length_le fits]
    · rw [List.take_length]
      exact List.take_prefix more line
  · refine ⟨count, ?_, short, fun more fits => ?_⟩
    · rw [← exact_]
      exact (List.prefix_iff_eq_take.mp (encode_of_take line count)).symm
    · exact shorter_prefix line _ _ (List.take_prefix more line) (List.take_prefix count line) (le_of_le_of_eq fits exact_.symm)

theorem parts_of_valid (valid : Valid ((encode line).take limit)) : Parts limit line := by
  obtain ⟨word, same⟩ := valid
  by_cases fits : (encode line).length ≤ limit
  · exact .inl fits
  · have before : word <+: line := prefix_of_encode line word (same ▸ List.take_prefix limit (encode line))
    refine .inr ⟨word.length, ?_⟩
    rw [← List.prefix_iff_eq_take.mp before, same, List.length_take]
    omega

theorem valid_of_cut (bytes : List UInt8) (cut : CutTo limit line bytes) : Valid bytes := by
  obtain ⟨count, rfl, _⟩ := cut
  exact ⟨line.take count, rfl⟩

end Lines

end Utf8
