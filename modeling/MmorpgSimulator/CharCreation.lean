import MmorpgSimulator.Server
import MmorpgSimulator.Library.SqlText

set_option autoImplicit false

namespace MmorpgSimulator

open SqlText

section Statement

variable (accountUid : AccountUid) (name : Bytes) (charType : UInt8)

-- std::wstring from a range of char, which is signed: the sign is extended to the 16 bits of wchar_t.
def widened (byte : UInt8) : UInt16 := byte.toInt8.toInt16.toUInt16

def procCall : Text :=
  units "CALL spCharacterCreate(" ++ decimal accountUid ++ units ", '" ++ (cString name).map widened ++ units "', " ++
    decimal charType.toNat ++ units ")"

def characters : Text := (cString name).map UInt8.toUInt16

def CreatesNamed (source : Text) : Prop :=
  ∃ first third, parseCall 3 source = some ⟨units "spCharacterCreate", [first, .literal (characters name), third]⟩

def afterName : Text := comma :: 32 :: (decimal charType.toNat ++ [closing])

theorem proc_call_shape : procCall accountUid name charType =
    units "CALL" ++ 32 :: (units "spCharacterCreate" ++ opening :: (decimal accountUid ++ comma :: 32 :: quote ::
      ((cString name).map widened ++ quote :: afterName charType))) := by
  have call : units "CALL spCharacterCreate(" = units "CALL" ++ 32 :: (units "spCharacterCreate" ++ [opening]) := by decide
  have open_ : units ", '" = [comma, 32, quote] := by decide
  have close : units "', " = [quote, comma, 32] := by decide
  have ends : units ")" = [closing] := by decide
  rw [procCall, call, open_, close, ends, afterName]
  simp only [List.append_assoc, List.cons_append, List.nil_append]

theorem after_name_unquoted : quote ∉ afterName charType := by
  intro member
  simp only [afterName, List.mem_cons, List.mem_append, List.not_mem_nil, or_false] at member
  rcases member with same | same | listed | same
  · exact absurd same (by decide)
  · exact absurd same (by decide)
  · exact absurd (decimal_digits _ quote listed) (by decide)
  · exact absurd same (by decide)

theorem proc_call_parsed : parseCall 3 (procCall accountUid name charType) =
    (literalBody ((cString name).map widened ++ quote :: afterName charType)).bind (fun out =>
      (symbol comma out.2).bind (fun rest => (argument rest).bind (fun third =>
        (symbol closing third.2).bind (fun left =>
          if skip left = [] then some ⟨units "spCharacterCreate", [.number (decimal accountUid), .literal out.1, third.1]⟩ else none)))) := by
  have call (rest : Text) : word (units "CALL" ++ 32 :: rest) = (units "CALL", 32 :: rest) :=
    word_here _ _ (by decide) (by decide) (by simp [isLetter])
  have procedure (rest : Text) : word (units "spCharacterCreate" ++ opening :: rest) = (units "spCharacterCreate", opening :: rest) :=
    word_here _ _ (by decide) (by decide) (by simp [isLetter, opening])
  have account (rest : Text) : argument (decimal accountUid ++ comma :: rest) = some (.number (decimal accountUid), comma :: rest) :=
    argument_number _ _ (by simp [isDigit, comma])
  rw [parseCall, proc_call_shape, call]
  simp only [if_pos, word_space, procedure, symbol_here _ opening (by decide), symbol_here _ comma (by decide), Option.bind_some,
    arguments, account, argument_space, argument_literal]
  cases literalBody ((cString name).map widened ++ quote :: afterName charType) with
  | none => rfl
  | some out =>
      simp only [Option.map_some, Option.bind_some]
      cases symbol comma out.2 with
      | none => rfl
      | some rest =>
          simp only [Option.bind_some]
          cases argument rest with
          | none => rfl
          | some third => rfl

theorem widened_plain (byte : UInt8) : widened byte = byte.toUInt16 ↔ byte < 128 := by
  have all : ∀ code < 256, widened (UInt8.ofNat code) = (UInt8.ofNat code).toUInt16 ↔ UInt8.ofNat code < 128 := by
    decide +kernel
  have spelled : UInt8.ofNat byte.toNat = byte := UInt8.ofNat_toNat
  exact spelled ▸ all byte.toNat byte.toNat_lt

theorem widened_characters : (cString name).map widened = characters name ↔ ∀ byte ∈ cString name, byte < 128 := by
  rw [characters, List.map_inj_left]
  exact forall₂_congr (fun byte _ => widened_plain byte)

theorem call_of_verbatim (plain : ∀ byte ∈ cString name, byte < 128) (verbatim : Verbatim (characters name)) :
    parseCall 3 (procCall accountUid name charType) = some ⟨units "spCharacterCreate",
      [.number (decimal accountUid), .literal (characters name), .number (decimal charType.toNat)]⟩ := by
  have read : literalBody (characters name ++ quote :: afterName charType) = some (characters name, afterName charType) :=
    literal_verbatim _ _ verbatim (by simp [afterName, comma, quote])
  have third : argument (decimal charType.toNat ++ [closing]) = some (.number (decimal charType.toNat), [closing]) :=
    argument_number _ _ (by simp [isDigit, closing])
  rw [proc_call_parsed, (widened_characters name).mpr plain, read]
  simp only [Option.bind_some, afterName, symbol_here _ comma (by decide), argument_space, third, symbol_here _ closing (by decide)]
  rfl

theorem char_create_named_iff : CreatesNamed name (procCall accountUid name charType) ↔
    (∀ byte ∈ cString name, byte < 128) ∧ Verbatim (characters name) := by
  constructor
  · intro created
    obtain ⟨first, third, parsed⟩ := created
    rw [proc_call_parsed, Option.bind_eq_some_iff] at parsed
    obtain ⟨⟨value, left⟩, read, parsed⟩ := parsed
    obtain ⟨rest, _, parsed⟩ := Option.bind_eq_some_iff.mp parsed
    obtain ⟨last, _, parsed⟩ := Option.bind_eq_some_iff.mp parsed
    obtain ⟨behind, _, parsed⟩ := Option.bind_eq_some_iff.mp parsed
    have same : value = characters name := by
      split at parsed
      · simp only [Option.some.injEq, Call.mk.injEq, List.cons.injEq, Argument.literal.injEq] at parsed
        exact parsed.2.2.1
      · exact absurd parsed nofun
    have held := (literal_short _ (afterName charType) value left (after_name_unquoted charType) (List.cons_ne_nil _ _) read).2
    have full : value.length = ((cString name).map widened).length := by rw [same, characters, List.length_map, List.length_map]
    obtain ⟨whole, verbatim⟩ := held full
    have plain := whole.symm.trans same
    exact ⟨(widened_characters name).mp plain, plain ▸ verbatim⟩
  · intro safe
    exact ⟨_, _, call_of_verbatim accountUid name charType safe.1 safe.2⟩

theorem apostrophe_breaks_call : ¬ CreatesNamed (text "O'Neil") (procCall 1 (text "O'Neil") 1) := by
  intro created
  obtain ⟨first, third, parsed⟩ := created
  have broken : parseCall 3 (procCall 1 (text "O'Neil") 1) = none := by decide +kernel
  exact absurd (broken.symm.trans parsed) nofun

end Statement

end MmorpgSimulator
