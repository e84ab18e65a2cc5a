import MmorpgSimulator.Pieces

set_option autoImplicit false

namespace MmorpgSimulator

open Scanning

structure Blanks where
  bytes : Bytes
  blank : ∀ byte ∈ bytes, byte ∈ ([32, 9, 10, 13] : Bytes)

def digits (number : Nat) : Bytes :=
  if number = 0 then [48] else (Nat.digits 10 number).reverse.map (fun digit => UInt8.ofNat (48 + digit))

inductive Value where
  | number (value : Nat)
  | string (bytes : Bytes)
deriving DecidableEq

def Value.piece : Value → Piece
  | .number value => .plain (digits value)
  | .string bytes => .quote bytes

def Value.Void : Value → Prop
  | .number value => value = 0
  | .string bytes => bytes = []

-- A field as it is written: the blanks before it, its key, the spaces behind the colon, its value.
structure Field where
  gap : Blanks
  key : String
  spaces : Nat
  value : Value

def Field.pieces (field : Field) : List Piece :=
  [.plain field.gap.bytes, .quote (text field.key), .plain (colon :: List.replicate field.spaces 32), field.value.piece]

def keyNames : List String := ["items", "dropTable", "id", "name", "type", "atk", "def", "hp", "price", "itemId", "weight"]

structure Unquoted (bytes : Bytes) : Prop where
  level : ∀ byte ∈ bytes, byte ∉ [doubleQuote, 92, openBracket, closeBracket, openBrace, closeBrace]
  unlike : ∀ key ∈ keyNames, bytes ≠ text key

structure Proper (fields : List Field) : Prop where
  once : (fields.map Field.key).Nodup
  named : ∀ field ∈ fields, field.key ∈ keyNames
  unquoted : ∀ field ∈ fields, ∀ bytes, field.value = .string bytes → Unquoted bytes

def objectBody (fields : List Field) (closing : Blanks) : List Piece :=
  commas (fields.map Field.pieces) ++ [.plain closing.bytes]

def objectPieces (fields : List Field) (closing : Blanks) : List Piece :=
  .plain [openBrace] :: (objectBody fields closing ++ [.plain [closeBrace]])

section Words

theorem key_word (key : String) (named : key ∈ keyNames) : KeyWord (text key) := by
  have all : ∀ key ∈ keyNames, doubleQuote ∉ text key ∧ colon ∉ text key ∧
      ∃ first ∈ (text key).head?, 97 ≤ first.toNat ∧ first.toNat ≤ 122 := by decide +kernel
  obtain ⟨unquoted, uncoloned, first, head, lower⟩ := all key named
  refine ⟨unquoted, uncoloned, first, (text key).tail, ?_, lower⟩
  exact List.eq_cons_of_mem_head? head

theorem key_injective (key other : String) (named : key ∈ keyNames) (others : other ∈ keyNames) (same : text key = text other) :
    key = other := by
  have all : ∀ key ∈ keyNames, ∀ other ∈ keyNames, text key = text other → key = other := by decide +kernel
  exact all key named other others same

def Level (bytes : Bytes) : Prop := ∀ byte ∈ bytes, byte ∉ [openBracket, closeBracket, openBrace, closeBrace]

instance (bytes : Bytes) : Decidable (Level bytes) := inferInstanceAs (Decidable (∀ byte ∈ bytes, _))

theorem level_append (first second : Bytes) (one : Level first) (other : Level second) : Level (first ++ second) := by
  intro byte member
  rcases List.mem_append.mp member with before | after
  · exact one byte before
  · exact other byte after

theorem key_level (key : String) (named : key ∈ keyNames) : Level (text key) := by
  have all : ∀ key ∈ keyNames, (text key).all (fun byte => byte ∉ [openBracket, closeBracket, openBrace, closeBrace]) = true := by
    decide +kernel
  exact List.all_iff_forall_prop.mp (all key named)

theorem blanks_plain (gap : Blanks) : doubleQuote ∉ gap.bytes ∧ Level gap.bytes ∧ Opens gap.bytes := by
  have all : ∀ byte ∈ ([32, 9, 10, 13] : Bytes), byte ≠ doubleQuote ∧ byte ∉ [openBracket, closeBracket, openBrace, closeBrace] ∧
      ¬ (97 ≤ byte.toNat ∧ byte.toNat ≤ 122) := List.all_iff_forall_prop.mp (by decide)
  refine ⟨fun member => ?_, fun byte member => (all byte (gap.blank byte member)).2.1, fun byte head => ?_⟩
  · exact (all doubleQuote (gap.blank doubleQuote member)).1 rfl
  · exact (all byte (gap.blank byte (List.mem_of_mem_head? head))).2.2

end Words

section Numbers

theorem digit_byte (digit : Nat) (small : digit < 10) :
    (UInt8.ofNat (48 + digit)).toNat = 48 + digit ∧ decimalDigit (UInt8.ofNat (48 + digit)) = true := by
  have all : ∀ digit < 10, (UInt8.ofNat (48 + digit)).toNat = 48 + digit ∧ decimalDigit (UInt8.ofNat (48 + digit)) = true := by decide
  exact all digit small

theorem digits_decimal (number : Nat) : ∀ byte ∈ digits number, decimalDigit byte = true := by
  intro byte member
  rw [digits] at member
  split at member
  · rw [List.mem_singleton.mp member]
    rfl
  · obtain ⟨digit, listed, rfl⟩ := List.mem_map.mp member
    exact (digit_byte digit (Nat.digits_lt_base (by decide) (List.mem_reverse.mp listed))).2

theorem digits_some (number : Nat) : digits number ≠ [] := by
  rw [digits]
  split
  · exact List.cons_ne_nil _ _
  · rename_i positive
    simpa [Nat.digits_eq_nil_iff_eq_zero] using positive

theorem digits_value (number : Nat) :
    (digits number).foldl (fun value byte => 10 * value + (byte.toNat - 48 : Int)) 0 = number := by
  rw [digits]
  split
  · rename_i zero
    rw [zero]
    rfl
  · have bytes : ∀ digit ∈ Nat.digits 10 number, ((UInt8.ofNat (48 + digit)).toNat - 48 : Int) = digit := by
      intro digit listed
      rw [(digit_byte digit (Nat.digits_lt_base (by decide) listed)).1]
      omega
    have total (all : List Nat) (each : ∀ digit ∈ all, ((UInt8.ofNat (48 + digit)).toNat - 48 : Int) = digit) :
        all.foldr (fun digit value => 10 * value + ((UInt8.ofNat (48 + digit)).toNat - 48 : Int)) 0 = (Nat.ofDigits 10 all : Nat) := by
      induction all with
      | nil => rfl
      | cons digit rest ih =>
          rw [List.foldr_cons, ih (fun other member => each other (List.mem_cons_of_mem digit member)), each digit List.mem_cons_self,
            Nat.ofDigits_cons]
          push_cast
          omega
    rw [List.foldl_map, List.foldl_reverse, total _ bytes, Nat.ofDigits_digits]

theorem atoi_digits (number : Nat) (rest : Bytes) (fits : number < 2 ^ 31) (ends : ∀ byte ∈ rest.head?, decimalDigit byte = false) :
    atoi (digits number ++ rest) = number := by
  have taken : (digits number ++ rest).takeWhile decimalDigit = digits number := by
    rw [List.takeWhile_append_of_pos (digits_decimal number)]
    cases rest with
    | nil => simp
    | cons byte rest => rw [List.takeWhile_cons, ends byte rfl]; simp
  have value : atoiDigits 1 (digits number ++ rest) = number := by
    rw [atoiDigits, taken, digits_value]
    omega
  cases shape : digits number with
  | nil => exact absurd shape (digits_some number)
  | cons first others =>
      have digit : decimalDigit first = true := digits_decimal number first (by rw [shape]; exact List.mem_cons_self)
      have range : 48 ≤ first.toNat ∧ first.toNat ≤ 57 := of_decide_eq_true digit
      have black : whiteSpace first = false := by
        refine decide_eq_false (fun white => ?_)
        rcases white with space | control
        · rw [space] at range
          exact absurd range (by decide)
        · have high : first.toNat ≤ 13 := control.2
          omega
      rw [shape] at value
      rw [atoi, List.cons_append, List.dropWhile_cons, black, if_neg Bool.false_ne_true]
      split
      · rename_i minus
        obtain ⟨rfl, _⟩ := List.cons.inj minus
        exact absurd range (by decide)
      · rename_i plus
        obtain ⟨rfl, _⟩ := List.cons.inj plus
        exact absurd range (by decide)
      · exact value

end Numbers

section Objects

theorem digits_unquoted (number : Nat) : doubleQuote ∉ digits number :=
  fun member => absurd (digits_decimal number doubleQuote member) (by decide)

theorem unquoted_quote (bytes : Bytes) (plain : Unquoted bytes) : doubleQuote ∉ bytes :=
  fun member => plain.level doubleQuote member List.mem_cons_self

theorem spaces_unquoted (spaces : Nat) : doubleQuote ∉ colon :: List.replicate spaces 32 := by
  intro member
  rcases List.mem_cons.mp member with first | later
  · exact absurd first (by decide)
  · exact absurd (List.eq_of_mem_replicate later) (by decide)

variable (fields : List Field) (proper : Proper fields) (closing : Blanks)

include proper in
theorem field_clean (field : Field) (listed : field ∈ fields) : Clean field.pieces ∧ Opens (render field.pieces) := by
  have word := key_word field.key (proper.named field listed)
  obtain ⟨gapQuote, _, gapOpens⟩ := blanks_plain field.gap
  have value : Clean [field.value.piece] := by
    cases shape : field.value with
    | number number => exact ⟨digits_unquoted number, trivial⟩
    | string bytes => exact ⟨unquoted_quote bytes (proper.unquoted field listed bytes shape), nofun, trivial⟩
  refine ⟨⟨gapQuote, word.unquoted, ?_, spaces_unquoted field.spaces, value⟩, ?_⟩
  · intro byte head
    obtain rfl : colon = byte := Option.some.inj head
    decide
  · refine opens_append _ _ gapOpens ?_
    intro byte head
    obtain rfl : doubleQuote = byte := Option.some.inj head
    decide

theorem closing_clean : Clean [.plain closing.bytes, .plain [closeBrace]] ∧ Opens (render [.plain closing.bytes, .plain [closeBrace]]) := by
  obtain ⟨quote, _, opens⟩ := blanks_plain closing
  refine ⟨⟨quote, by decide, trivial⟩, opens_append _ _ opens ?_⟩
  intro byte head
  obtain rfl : closeBrace = byte := Option.some.inj head
  decide

theorem object_pieces_eq : objectPieces fields closing =
    [.plain [openBrace]] ++ (commas (fields.map Field.pieces) ++ [.plain closing.bytes, .plain [closeBrace]]) := by
  simp [objectPieces, objectBody]

include proper in
theorem object_clean : Clean (objectPieces fields closing) := by
  obtain ⟨clean, opens⟩ := closing_clean closing
  have each : ∀ part ∈ fields.map Field.pieces, Clean part ∧ Opens (render part) := by
    intro part member
    obtain ⟨field, listed, rfl⟩ := List.mem_map.mp member
    exact field_clean fields proper field listed
  have brace : doubleQuote ∉ [openBrace] := by decide
  rw [object_pieces_eq]
  exact ⟨brace, clean_append (commas (fields.map Field.pieces)) _ (commas_clean _ each).1 clean opens⟩

theorem quote_of_pieces (field : Field) (word : Bytes) (member : .quote word ∈ field.pieces) :
    word = text field.key ∨ field.value = .string word := by
  simp only [Field.pieces, List.mem_cons, List.not_mem_nil, or_false, reduceCtorEq, false_or, Piece.quote.injEq] at member
  rcases member with key | value
  · exact .inl key
  · cases shape : field.value with
    | number number =>
        rw [shape] at value
        exact absurd value nofun
    | string bytes =>
        rw [shape] at value
        exact .inr (congrArg Value.string (Piece.quote.inj value).symm)

theorem key_elsewhere (word : Bytes) (absent : ∀ field ∈ fields, word ≠ text field.key ∧ field.value ≠ .string word) :
    ∀ part ∈ fields.map Field.pieces, .quote word ∉ part := by
  intro part member inside
  obtain ⟨field, listed, rfl⟩ := List.mem_map.mp member
  obtain ⟨key, value⟩ := absent field listed
  exact (quote_of_pieces field word inside).elim key value

include proper in
theorem field_stands (field : Field) (listed : field ∈ fields) :
    ∃ before after, objectPieces fields closing =
        before ++ .quote (text field.key) :: .plain (colon :: List.replicate field.spaces 32) :: field.value.piece :: after ∧
      .quote (text field.key) ∉ before ∧ ∀ byte ∈ (render after).head?, decimalDigit byte = false := by
  obtain ⟨first, last, rfl⟩ := List.append_of_mem listed
  obtain ⟨front, back, split, ends, inside⟩ := commas_split (first.map Field.pieces) (last.map Field.pieces) field.pieces
  refine ⟨[Piece.plain [openBrace]] ++ (front ++ [Piece.plain field.gap.bytes]),
    back ++ [Piece.plain closing.bytes, Piece.plain [closeBrace]], ?_, ?_, ?_⟩
  · rw [object_pieces_eq, List.map_append, List.map_cons, split]
    simp [Field.pieces]
  · have named := proper.named field (by simp)
    have once := proper.once
    rw [List.map_append, List.map_cons, List.nodup_middle, List.nodup_cons, List.mem_append, not_or] at once
    have elsewhere := key_elsewhere first (text field.key) (by
      intro other member
      have there : other ∈ first ++ field :: last := List.mem_append_left _ member
      refine ⟨fun same => once.1.1 ?_, fun value => ?_⟩
      · rw [key_injective field.key other.key named (proper.named other there) same]
        exact List.mem_map_of_mem member
      · exact (proper.unquoted other there _ value).unlike field.key named rfl)
    intro member
    simp only [List.cons_append, List.nil_append, List.mem_cons, List.mem_append, reduceCtorEq, false_or, List.not_mem_nil, or_false] at member
    rcases inside _ member with comma | ⟨part, present, here⟩
    · exact absurd comma nofun
    · exact elsewhere part present here
  · intro byte head
    rcases ends with rfl | ⟨more, rfl⟩
    · have blank : ∀ byte ∈ (closing.bytes ++ [closeBrace]).head?, decimalDigit byte = false := by
        have all : ∀ byte ∈ ([32, 9, 10, 13] : Bytes), decimalDigit byte = false := List.all_iff_forall_prop.mp (by decide)
        intro byte head
        cases shape : closing.bytes with
        | nil =>
            rw [shape] at head
            obtain rfl : closeBrace = byte := Option.some.inj head
            decide
        | cons first rest =>
            rw [shape] at head
            obtain rfl : first = byte := Option.some.inj head
            exact all first (closing.blank first (by rw [shape]; exact List.mem_cons_self))
      exact blank byte (by simpa [render, Piece.render] using head)
    · obtain rfl : 44 = byte := Option.some.inj head
      decide

end Objects

section Reading

theorem parse_int_at (key : String) (front rest : Bytes) (spaces number : Nat) (uncoloned : colon ∉ text key) (fits : number < 2 ^ 31)
    (ends : ∀ byte ∈ rest.head?, decimalDigit byte = false)
    (found : findText (quoted key) (front ++ quoted key ++ colon :: (List.replicate spaces 32 ++ (digits number ++ rest))) =
      some front.length) :
    parseInt (front ++ quoted key ++ colon :: (List.replicate spaces 32 ++ (digits number ++ rest))) key = some (number : Int) := by
  have passed : colon ∉ (front ++ quoted key).drop front.length := by
    rw [List.drop_left, quoted_cons]
    simp only [List.mem_cons, List.mem_append, List.not_mem_nil, or_false, not_or]
    exact ⟨by decide, uncoloned, by decide⟩
  have place := find_behind colon front.length (front ++ quoted key) (List.replicate spaces 32 ++ (digits number ++ rest)) (by simp) passed
  have value : ((colon :: (List.replicate spaces 32 ++ (digits number ++ rest))).dropWhile
      (fun byte => byte = colon ∨ byte = 32)) = digits number ++ rest := by
    cases shape : digits number with
    | nil => exact absurd shape (digits_some number)
    | cons first others =>
        have digit : decimalDigit first = true := digits_decimal number first (by rw [shape]; exact List.mem_cons_self)
        have plain : ¬ (first = colon ∨ first = 32) := by
          intro skipped
          rcases skipped with rfl | rfl
          · exact absurd digit (by decide)
          · exact absurd digit (by decide)
        have blank : ∀ byte ∈ List.replicate spaces (32 : UInt8), decide (byte = colon ∨ byte = 32) = true :=
          fun byte member => decide_eq_true (.inr (List.eq_of_mem_replicate member))
        rw [List.dropWhile_cons, if_pos (decide_eq_true (.inl rfl)), List.dropWhile_append_of_pos blank, List.cons_append,
          List.dropWhile_cons, decide_eq_false plain, if_neg Bool.false_ne_true]
  simp only [parseInt, found]
  rw [place, Option.map_some, List.drop_left, value, atoi_digits number rest fits ends]

theorem parse_str_at (key : String) (front gap bytes rest : Bytes) (gapPlain : doubleQuote ∉ gap) (plain : doubleQuote ∉ bytes)
    (found : findText (quoted key) (front ++ quoted key ++ gap ++ doubleQuote :: (bytes ++ doubleQuote :: rest)) = some front.length) :
    parseStr (front ++ quoted key ++ gap ++ doubleQuote :: (bytes ++ doubleQuote :: rest)) key = bytes := by
  have start : front.length + (text key).length + 2 = (front ++ quoted key).length := by
    simp only [quoted_cons, List.length_append, List.length_cons, List.length_nil]
    omega
  have opens := find_behind doubleQuote (front ++ quoted key).length (front ++ quoted key ++ gap) (bytes ++ doubleQuote :: rest) (by simp)
    (by rwa [List.drop_left])
  have behind : (front ++ quoted key ++ gap).length + 1 = (front ++ quoted key ++ gap ++ [doubleQuote]).length := by
    simp only [List.length_append, List.length_singleton]
  have whole : front ++ quoted key ++ gap ++ doubleQuote :: (bytes ++ doubleQuote :: rest) =
      (front ++ quoted key ++ gap ++ [doubleQuote] ++ bytes) ++ doubleQuote :: rest := by simp
  have ends := find_behind doubleQuote (front ++ quoted key ++ gap ++ [doubleQuote]).length
    (front ++ quoted key ++ gap ++ [doubleQuote] ++ bytes) rest (by simp) (by rwa [List.drop_left])
  have width : between (front ++ quoted key ++ gap).length (some (front ++ quoted key ++ gap ++ [doubleQuote] ++ bytes).length) =
      bytes.length := by
    simp only [between, List.length_append, List.length_singleton]
    omega
  simp only [parseStr, found]
  rw [start, opens]
  simp only [behind]
  rw [whole, ends, width, List.append_assoc _ bytes, List.drop_left, List.take_left]

variable (fields : List Field) (proper : Proper fields) (closing : Blanks)

include proper in
theorem number_read (field : Field) (listed : field ∈ fields) (number : Nat) (value : field.value = .number number)
    (fits : number < 2 ^ 31) : parseInt (render (objectPieces fields closing)) field.key = some (number : Int) := by
  have word := key_word field.key (proper.named field listed)
  obtain ⟨before, after, split, fresh, ends⟩ := field_stands fields proper closing field listed
  have clean := object_clean fields proper closing
  rw [split] at clean ⊢
  have found := find_text_piece field.key word before _ clean fresh
  have whole : render (before ++ .quote (text field.key) :: .plain (colon :: List.replicate field.spaces 32) :: field.value.piece :: after) =
      render before ++ quoted field.key ++ colon :: (List.replicate field.spaces 32 ++ (digits number ++ render after)) := by
    rw [render_append, render_cons, render_cons, render_cons, value, quoted_cons]
    simp [Piece.render, Value.piece]
  rw [whole] at found ⊢
  exact parse_int_at field.key _ _ field.spaces number word.uncoloned fits ends found

include proper in
theorem string_read (field : Field) (listed : field ∈ fields) (bytes : Bytes) (value : field.value = .string bytes) :
    parseStr (render (objectPieces fields closing)) field.key = bytes := by
  have word := key_word field.key (proper.named field listed)
  have plain := unquoted_quote bytes (proper.unquoted field listed bytes value)
  obtain ⟨before, after, split, fresh, _⟩ := field_stands fields proper closing field listed
  have clean := object_clean fields proper closing
  rw [split] at clean ⊢
  have found := find_text_piece field.key word before _ clean fresh
  have whole : render (before ++ .quote (text field.key) :: .plain (colon :: List.replicate field.spaces 32) :: field.value.piece :: after) =
      render before ++ quoted field.key ++ colon :: List.replicate field.spaces 32 ++ doubleQuote :: (bytes ++ doubleQuote :: render after) := by
    rw [render_append, render_cons, render_cons, render_cons, value, quoted_cons]
    simp [Piece.render, Value.piece]
  rw [whole] at found ⊢
  exact parse_str_at field.key _ _ bytes _ (spaces_unquoted field.spaces) plain found

include proper in
theorem absent_text (key : String) (named : key ∈ keyNames) (absent : key ∉ fields.map Field.key) :
    findText (quoted key) (render (objectPieces fields closing)) = none := by
  refine find_text_absent key (key_word key named) _ (object_clean fields proper closing) ?_
  rw [object_pieces_eq]
  intro member
  simp only [List.cons_append, List.nil_append, List.mem_cons, List.mem_append, reduceCtorEq, false_or, List.not_mem_nil, or_false] at member
  have elsewhere := key_elsewhere fields (text key) (by
    intro field listed
    refine ⟨fun same => absent ?_, fun value => ?_⟩
    · rw [key_injective key field.key named (proper.named field listed) same]
      exact List.mem_map_of_mem listed
    · exact (proper.unquoted field listed _ value).unlike key named rfl)
  rcases mem_commas _ _ member with comma | ⟨part, present, here⟩
  · exact absurd comma nofun
  · exact elsewhere part present here

end Reading

section Levels

theorem render_level (pieces : List Piece) (each : ∀ piece ∈ pieces, Level piece.render) : Level (render pieces) := by
  intro byte member
  obtain ⟨piece, listed, inside⟩ := List.mem_flatMap.mp member
  exact each piece listed byte inside

theorem quote_level (bytes : Bytes) (level : Level bytes) : Level (Piece.quote bytes).render := by
  have mark : Level [doubleQuote] := List.all_iff_forall_prop.mp (by decide)
  exact level_append [doubleQuote] _ mark (level_append bytes _ level mark)

theorem digits_level (number : Nat) : Level (digits number) := by
  have all : ∀ byte ∈ [openBracket, closeBracket, openBrace, closeBrace], decimalDigit byte = false :=
    List.all_iff_forall_prop.mp (by decide)
  intro byte member bracket
  exact absurd ((digits_decimal number byte member).symm.trans (all byte bracket)) (by decide)

theorem spaces_level (spaces : Nat) : Level (colon :: List.replicate spaces 32) := by
  intro byte member
  rcases List.mem_cons.mp member with rfl | later
  · decide
  · rw [List.eq_of_mem_replicate later]
    decide

theorem body_level (fields : List Field) (proper : Proper fields) (closing : Blanks) : Level (render (objectBody fields closing)) := by
  refine render_level _ (fun piece member => ?_)
  rcases List.mem_append.mp member with inside | last
  · rcases mem_commas _ _ inside with rfl | ⟨part, present, here⟩
    · have comma : Level [44] := List.all_iff_forall_prop.mp (by decide)
      exact comma
    · obtain ⟨field, listed, rfl⟩ := List.mem_map.mp present
      simp only [Field.pieces, List.mem_cons, List.not_mem_nil, or_false] at here
      rcases here with rfl | rfl | rfl | rfl
      · exact (blanks_plain field.gap).2.1
      · exact quote_level _ (key_level field.key (proper.named field listed))
      · exact spaces_level field.spaces
      · cases shape : field.value with
        | number number => exact digits_level number
        | string bytes =>
            refine quote_level bytes (fun byte inside bracket => ?_)
            have plain := (proper.unquoted field listed bytes shape).level byte inside
            exact plain (List.mem_cons_of_mem _ (List.mem_cons_of_mem _ bracket))
  · rw [List.mem_singleton.mp last]
    exact (blanks_plain closing).2.1

end Levels

end MmorpgSimulator
