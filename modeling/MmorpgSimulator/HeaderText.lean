import MmorpgSimulator.Generator

set_option autoImplicit false

namespace MmorpgSimulator

open Backtracking

section Grammar

structure Ident where
  chars : Chars
  begins : ∃ first rest, chars = first :: rest ∧ first.isDigit = false
  plain : ∀ c ∈ chars, c.isAlphanum = true ∨ c = '_'

structure Spacing where
  chars : Chars
  blank : ∀ c ∈ chars, c = ' ' ∨ c = '\t'

structure Remark where
  chars : Chars
  inside : ∀ c ∈ chars, c ≠ '\n' ∧ c ≠ '}'

structure ConstantDecl where
  name : Ident
  value : Nat

inductive Extent where
  | single
  | literal (count : Nat)
  | constant (bound : ConstantDecl)

structure FieldDecl where
  type : Ident
  name : Ident
  extent : Extent

inductive Line where
  | field (indent : Spacing) (decl : FieldDecl) (gap : Spacing) (remark : Remark)
  | comment (indent : Spacing) (remark : Remark)
  | blank (indent : Spacing)

structure StructDecl where
  name : Ident
  gap : Spacing
  beforeBrace : Spacing
  lines : List Line

structure OtherLines where
  chars : Chars
  ended : chars = [] ∨ ∃ front, chars = front ++ ['\n']
  plain : ¬ ['s', 't', 'r', 'u', 'c', 't'] <:+: chars

inductive Decl where
  | struct (decl : StructDecl)
  | constant (decl : ConstantDecl)
  | other (lines : OtherLines)

def decimalChars (number : Nat) : Chars :=
  if number = 0 then ['0'] else (Nat.digits 10 number).reverse.map (fun digit => Char.ofNat (48 + digit))

def Extent.chars : Extent → Chars
  | .single => []
  | .literal count => '[' :: (decimalChars count ++ [']'])
  | .constant bound => '[' :: (bound.name.chars ++ [']'])

def Extent.count : Extent → Nat
  | .single => 1
  | .literal count => count
  | .constant bound => bound.value

def Extent.length : Extent → Option Nat
  | .single => none
  | .literal count => some count
  | .constant bound => some bound.value

def FieldDecl.chars (decl : FieldDecl) (gap : Spacing) : Chars :=
  decl.type.chars ++ (' ' :: gap.chars ++ (decl.name.chars ++ (decl.extent.chars ++ [';'])))

def FieldDecl.json (decl : FieldDecl) : JsonField := ⟨decl.name.chars, jsonType decl.type.chars, decl.extent.length⟩

def Line.chars : Line → Chars
  | .field indent decl gap remark => indent.chars ++ (decl.chars gap ++ remark.chars)
  | .comment indent remark => indent.chars ++ ('/' :: '/' :: remark.chars)
  | .blank indent => indent.chars

def Line.decl : Line → Option FieldDecl
  | .field _ decl _ _ => some decl
  | _ => none

namespace StructDecl

variable (struct : StructDecl)

def fields : List FieldDecl := struct.lines.filterMap Line.decl

def body : Chars := '\n' :: struct.lines.flatMap (fun line => line.chars ++ ['\n'])

def chars : Chars :=
  ['s', 't', 'r', 'u', 'c', 't'] ++ (' ' :: struct.gap.chars ++ (struct.name.chars ++ (struct.beforeBrace.chars ++
    ('{' :: (struct.body ++ ['}'])))))

end StructDecl

def constexprInt : Chars := ['c', 'o', 'n', 's', 't', 'e', 'x', 'p', 'r', ' ', 'i', 'n', 't', ' ']

def ConstantDecl.chars (decl : ConstantDecl) : Chars :=
  constexprInt ++ (decl.name.chars ++ ([' ', '=', ' '] ++ (decimalChars decl.value ++ [';', '\n'])))

def Decl.chars : Decl → Chars
  | .struct decl => decl.chars ++ [';', '\n']
  | .constant decl => decl.chars
  | .other lines => lines.chars

def Decl.structs : Decl → List StructDecl
  | .struct decl => [decl]
  | _ => []

-- A header: no struct is declared twice, no struct is empty, and an array's bound that
-- is not a number is a constant declared in the same header.
structure HeaderText where
  decls : List Decl
  distinct : ((decls.flatMap Decl.structs).map (fun struct => struct.name.chars)).Nodup
  filled : ∀ struct ∈ decls.flatMap Decl.structs, struct.fields ≠ []
  defined : ∀ struct ∈ decls.flatMap Decl.structs, ∀ field ∈ struct.fields, ∀ bound, field.extent = .constant bound →
    Decl.constant bound ∈ decls

def HeaderText.structs (header : HeaderText) : List StructDecl := header.decls.flatMap Decl.structs

def HeaderText.chars (header : HeaderText) : Chars := header.decls.flatMap Decl.chars

end Grammar

section Numerals

variable (tables : CharTables)

theorem digit_char (digit : Nat) (small : digit < 10) : (Char.ofNat (48 + digit)).isDigit = true ∧ (Char.ofNat (48 + digit)).toNat = 48 + digit := by
  have all : ∀ digit < 10, (Char.ofNat (48 + digit)).isDigit = true ∧ (Char.ofNat (48 + digit)).toNat = 48 + digit := by decide
  exact all digit small

theorem decimal_chars_digits (number : Nat) : ∀ c ∈ decimalChars number, c.isDigit = true := by
  intro c member
  rw [decimalChars] at member
  split at member
  · rw [List.mem_singleton.mp member]
    rfl
  · obtain ⟨digit, listed, rfl⟩ := List.mem_map.mp member
    exact (digit_char digit (Nat.digits_lt_base (by decide) (List.mem_reverse.mp listed))).1

theorem decimal_chars_some (number : Nat) : decimalChars number ≠ [] := by
  rw [decimalChars]
  split
  · exact List.cons_ne_nil _ _
  · rename_i positive
    simpa [Nat.digits_eq_nil_iff_eq_zero] using positive

theorem digit_small (c : Char) (digit : c.isDigit = true) : c.toNat < 128 := by
  simp only [Char.isDigit, Bool.and_eq_true, decide_eq_true_eq, UInt32.le_iff_toNat_le] at digit
  change 48 ≤ c.toNat ∧ c.toNat ≤ 57 at digit
  omega

theorem digit_value (c : Char) (digit : c.isDigit = true) : tables.digit c = some (c.toNat - 48) := by
  rw [tables.digitAscii c (digit_small c digit), digit]
  rfl

theorem to_int_decimal (number : Nat) : toInt tables (decimalChars number) = number := by
  rw [toInt, decimalChars]
  split
  · rename_i zero
    rw [zero]
    simp [digit_value tables '0' rfl]
  · have total (all : List Nat) (each : ∀ digit ∈ all, digit < 10) :
        all.foldr (fun digit value => 10 * value + (tables.digit (Char.ofNat (48 + digit))).getD 0) 0 = Nat.ofDigits 10 all := by
      induction all with
      | nil => rfl
      | cons digit rest ih =>
          obtain ⟨small, others⟩ := List.forall_mem_cons.mp each
          obtain ⟨isDigit, code⟩ := digit_char digit small
          rw [List.foldr_cons, ih others, digit_value tables _ isDigit, code, Nat.ofDigits_cons, Option.getD_some]
          omega
    rw [List.foldl_map, List.foldl_reverse, total _ (fun digit listed => Nat.digits_lt_base (by decide) listed), Nat.ofDigits_digits]

end Numerals

section FieldLines

variable (tables : CharTables)

theorem blank_space (c : Char) (blank : c = ' ' ∨ c = '\t') : tables.space c = true := by
  rcases blank with rfl | rfl
  · rw [tables.spaceAscii _ (by decide)]
    decide
  · rw [tables.spaceAscii _ (by decide)]
    decide

theorem spacing_space (spacing : Spacing) : ∀ c ∈ spacing.chars, tables.space c = true :=
  fun c member => blank_space tables c (spacing.blank c member)

theorem mark_plain (c : Char) (mark : c ∈ ['[', ']', ';', '{', '}', '/', '=']) : tables.word c = false ∧ tables.space c = false := by
  simp only [List.mem_cons, List.not_mem_nil, or_false] at mark
  rcases mark with rfl | rfl | rfl | rfl | rfl | rfl | rfl <;>
    exact ⟨not_word tables _ (by decide) (by decide), (tables.spaceAscii _ (by decide)).trans (by decide)⟩

theorem ident_word (ident : Ident) : ∀ c ∈ ident.chars, tables.word c = true :=
  fun c member => (word_plain tables c (ident.plain c member)).2

theorem space_not_word (c : Char) (space : tables.space c = true) : tables.word c = false := by
  cases word : tables.word c with
  | false => rfl
  | true => exact absurd ((tables.apart c word).symm.trans space) Bool.false_ne_true

theorem ident_some (ident : Ident) : ident.chars ≠ [] := by
  obtain ⟨first, rest, shape, _⟩ := ident.begins
  rw [shape]
  exact List.cons_ne_nil _ _

theorem ends_cons (class_ : Char → Bool) (c : Char) (rest : Chars) (outside : class_ c = false) : Ends class_ (c :: rest) :=
  fun _ same => Option.some.inj same ▸ outside

theorem ident_ends_space (ident : Ident) (rest : Chars) : Ends tables.space (ident.chars ++ rest) := by
  obtain ⟨first, others, shape, _⟩ := ident.begins
  have word := ident_word tables ident first (by rw [shape]; exact List.mem_cons_self)
  rw [shape]
  exact ends_cons _ _ _ (tables.apart first word)

variable {Result : Type} (result : Result)

-- What fieldPattern asks for behind the array length: \s*;
def finish : Matcher Char Result := andThen (many tables.space) fun _ => andThen (literal [';']) fun _ => accept result

theorem finish_after (c : Char) (rest : Chars) (black : tables.space c = false) :
    finish tables result (c :: rest) = andThen (literal [';']) (fun _ => accept result) (c :: rest) := by
  have semicolon := (mark_plain tables ';' (by decide)).2
  exact many_then tables.space (fun _ => andThen (literal [';']) fun _ => accept result) [] (c :: rest) nofun (ends_cons _ _ _ black)
    (fun _ c text space => literal_outside tables.space ';' c text _ semicolon space)

theorem finish_here (trailing : Chars) : finish tables result (';' :: trailing) = [(result, trailing)] := by
  rw [finish_after tables result ';' trailing (mark_plain tables ';' (by decide)).2]
  exact literal_then [';'] trailing _

theorem finish_other (c : Char) (rest : Chars) (black : tables.space c = false) (other : c ≠ ';') : finish tables result (c :: rest) = [] := by
  rw [finish_after tables result c rest black]
  exact literal_elsewhere ';' c rest _ other

theorem length_elsewhere (c : Char) (rest : Chars) (other : c ≠ '[') : lengthPattern tables (c :: rest) = [] :=
  literal_elsewhere '[' c rest _ other

theorem length_read (digits rest : Chars) (some_ : digits ≠ []) (all : ∀ c ∈ digits, c.isDigit = true) :
    lengthPattern tables ('[' :: (digits ++ ']' :: rest)) = [(digits, rest)] := by
  have inside : ∀ c ∈ digits, (tables.digit c).isSome = true := by
    intro c member
    rw [digit_value tables c (all c member)]
    rfl
  have bracket : (tables.digit ']').isSome = false := not_digit tables ']' (by decide) (by decide)
  have run := several_then (fun c => (tables.digit c).isSome) (fun taken => andThen (literal [']']) fun _ => accept taken) digits
    (']' :: rest) some_ inside (ends_cons _ _ _ bracket)
    (fun _ c text digit => literal_outside (fun c => (tables.digit c).isSome) ']' c text _ bracket digit)
  exact (literal_then ['['] (digits ++ ']' :: rest) _).trans (run.trans (literal_then [']'] rest _))

theorem length_named (bound : Ident) (rest : Chars) : lengthPattern tables ('[' :: (bound.chars ++ rest)) = [] := by
  obtain ⟨first, others, shape, letter⟩ := bound.begins
  have small := (word_plain tables first (bound.plain first (by rw [shape]; exact List.mem_cons_self))).1
  have outside := not_digit tables first small letter
  refine (literal_then ['['] (bound.chars ++ rest) _).trans ?_
  rw [shape]
  exact several_starts _ _ first _ outside

def Extent.numeral : Extent → Option (Option Chars)
  | .single => some none
  | .literal count => some (some (decimalChars count))
  | .constant _ => none

theorem perhaps_then {Other : Type} (pattern : Matcher Char Result) (next : Option Result → Matcher Char Other) (text : Chars) :
    andThen (perhaps pattern) next text = (pattern text).flatMap (fun taken => next (some taken.1) taken.2) ++ next none text := by
  simp [andThen, perhaps, List.flatMap_append, List.flatMap_map]

theorem extent_match (make : Option Chars → Result) (extent : Extent) (trailing : Chars) :
    andThen (perhaps (lengthPattern tables)) (fun arraySize => finish tables (make arraySize)) (extent.chars ++ ';' :: trailing) =
      match extent.numeral with
      | some arraySize => [(make arraySize, trailing)]
      | none => [] := by
  have bracket := (mark_plain tables '[' (by decide)).2
  rw [perhaps_then]
  cases extent with
  | single =>
      change (lengthPattern tables (';' :: trailing)).flatMap _ ++ finish tables (make none) (';' :: trailing) = [(make none, trailing)]
      rw [length_elsewhere tables ';' trailing (by decide), finish_here]
      rfl
  | literal count =>
      have text : Extent.chars (.literal count) ++ ';' :: trailing = '[' :: (decimalChars count ++ ']' :: ';' :: trailing) := by
        simp [Extent.chars]
      rw [text, length_read tables _ _ (decimal_chars_some count) (decimal_chars_digits count), List.flatMap_singleton,
        finish_other tables _ '[' _ bracket (by decide), finish_here]
      rfl
  | constant bound =>
      have text : Extent.chars (.constant bound) ++ ';' :: trailing = '[' :: (bound.name.chars ++ ']' :: ';' :: trailing) := by
        simp [Extent.chars]
      rw [text, length_named, finish_other tables _ '[' _ bracket (by decide)]
      rfl

theorem field_match (decl : FieldDecl) (gap : Spacing) (trailing : Chars) :
    fieldPattern tables (decl.chars gap ++ trailing) =
      match decl.extent.numeral with
      | some arraySize => [((decl.type.chars, decl.name.chars, arraySize), trailing)]
      | none => [] := by
  have text : decl.chars gap ++ trailing =
      decl.type.chars ++ ((' ' :: gap.chars) ++ (decl.name.chars ++ (decl.extent.chars ++ ';' :: trailing))) := by
    simp [FieldDecl.chars]
  have spaces : ∀ c ∈ ' ' :: gap.chars, tables.space c = true :=
    List.forall_mem_cons.mpr ⟨blank_space tables ' ' (.inl rfl), spacing_space tables gap⟩
  have mark : Ends tables.word (decl.extent.chars ++ ';' :: trailing) := by
    cases decl.extent with
    | single => exact ends_cons _ _ _ (mark_plain tables ';' (by decide)).1
    | literal count => exact ends_cons _ _ _ (mark_plain tables '[' (by decide)).1
    | constant bound => exact ends_cons _ _ _ (mark_plain tables '[' (by decide)).1
  rw [text]
  refine (several_then tables.word _ decl.type.chars _ (ident_some decl.type) (ident_word tables decl.type)
    (ends_cons _ _ _ (space_not_word tables ' ' (blank_space tables ' ' (.inl rfl)))) ?_).trans ?_
  · intro taken c rest word
    exact several_starts _ _ c rest (tables.apart c word)
  · refine (several_then tables.space _ (' ' :: gap.chars) _ (List.cons_ne_nil _ _) spaces (ident_ends_space tables decl.name _) ?_).trans ?_
    · intro taken c rest space
      exact several_starts _ _ c rest (space_not_word tables c space)
    · refine (several_then tables.word _ decl.name.chars _ (ident_some decl.name) (ident_word tables decl.name) mark ?_).trans ?_
      · intro taken c rest word
        have notBracket : c ≠ '[' := by
          rintro rfl
          exact Bool.false_ne_true ((mark_plain tables '[' (by decide)).1.symm.trans word)
        have notEnd : c ≠ ';' := by
          rintro rfl
          exact Bool.false_ne_true ((mark_plain tables ';' (by decide)).1.symm.trans word)
        refine (perhaps_then (lengthPattern tables) _ (c :: rest)).trans ?_
        rw [length_elsewhere tables c rest notBracket]
        exact finish_other tables _ c rest (tables.apart c word) notEnd
      · exact extent_match tables (fun arraySize => (decl.type.chars, decl.name.chars, arraySize)) decl.extent trailing

end FieldLines

section Bodies

variable (tables : CharTables)

theorem rdrop_keep (front rest : Chars) (c : Char) (black : tables.space c = false) :
    (front ++ c :: rest).rdropWhile tables.space = front ++ c :: rest.rdropWhile tables.space := by
  have turned : (front ++ c :: rest).reverse = rest.reverse ++ c :: front.reverse := by simp
  have stays : (c :: front.reverse).dropWhile tables.space = c :: front.reverse := by rw [List.dropWhile_cons, black, if_neg Bool.false_ne_true]
  rw [List.rdropWhile, List.rdropWhile, turned, List.dropWhile_append, stays]
  cases left : rest.reverse.dropWhile tables.space with
  | nil => simp
  | cons first others => simp

theorem strip_line (indent : Spacing) (front rest : Chars) (first last : Char) (black : tables.space first = false)
    (ink : tables.space last = false) :
    strip tables (indent.chars ++ first :: (front ++ last :: rest)) = first :: (front ++ last :: rest.rdropWhile tables.space) := by
  rw [strip, List.dropWhile_append_of_pos (spacing_space tables indent), List.dropWhile_cons, black, if_neg Bool.false_ne_true]
  exact rdrop_keep tables (first :: front) rest last ink

def Extent.written : Extent → Bool
  | .constant _ => false
  | _ => true

theorem numeral_written (extent : Extent) :
    extent.numeral.map (Option.map (toInt tables)) = if extent.written then some extent.length else none := by
  cases extent with
  | single => rfl
  | literal count => simp [Extent.numeral, Extent.written, Extent.length, to_int_decimal]
  | constant bound => rfl

theorem parse_line_field (indent : Spacing) (decl : FieldDecl) (gap : Spacing) (remark : Remark) :
    parseLine tables (Line.chars (.field indent decl gap remark)) = if decl.extent.written then some decl.json else none := by
  obtain ⟨first, others, shape, _⟩ := decl.type.begins
  have word := ident_word tables decl.type first (by rw [shape]; exact List.mem_cons_self)
  have line : Line.chars (.field indent decl gap remark) = indent.chars ++ first ::
      ((others ++ (' ' :: gap.chars ++ (decl.name.chars ++ decl.extent.chars))) ++ ';' :: remark.chars) := by
    simp [Line.chars, FieldDecl.chars, shape]
  have stripped : strip tables (Line.chars (.field indent decl gap remark)) = decl.chars gap ++ remark.chars.rdropWhile tables.space := by
    rw [line, strip_line tables indent _ _ first ';' (tables.apart first word) (mark_plain tables ';' (by decide)).2]
    simp [FieldDecl.chars, shape]
  have begins : decl.chars gap ++ remark.chars.rdropWhile tables.space =
      first :: (others ++ (' ' :: gap.chars ++ (decl.name.chars ++ (decl.extent.chars ++ [';']))) ++ remark.chars.rdropWhile tables.space) := by
    simp [FieldDecl.chars, shape]
  have read : ¬ (decl.chars gap ++ remark.chars.rdropWhile tables.space = [] ∨
      ['/', '/'] <+: decl.chars gap ++ remark.chars.rdropWhile tables.space) := by
    rw [begins]
    rintro (empty | comment)
    · exact absurd empty (List.cons_ne_nil _ _)
    · obtain ⟨rfl, _⟩ := List.cons_prefix_cons.mp comment
      exact Bool.false_ne_true ((mark_plain tables '/' (by decide)).1.symm.trans word)
  have length := numeral_written tables decl.extent
  simp only [parseLine, stripped]
  rw [if_neg read, matchFront, field_match]
  cases extent : decl.extent.numeral with
  | none =>
      rw [extent] at length
      cases written : decl.extent.written with
      | false => rfl
      | true =>
          rw [written] at length
          exact absurd length (by simp)
  | some arraySize =>
      rw [extent] at length
      cases written : decl.extent.written with
      | false =>
          rw [written] at length
          exact absurd length (by simp)
      | true =>
          rw [written] at length
          have same : arraySize.map (toInt tables) = decl.extent.length := Option.some.inj length
          simp only [List.head?_cons, Option.map_some, if_true, same]
          rfl

theorem parse_line_other (line : Line) (none_ : line.decl = none) : parseLine tables line.chars = none := by
  cases line with
  | field indent decl gap remark => exact absurd none_ nofun
  | comment indent remark =>
      have slash := (mark_plain tables '/' (by decide)).2
      have stripped := strip_line tables indent [] remark.chars '/' '/' slash slash
      have comment : ['/', '/'] <+: ('/' :: '/' :: remark.chars.rdropWhile tables.space) := ⟨_, rfl⟩
      simp only [parseLine, Line.chars]
      exact if_pos (.inr (by rw [List.nil_append] at stripped; rw [stripped]; exact comment))
  | blank indent =>
      have stripped : strip tables indent.chars = [] := by
        rw [strip, List.dropWhile_eq_nil_iff.mpr (spacing_space tables indent)]
        rfl
      simp only [parseLine, Line.chars]
      exact if_pos (.inl stripped)

theorem parse_line_chars (line : Line) :
    parseLine tables line.chars = (line.decl.filter (fun decl => decl.extent.written)).map FieldDecl.json := by
  cases shape : line.decl with
  | none => exact parse_line_other tables line shape
  | some decl =>
      cases line with
      | field indent field gap remark =>
          obtain rfl := Option.some.inj shape
          rw [parse_line_field]
          cases written : field.extent.written <;> simp [Option.filter, written]
      | comment indent remark => exact absurd shape nofun
      | blank indent => exact absurd shape nofun

def Inside (chars : Chars) : Prop := ∀ c ∈ chars, c ≠ '\n' ∧ c ≠ '}'

theorem inside_append (first second : Chars) (one : Inside first) (other : Inside second) : Inside (first ++ second) := by
  intro c member
  rcases List.mem_append.mp member with before | after
  · exact one c before
  · exact other c after

theorem ident_inside (ident : Ident) : Inside ident.chars := by
  intro c member
  rcases ident.plain c member with letter | line
  · constructor
    · rintro rfl
      exact absurd letter (by decide)
    · rintro rfl
      exact absurd letter (by decide)
  · rw [line]
    decide

theorem spacing_inside (spacing : Spacing) : Inside spacing.chars := by
  intro c member
  rcases spacing.blank c member with rfl | rfl
  · decide
  · decide

theorem digits_inside (number : Nat) : Inside (decimalChars number) := by
  intro c member
  have digit := decimal_chars_digits number c member
  constructor
  · rintro rfl
    exact absurd digit (by decide)
  · rintro rfl
    exact absurd digit (by decide)

theorem mark_inside (c : Char) (rest : Chars) (mark : c ≠ '\n' ∧ c ≠ '}') (inside : Inside rest) : Inside (c :: rest) :=
  List.forall_mem_cons.mpr ⟨mark, inside⟩

theorem extent_inside (extent : Extent) : Inside extent.chars := by
  have bracket : Inside [']'] := mark_inside ']' [] (by decide) nofun
  cases extent with
  | single => exact nofun
  | literal count => exact mark_inside '[' _ (by decide) (inside_append _ _ (digits_inside count) bracket)
  | constant bound => exact mark_inside '[' _ (by decide) (inside_append _ _ (ident_inside bound.name) bracket)

theorem line_inside (line : Line) : Inside line.chars := by
  cases line with
  | field indent decl gap remark =>
      have ending : Inside [';'] := mark_inside ';' [] (by decide) nofun
      have spaces : Inside (' ' :: gap.chars) := mark_inside ' ' _ (by decide) (spacing_inside gap)
      have field : Inside (decl.chars gap) := inside_append _ _ (ident_inside decl.type) (inside_append _ _ spaces
        (inside_append _ _ (ident_inside decl.name) (inside_append _ _ (extent_inside decl.extent) ending)))
      exact inside_append _ _ (spacing_inside indent) (inside_append _ _ field remark.inside)
  | comment indent remark =>
      exact inside_append _ _ (spacing_inside indent) (mark_inside '/' _ (by decide) (mark_inside '/' _ (by decide) remark.inside))
  | blank indent => exact spacing_inside indent

theorem body_lines (lines : List Line) :
    (lines.flatMap (fun line => line.chars ++ ['\n'])).splitOn '\n' = lines.map Line.chars ++ [[]] := by
  induction lines with
  | nil => rfl
  | cons line rest ih =>
      have fresh : '\n' ∉ line.chars := fun member => (line_inside line _ member).1 rfl
      rw [List.flatMap_cons, List.append_assoc, List.singleton_append, List.splitOn_append_cons_self_of_not_mem fresh, ih]
      rfl

theorem parse_fields_body (struct : StructDecl) :
    parseFields tables struct.body = (struct.fields.filter (fun decl => decl.extent.written)).map FieldDecl.json := by
  have lines (all : List Line) : (all.map Line.chars ++ [[]]).filterMap (parseLine tables) =
      ((all.filterMap Line.decl).filter (fun decl => decl.extent.written)).map FieldDecl.json := by
    induction all with
    | nil => rfl
    | cons line rest ih =>
        rw [List.map_cons, List.cons_append, List.filterMap_cons, ih, parse_line_chars, List.filterMap_cons]
        cases line.decl with
        | none => rfl
        | some decl => cases written : decl.extent.written <;> simp [Option.filter, written]
  have empty : parseLine tables [] = none := rfl
  have split : struct.body.splitOn '\n' = [] :: (struct.lines.map Line.chars ++ [[]]) := by
    have empty : '\n' ∉ ([] : Chars) := List.not_mem_nil
    rw [← body_lines]
    exact List.splitOn_append_cons_self_of_not_mem empty _
  rw [parseFields, split, List.filterMap_cons, empty]
  exact lines struct.lines

end Bodies

end MmorpgSimulator
