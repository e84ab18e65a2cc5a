import MmorpgSimulator.HeaderText

set_option autoImplicit false

namespace MmorpgSimulator

open Backtracking

section Matching

variable (tables : CharTables)

theorem spacing_ends_word (spacing : Spacing) (mark : Char) (rest : Chars) (other : tables.word mark = false) :
    Ends tables.word (spacing.chars ++ mark :: rest) := by
  cases shape : spacing.chars with
  | nil => exact ends_cons _ _ _ other
  | cons first others =>
      have space := spacing_space tables spacing first (by rw [shape]; exact List.mem_cons_self)
      exact ends_cons _ _ _ (space_not_word tables first space)

theorem body_inside (struct : StructDecl) : ∀ c ∈ struct.body, decide (c ≠ '}') = true := by
  intro c member
  refine decide_eq_true ?_
  rcases List.mem_cons.mp member with rfl | inside
  · decide
  · obtain ⟨line, _, here⟩ := List.mem_flatMap.mp inside
    rcases List.mem_append.mp here with among | newLine
    · exact (line_inside line c among).2
    · rw [List.mem_singleton.mp newLine]
      decide

theorem struct_match (struct : StructDecl) (rest : Chars) :
    structPattern tables (struct.chars ++ rest) = [((struct.name.chars, struct.body), rest)] := by
  have text : struct.chars ++ rest = ['s', 't', 'r', 'u', 'c', 't'] ++ ((' ' :: struct.gap.chars) ++ (struct.name.chars ++
      (struct.beforeBrace.chars ++ ['{'] ++ (struct.body ++ (['}'] ++ rest))))) := by
    simp [StructDecl.chars]
  have spaces : ∀ c ∈ ' ' :: struct.gap.chars, tables.space c = true :=
    List.forall_mem_cons.mpr ⟨blank_space tables ' ' (.inl rfl), spacing_space tables struct.gap⟩
  have brace := mark_plain tables '{' (by decide)
  rw [text]
  refine (literal_then _ _ _).trans ?_
  refine (several_then tables.space _ (' ' :: struct.gap.chars) _ (List.cons_ne_nil _ _) spaces (ident_ends_space tables struct.name _)
    (fun _ c rest space => several_starts _ _ c rest (space_not_word tables c space))).trans ?_
  have mark : Ends tables.word (struct.beforeBrace.chars ++ ['{'] ++ (struct.body ++ (['}'] ++ rest))) := by
    rw [List.append_assoc]
    exact spacing_ends_word tables struct.beforeBrace '{' _ brace.1
  refine (several_then tables.word _ struct.name.chars _ (ident_some struct.name) (ident_word tables struct.name) mark ?_).trans ?_
  · intro taken c rest word
    refine (many_then tables.space _ [] (c :: rest) nofun (ends_cons _ _ _ (tables.apart c word)) ?_).trans ?_
    · intro _ next rest space
      exact literal_outside tables.space '{' next rest _ brace.2 space
    · exact literal_outside tables.word '{' c rest _ brace.1 word
  · rw [List.append_assoc]
    refine (many_then tables.space _ struct.beforeBrace.chars _ (spacing_space tables struct.beforeBrace) (ends_cons _ _ _ brace.2)
      (fun _ c rest space => literal_outside tables.space '{' c rest _ brace.2 space)).trans ?_
    refine (literal_then ['{'] _ _).trans ?_
    refine (several_then (fun c => decide (c ≠ '}')) _ struct.body (['}'] ++ rest) (List.cons_ne_nil _ _) (body_inside struct)
      (ends_cons _ _ _ (by decide)) ?_).trans ?_
    · intro taken c rest other
      exact literal_elsewhere '}' c rest _ (of_decide_eq_true other)
    · exact literal_then ['}'] rest _

theorem struct_shape (text rest : Chars) (found : Chars × Chars) (taken : (found, rest) ∈ structPattern tables text) :
    ∃ front, text = ['s', 't', 'r', 'u', 'c', 't'] ++ (front ++ '{' :: (found.2 ++ '}' :: rest)) ∧
      ∀ c ∈ front, tables.space c = true ∨ tables.word c = true := by
  obtain ⟨_, afterWord, keyword, taken⟩ := and_then_mem _ _ _ _ _ taken
  obtain ⟨gap, afterGap, spaces, taken⟩ := and_then_mem _ _ _ _ _ taken
  obtain ⟨name, afterName, letters, taken⟩ := and_then_mem _ _ _ _ _ taken
  obtain ⟨before, afterBefore, blanks, taken⟩ := and_then_mem _ _ _ _ _ taken
  obtain ⟨_, afterBrace, brace, taken⟩ := and_then_mem _ _ _ _ _ taken
  obtain ⟨body, afterBody, inner, taken⟩ := and_then_mem _ _ _ _ _ taken
  obtain ⟨_, afterEnd, closing, taken⟩ := and_then_mem _ _ _ _ _ taken
  obtain ⟨rfl, rfl⟩ := Prod.mk.inj (List.mem_singleton.mp taken)
  obtain ⟨rfl, allGap⟩ := several_shape _ _ _ _ spaces
  obtain ⟨rfl, allName⟩ := several_shape _ _ _ _ letters
  obtain ⟨rfl, allBefore⟩ := many_shape _ _ _ _ blanks
  have opens := literal_shape _ _ _ brace
  obtain ⟨rfl, _⟩ := several_shape _ _ _ _ inner
  have ends := literal_shape _ _ _ closing
  have starts := literal_shape _ _ _ keyword
  refine ⟨gap ++ (name ++ before), ?_, ?_⟩
  · rw [starts, opens, ends]
    simp
  · intro c member
    simp only [List.mem_append] at member
    rcases member with inGap | inName | inBefore
    · exact .inl (allGap c inGap)
    · exact .inr (allName c inName)
    · exact .inl (allBefore c inBefore)

theorem struct_consumes : Consumes (structPattern tables) := by
  intro text found rest taken
  obtain ⟨front, shape, _⟩ := struct_shape tables text rest found taken
  rw [shape]
  simp only [List.length_append, List.length_cons, List.length_nil]
  omega

theorem struct_elsewhere (text : Chars) (other : ¬ ['s', 't', 'r', 'u', 'c', 't'] <+: text) : structPattern tables text = [] :=
  literal_fails _ _ _ other

end Matching

section Passing

variable (tables : CharTables)

-- At no place of the stretch does a struct begin, whatever follows it.
def Barren (gap : Chars) : Prop := ∀ rest part, part <:+ gap → part ≠ [] → structPattern tables (part ++ rest) = []

theorem semicolon_stops (front behind : Chars) (unopened : '{' ∉ front) : structPattern tables (front ++ ';' :: behind) = [] := by
  refine List.eq_nil_iff_forall_not_mem.mpr (fun taken member => ?_)
  obtain ⟨reached, shape, passed⟩ := struct_shape tables _ taken.2 taken.1 member
  have left : (front ++ ';' :: behind).find? (fun c => c = ';' ∨ c = '{') = some ';' := by
    rw [List.find?_append]
    cases first : front.find? (fun c => c = ';' ∨ c = '{') with
    | none => rfl
    | some c =>
        have listed := List.mem_of_find?_eq_some first
        have stops : c = ';' ∨ c = '{' := by simpa using List.find?_some first
        rcases stops with semicolon | brace
        · rw [semicolon]
          rfl
        · exact absurd (brace ▸ listed) unopened
  have right : (['s', 't', 'r', 'u', 'c', 't'] ++ (reached ++ '{' :: (taken.1.2 ++ '}' :: taken.2))).find? (fun c => c = ';' ∨ c = '{') =
      some '{' := by
    have keyword : ['s', 't', 'r', 'u', 'c', 't'].find? (fun c => c = ';' ∨ c = '{') = none := by decide
    have none : reached.find? (fun c => c = ';' ∨ c = '{') = none := by
      rw [List.find?_eq_none]
      intro c listed mark
      have plain := mark_plain tables c (by
        rcases of_decide_eq_true mark with rfl | rfl
        · decide
        · decide)
      rcases passed c listed with space | word
      · exact Bool.false_ne_true (plain.2.symm.trans space)
      · exact Bool.false_ne_true (plain.1.symm.trans word)
    rw [List.find?_append, keyword, List.find?_append, none]
    rfl
  rw [shape] at left
  exact absurd (left.symm.trans right) (by decide)

theorem statement_barren (front : Chars) (unopened : '{' ∉ front) : Barren tables (front ++ [';', '\n']) := by
  intro rest part suffix some_
  have whole : front ++ [';', '\n'] = front ++ [';'] ++ ['\n'] := by simp
  rw [whole] at suffix
  rcases List.suffix_concat_iff.mp suffix with none | ⟨shorter, rfl, inner⟩
  · exact absurd none some_
  · rcases List.suffix_concat_iff.mp inner with rfl | ⟨before, rfl, initial⟩
    · refine struct_elsewhere tables _ (fun begins => ?_)
      exact absurd (List.cons_prefix_cons.mp begins).1 (by decide)
    · have clear : '{' ∉ before := fun member => unopened (initial.subset member)
      have text : before ++ [';'] ++ ['\n'] ++ rest = before ++ ';' :: ('\n' :: rest) := by simp
      rw [text]
      exact semicolon_stops tables before _ clear

theorem constant_barren (decl : ConstantDecl) : Barren tables decl.chars := by
  have whole : decl.chars = (constexprInt ++ (decl.name.chars ++ ([' ', '=', ' '] ++ decimalChars decl.value))) ++ [';', '\n'] := by
    simp only [ConstantDecl.chars, List.append_assoc]
  have first : '{' ∉ constexprInt := by decide
  have middle : '{' ∉ [' ', '=', ' '] := by decide
  rw [whole]
  refine statement_barren tables _ (fun member => ?_)
  simp only [List.mem_append] at member
  rcases member with begins | name | equals | value
  · exact first begins
  · rcases decl.name.plain _ name with letter | line
    · exact absurd letter (by decide)
    · exact absurd line (by decide)
  · exact middle equals
  · exact absurd (decimal_chars_digits decl.value _ value) (by decide)

theorem other_barren (lines : OtherLines) : Barren tables lines.chars := by
  intro rest part suffix some_
  refine struct_elsewhere tables _ (fun begins => ?_)
  by_cases long : 6 ≤ part.length
  · have here : ['s', 't', 'r', 'u', 'c', 't'] <+: part := List.prefix_of_prefix_length_le begins (List.prefix_append _ _) long
    exact lines.plain (here.isInfix.trans suffix.isInfix)
  · -- A part that is too short for the keyword would have to end with one of its letters.
    have short : part <+: ['s', 't', 'r', 'u', 'c', 't'] :=
      List.prefix_of_prefix_length_le (List.prefix_append _ _) begins (by simp only [List.length_cons, List.length_nil]; omega)
    have newLine : '\n' ∈ part := by
      rcases lines.ended with none | ⟨front, whole⟩
      · rw [none, List.suffix_nil] at suffix
        exact absurd suffix some_
      · rw [whole] at suffix
        rcases List.suffix_concat_iff.mp suffix with none | ⟨shorter, rfl, _⟩
        · exact absurd none some_
        · exact List.mem_append_right _ (List.mem_singleton_self _)
    exact absurd (short.subset newLine) (by decide)

theorem structs_found (decls : List Decl) : findAll (structPattern tables) (decls.flatMap Decl.chars) =
    (decls.flatMap Decl.structs).map (fun struct => (struct.name.chars, struct.body)) := by
  have consumes := struct_consumes tables
  induction decls with
  | nil => exact find_all_nil _ consumes
  | cons decl rest ih =>
      rw [List.flatMap_cons, List.flatMap_cons]
      cases decl with
      | struct struct =>
          have here := struct_match tables struct ([';', '\n'] ++ rest.flatMap Decl.chars)
          have behind := find_all_skip (structPattern tables) [';', '\n'] (rest.flatMap Decl.chars)
            (statement_barren tables [] List.not_mem_nil _)
          rw [Decl.chars, List.append_assoc, find_all_match _ consumes _ _ _ here, behind, ih]
          rfl
      | constant decl =>
          have behind := find_all_skip (structPattern tables) decl.chars (rest.flatMap Decl.chars) (constant_barren tables decl _)
          exact behind.trans ih
      | other lines =>
          have behind := find_all_skip (structPattern tables) lines.chars (rest.flatMap Decl.chars) (other_barren tables lines _)
          exact behind.trans ih

end Passing

section Dictionary

theorem assign_fresh {Value : Type} (key : Chars) (value : Value) (dict : List (Chars × Value)) (fresh : key ∉ dict.map Prod.fst) :
    assign key value dict = dict ++ [(key, value)] := if_neg fresh

theorem lookup_distinct {Entry Value : Type} (key : Entry → Chars) (value : Entry → Value) (entries : List Entry)
    (distinct : (entries.map key).Nodup) (entry : Entry) (listed : entry ∈ entries) :
    (entries.map (fun entry => (key entry, value entry))).lookup (key entry) = some (value entry) := by
  induction entries with
  | nil => exact absurd listed List.not_mem_nil
  | cons first rest ih =>
      obtain ⟨fresh, others⟩ := List.nodup_cons.mp distinct
      rw [List.map_cons, List.lookup_cons]
      rcases List.mem_cons.mp listed with rfl | later
      · simp
      · have other : key entry ≠ key first := fun same => fresh (same ▸ List.mem_map_of_mem later)
        have unequal : (key entry == key first) = false := beq_eq_false_iff_ne.mpr other
        rw [unequal]
        exact ih others later

variable (tables : CharTables) (header : HeaderText)

-- The payload structs; PacketHeader is described apart from the packets.
def HeaderText.payloads : List StructDecl := header.structs.filter (fun struct => struct.name.chars ≠ packetHeader)

theorem parse_structs_header : parseStructs tables header.chars =
    header.payloads.map (fun struct => (struct.name.chars, parseFields tables struct.body)) := by
  have fold (structs : List StructDecl) (dict : List (Chars × List JsonField)) (distinct : (structs.map (fun struct => struct.name.chars)).Nodup)
      (fresh : ∀ struct ∈ structs, struct.name.chars ∉ dict.map Prod.fst) :
      (structs.map (fun struct => (struct.name.chars, struct.body))).foldl (fun structs found =>
        if found.1 = packetHeader then structs else assign found.1 (parseFields tables found.2) structs) dict =
      dict ++ (structs.filter (fun struct => struct.name.chars ≠ packetHeader)).map
        (fun struct => (struct.name.chars, parseFields tables struct.body)) := by
    induction structs generalizing dict with
    | nil => simp
    | cons struct rest ih =>
        obtain ⟨new, others⟩ := List.nodup_cons.mp distinct
        obtain ⟨here, later⟩ := List.forall_mem_cons.mp fresh
        rw [List.map_cons, List.foldl_cons]
        by_cases header : struct.name.chars = packetHeader
        · rw [if_pos header, ih dict others later]
          simp [header]
        · have apart : ∀ other ∈ rest, other.name.chars ∉ (dict ++ [(struct.name.chars, parseFields tables struct.body)]).map Prod.fst := by
            intro other listed
            rw [List.map_append, List.mem_append, not_or]
            refine ⟨later other listed, fun same => new ?_⟩
            exact List.mem_map.mpr ⟨other, listed, List.mem_singleton.mp same⟩
          rw [if_neg header, assign_fresh _ _ _ here, ih _ others apart]
          simp [header]
  have found := structs_found tables header.decls
  rw [parseStructs, HeaderText.chars, found, fold _ [] header.distinct (fun _ _ => List.not_mem_nil)]
  rfl

end Dictionary

section Sizes

def packedSize (sizes : List (Chars × Nat)) (fields : List FieldDecl) : Nat :=
  (fields.map (fun field => (sizes.lookup field.type.chars).getD 0 * field.extent.count)).sum

def builtinSizes : List (Chars × Nat) :=
  [("uint8_t".toList, 1), ("int8_t".toList, 1), ("uint16_t".toList, 2), ("int16_t".toList, 2), ("uint32_t".toList, 4),
    ("int32_t".toList, 4), ("uint64_t".toList, 8), ("int64_t".toList, 8), ("char".toList, 1)]

def HeaderText.sizes (header : HeaderText) : List (Chars × Nat) :=
  header.structs.foldl (fun sizes struct => sizes ++ [(struct.name.chars, packedSize sizes struct.fields)]) builtinSizes

def describedSize (reader : Chars → Nat) (fields : List JsonField) : Nat :=
  (fields.map (fun field => reader field.type * field.length.getD 1)).sum

variable (tables : CharTables) (header : HeaderText)

def HeaderText.Understood (reader : Chars → Nat) : Prop :=
  ∀ struct ∈ header.structs, ∀ field ∈ struct.fields,
    reader (jsonType field.type.chars) = (header.sizes.lookup field.type.chars).getD 0

def HeaderText.Complete : Prop :=
  ∀ struct ∈ header.payloads,
    (parseStructs tables header.chars).lookup struct.name.chars = some (struct.fields.map FieldDecl.json)

def HeaderText.Described : Prop :=
  ∀ reader, header.Understood reader → ∀ packetsEnum, ∀ packet ∈ generatePackets tables packetsEnum header.chars,
    ∀ struct ∈ header.payloads, matchPacketToStruct packet.name = struct.name.chars →
      describedSize reader packet.fields = packedSize header.sizes struct.fields

theorem payload_parsed (struct : StructDecl) (listed : struct ∈ header.payloads) :
    (parseStructs tables header.chars).lookup struct.name.chars =
      some ((struct.fields.filter (fun field => field.extent.written)).map FieldDecl.json) := by
  have distinct : (header.payloads.map (fun struct => struct.name.chars)).Nodup :=
    header.distinct.sublist (List.filter_sublist.map _)
  rw [parse_structs_header, lookup_distinct (fun struct => struct.name.chars) _ _ distinct struct listed, parse_fields_body]

theorem complete_iff :
    header.Complete tables ↔ ∀ struct ∈ header.payloads, ∀ field ∈ struct.fields, field.extent.written = true := by
  constructor
  · intro complete struct listed
    have same := (payload_parsed tables header struct listed).symm.trans (complete struct listed)
    have kept := congrArg List.length (Option.some.inj same)
    rw [List.length_map, List.length_map] at kept
    exact List.length_filter_eq_length_iff.mp kept
  · intro written struct listed
    rw [payload_parsed tables header struct listed, List.filter_eq_self.mpr (written struct listed)]

theorem described_of_complete (complete : header.Complete tables) : header.Described tables := by
  intro reader understood packetsEnum packet member struct listed named
  obtain ⟨entry, _, rfl⟩ := List.mem_map.mp member
  have fields : (parseStructs tables header.chars).lookup (matchPacketToStruct entry.1) = some (struct.fields.map FieldDecl.json) := by
    rw [show matchPacketToStruct entry.1 = struct.name.chars from named]
    exact complete struct listed
  have declared : struct ∈ header.structs := List.mem_of_mem_filter listed
  have each : struct.fields.map (fun field => reader (jsonType field.type.chars) * field.extent.length.getD 1) =
      struct.fields.map (fun field => (header.sizes.lookup field.type.chars).getD 0 * field.extent.count) := by
    refine List.map_congr_left (fun field present => ?_)
    have count : field.extent.length.getD 1 = field.extent.count := by
      cases field.extent with
      | single => rfl
      | literal count => rfl
      | constant bound => rfl
    rw [understood struct declared field present, count]
  simp only [fields, Option.getD_some]
  rw [describedSize, List.map_map, packedSize, ← each]
  rfl

end Sizes

theorem fields_kept_iff (tables : CharTables) (header : HeaderText) :
    header.Complete tables ∧ header.Described tables ↔
      ∀ struct ∈ header.payloads, ∀ field ∈ struct.fields, field.extent.written = true := by
  rw [← complete_iff tables]
  constructor
  · intro both
    exact both.1
  · intro complete
    exact ⟨complete, described_of_complete tables header complete⟩

def asciiTables : CharTables where
  word c := c.isAlphanum || c == '_'
  space c := (9 ≤ c.toNat && c.toNat ≤ 13) || (28 ≤ c.toNat && c.toNat ≤ 32)
  digit c := if c.isDigit then some (c.toNat - 48) else none
  wordAscii _ _ := rfl
  spaceAscii _ _ := rfl
  digitAscii _ _ := rfl
  apart := by
    intro c word
    have low := (plain_range c (by simpa using word)).1
    simp
    omega

def ident (first : Char) (rest : Chars) (letter : first.isDigit = false)
    (plain : (first :: rest).all (fun c => c.isAlphanum || c = '_') = true) : Ident where
  chars := first :: rest
  begins := ⟨first, rest, rfl, letter⟩
  plain := by
    intro c member
    simpa using List.all_eq_true.mp plain c member

def noSpacing : Spacing := ⟨[], nofun⟩

def oneBlank : Spacing := ⟨[' '], fun _ member => .inl (List.mem_singleton.mp member)⟩

def noRemark : Remark := ⟨[], nofun⟩

def byteField (name : Ident) : Line :=
  .field oneBlank ⟨ident 'u' "int8_t".toList (by decide) (by decide +kernel), name, .single⟩ noSpacing noRemark

def inventoryBound : ConstantDecl := ⟨ident 'M' "AX_INVENTORY".toList (by decide) (by decide +kernel), 20⟩

def updateName : Ident := ident 'S' "C_InventoryUpdate".toList (by decide) (by decide +kernel)

def updateStruct : StructDecl :=
  ⟨updateName, noSpacing, oneBlank, [byteField (ident 's' "lot".toList (by decide) (by decide +kernel))]⟩

def itemsField : FieldDecl := ⟨updateName, ident 'i' "tems".toList (by decide) (by decide +kernel), .constant inventoryBound⟩

def listStruct : StructDecl :=
  ⟨ident 'S' "C_InventoryList".toList (by decide) (by decide +kernel), noSpacing, oneBlank,
    [byteField (ident 'c' "ount".toList (by decide) (by decide +kernel)), .field oneBlank itemsField noSpacing noRemark]⟩

-- MAX_INVENTORY and SC_InventoryList as Protocol.h has them, SC_InventoryUpdate cut to its slot.
def inventoryHeader : HeaderText where
  decls := [.struct updateStruct, .constant inventoryBound, .struct listStruct]
  distinct := by decide +kernel
  filled := by
    intro struct listed
    rcases List.mem_cons.mp listed with rfl | later
    · exact List.cons_ne_nil _ _
    · rw [List.mem_singleton.mp later]
      exact List.cons_ne_nil _ _
  defined := by
    intro struct listed field present bound named
    rcases List.mem_cons.mp listed with rfl | later
    · rw [List.mem_singleton.mp present] at named
      exact absurd named nofun
    · rw [List.mem_singleton.mp later] at present
      rcases List.mem_cons.mp present with rfl | items
      · exact absurd named nofun
      · rw [List.mem_singleton.mp items] at named
        rw [← Extent.constant.inj named]
        exact List.mem_cons_of_mem _ List.mem_cons_self

theorem inventory_list_loses_items : ¬ inventoryHeader.Complete asciiTables := by
  intro complete
  have structs : inventoryHeader.structs = [updateStruct, listStruct] := rfl
  have listed : listStruct ∈ inventoryHeader.payloads := by
    refine List.mem_filter.mpr ⟨by rw [structs]; exact List.mem_cons_of_mem _ List.mem_cons_self, by decide +kernel⟩
  have written := (complete_iff asciiTables inventoryHeader).mp complete listStruct listed itemsField
    (List.mem_cons_of_mem _ List.mem_cons_self)
  exact absurd written (by decide)

end MmorpgSimulator
