import MmorpgSimulator.ObjectText

set_option autoImplicit false

namespace MmorpgSimulator

open Scanning

section Forms

structure Form (Key : Type) where
  label : Key → String
  named : ∀ key, label key ∈ keyNames
  apart : Function.Injective label

structure Slot (Key : Type) where
  key : Key
  gap : Blanks
  spaces : Nat

-- An entry as it is written: its fields in any order, each at most once, and only
-- those left out whose value is the one that counts for a missing field.
structure Written {Key : Type} (form : Form Key) (value : Key → Value) where
  before : Blanks
  slots : List (Slot Key)
  closing : Blanks
  once : (slots.map Slot.key).Nodup
  skipped : ∀ key, key ∉ slots.map Slot.key → (value key).Void
  strings : ∀ key bytes, value key = .string bytes → Unquoted bytes

variable {Key : Type} {form : Form Key} {value : Key → Value} (written : Written form value)

namespace Written

def fields : List Field := written.slots.map (fun slot => ⟨slot.gap, form.label slot.key, slot.spaces, value slot.key⟩)

def pieces : List Piece := .plain written.before.bytes :: objectPieces written.fields written.closing

def body : Bytes := render (objectBody written.fields written.closing)

def object : Bytes := openBrace :: (written.body ++ [closeBrace])

theorem proper : Proper written.fields := by
  refine ⟨?_, fun field member => ?_, fun field member bytes string => ?_⟩
  · have labels : written.fields.map Field.key = (written.slots.map Slot.key).map form.label := by
      simp only [fields, List.map_map]
      rfl
    rw [labels]
    exact written.once.map form.apart
  · obtain ⟨slot, _, rfl⟩ := List.mem_map.mp member
    exact form.named slot.key
  · obtain ⟨slot, _, rfl⟩ := List.mem_map.mp member
    exact written.strings slot.key bytes string

theorem object_render : render (objectPieces written.fields written.closing) = written.object := by
  rw [objectPieces, render_cons, render_append]
  rfl

theorem field_missing (key : Key) (missing : key ∉ written.slots.map Slot.key) : form.label key ∉ written.fields.map Field.key := by
  intro member
  obtain ⟨field, listed, same⟩ := List.mem_map.mp member
  obtain ⟨slot, present, rfl⟩ := List.mem_map.mp listed
  exact missing (List.mem_map.mpr ⟨slot, present, form.apart same⟩)

theorem field_present (key : Key) (present : key ∈ written.slots.map Slot.key) :
    ∃ field ∈ written.fields, field.key = form.label key ∧ field.value = value key := by
  obtain ⟨slot, listed, rfl⟩ := List.mem_map.mp present
  exact ⟨_, List.mem_map_of_mem listed, rfl, rfl⟩

theorem number_parsed (key : Key) (number : Nat) (shape : value key = .number number) (fits : number < 2 ^ 31) :
    parseInt written.object (form.label key) = some (number : Int) := by
  rw [← object_render]
  by_cases present : key ∈ written.slots.map Slot.key
  · obtain ⟨field, listed, same, has⟩ := written.field_present key present
    rw [← same]
    exact number_read written.fields written.proper written.closing field listed number (has.trans shape) fits
  · have void := written.skipped key present
    rw [shape] at void
    have absent := absent_text written.fields written.proper written.closing (form.label key) (form.named key)
      (written.field_missing key present)
    obtain rfl : number = 0 := void
    simp only [parseInt, absent]
    rfl

theorem string_parsed (key : Key) (bytes : Bytes) (shape : value key = .string bytes) :
    parseStr written.object (form.label key) = bytes := by
  rw [← object_render]
  by_cases present : key ∈ written.slots.map Slot.key
  · obtain ⟨field, listed, same, has⟩ := written.field_present key present
    rw [← same]
    exact string_read written.fields written.proper written.closing field listed bytes (has.trans shape)
  · have void := written.skipped key present
    rw [shape] at void
    have absent := absent_text written.fields written.proper written.closing (form.label key) (form.named key)
      (written.field_missing key present)
    obtain rfl : bytes = [] := void
    simp only [parseStr, absent]

theorem clean : Clean written.pieces ∧ Opens (render written.pieces) := by
  obtain ⟨quote, _, opens⟩ := blanks_plain written.before
  refine ⟨⟨quote, object_clean written.fields written.proper written.closing⟩, opens_append _ _ opens ?_⟩
  intro byte head
  obtain rfl : openBrace = byte := Option.some.inj head
  decide

theorem render_pieces : render written.pieces = written.before.bytes ++ openBrace :: (written.body ++ [closeBrace]) := by
  rw [pieces, render_cons, object_render]
  rfl

theorem quotes (word : Bytes) (unlike : ∀ key, word ≠ text (form.label key)) (named : ∃ key ∈ keyNames, word = text key) :
    .quote word ∉ written.pieces := by
  have elsewhere := key_elsewhere written.fields word (by
    intro field listed
    obtain ⟨slot, _, rfl⟩ := List.mem_map.mp listed
    obtain ⟨key, known, rfl⟩ := named
    exact ⟨unlike slot.key, fun same => (written.strings slot.key _ same).unlike key known rfl⟩)
  intro member
  rw [pieces, object_pieces_eq] at member
  simp only [List.cons_append, List.nil_append, List.mem_cons, List.mem_append, reduceCtorEq, false_or, List.not_mem_nil, or_false] at member
  rcases mem_commas _ _ member with comma | ⟨part, present, here⟩
  · exact absurd comma nofun
  · exact elsewhere part present here

end Written

end Forms

section Entries

inductive ItemKey where
  | id | name | type | atk | defense | hp | price
deriving DecidableEq

inductive DropKey where
  | itemId | weight
deriving DecidableEq

def itemLabel : ItemKey → String
  | .id => "id"
  | .name => "name"
  | .type => "type"
  | .atk => "atk"
  | .defense => "def"
  | .hp => "hp"
  | .price => "price"

def dropLabel : DropKey → String
  | .itemId => "itemId"
  | .weight => "weight"

def itemForm : Form ItemKey where
  label := itemLabel
  named := by
    intro key
    cases key <;> decide
  apart := by
    intro key other same
    cases key <;> cases other <;> first | rfl | exact absurd same (by decide)

def dropForm : Form DropKey where
  label := dropLabel
  named := by
    intro key
    cases key <;> decide
  apart := by
    intro key other same
    cases key <;> cases other <;> first | rfl | exact absurd same (by decide)

def itemValue (item : ItemData) : ItemKey → Value
  | .id => .number item.id.toNat
  | .name => .string item.name
  | .type => .string item.type
  | .atk => .number item.atk.toNat
  | .defense => .number item.defense.toNat
  | .hp => .number item.hp.toNat
  | .price => .number item.price.toNat

def dropValue (entry : DropEntry) : DropKey → Value
  | .itemId => .number entry.itemId.toNat
  | .weight => .number entry.weight.toNat

structure WrittenItem where
  item : ItemData
  written : Written itemForm (itemValue item)
  price : item.price.toNat < 2 ^ 31

structure WrittenDrop where
  entry : DropEntry
  written : Written dropForm (dropValue entry)
  weight : 0 ≤ entry.weight ∧ entry.weight < 2 ^ 31

theorem short_back (value : UInt16) : UInt16.ofInt (value.toNat : Int) = value := by
  have small := value.toNat_lt
  have same : ((value.toNat : Int) % 2 ^ 16).toNat = value.toNat := by omega
  rw [UInt16.ofInt, same, UInt16.ofNat_toNat]

theorem long_back (value : UInt32) : UInt32.ofInt (value.toNat : Int) = value := by
  have small := value.toNat_lt
  have same : ((value.toNat : Int) % 2 ^ 32).toNat = value.toNat := by omega
  rw [UInt32.ofInt, same, UInt32.ofNat_toNat]

theorem read_written_item (items : List ItemData) (entry : WrittenItem) :
    readItem items entry.written.object = some (items ++ [entry.item]) := by
  have word (value : UInt16) : value.toNat < 2 ^ 31 := lt_trans value.toNat_lt (by decide)
  have id : parseInt entry.written.object "id" = some (entry.item.id.toNat : Int) := entry.written.number_parsed .id _ rfl (word _)
  have name : parseStr entry.written.object "name" = entry.item.name := entry.written.string_parsed .name _ rfl
  have type : parseStr entry.written.object "type" = entry.item.type := entry.written.string_parsed .type _ rfl
  have atk : parseInt entry.written.object "atk" = some (entry.item.atk.toNat : Int) := entry.written.number_parsed .atk _ rfl (word _)
  have defense : parseInt entry.written.object "def" = some (entry.item.defense.toNat : Int) :=
    entry.written.number_parsed .defense _ rfl (word _)
  have hp : parseInt entry.written.object "hp" = some (entry.item.hp.toNat : Int) := entry.written.number_parsed .hp _ rfl (word _)
  have price : parseInt entry.written.object "price" = some (entry.item.price.toNat : Int) :=
    entry.written.number_parsed .price _ rfl entry.price
  rw [readItem, id, name, type, atk, defense, hp, price]
  simp only [Option.bind_eq_bind, Option.bind_some, short_back, long_back]
  rfl

theorem read_written_drop (table : List DropEntry × Int) (entry : WrittenDrop) (fits : fitsInt (table.2 + entry.entry.weight)) :
    readDrop table entry.written.object = some (table.1 ++ [entry.entry], table.2 + entry.entry.weight) := by
  obtain ⟨positive, small⟩ := entry.weight
  have word : entry.entry.itemId.toNat < 2 ^ 31 := lt_trans entry.entry.itemId.toNat_lt (by decide)
  have itemId : parseInt entry.written.object "itemId" = some (entry.entry.itemId.toNat : Int) :=
    entry.written.number_parsed .itemId _ rfl word
  have weight : parseInt entry.written.object "weight" = some (entry.entry.weight.toNat : Int) :=
    entry.written.number_parsed .weight _ rfl (by omega)
  rw [Int.toNat_of_nonneg positive] at weight
  rw [readDrop, itemId, weight]
  simp only [Option.bind_eq_bind, Option.bind_some, if_pos fits, short_back]

theorem items_fold (entries : List WrittenItem) (items : List ItemData) :
    (entries.map (fun entry => entry.written.object)).foldlM readItem items = some (items ++ entries.map WrittenItem.item) := by
  induction entries generalizing items with
  | nil => simp
  | cons entry rest ih =>
      rw [List.map_cons, List.foldlM_cons, read_written_item]
      refine (ih (items ++ [entry.item])).trans ?_
      simp

def totalOf (entries : List WrittenDrop) : Int := (entries.map (fun entry => entry.entry.weight)).sum

theorem total_cons (entry : WrittenDrop) (rest : List WrittenDrop) : totalOf (entry :: rest) = entry.entry.weight + totalOf rest :=
  List.sum_cons

theorem total_nonneg (entries : List WrittenDrop) : 0 ≤ totalOf entries := by
  induction entries with
  | nil => exact Int.le_refl 0
  | cons entry rest ih =>
      rw [total_cons]
      exact Int.add_nonneg entry.weight.1 ih

theorem drops_fold (entries : List WrittenDrop) (table : List DropEntry × Int) (positive : 0 ≤ table.2)
    (fits : table.2 + totalOf entries < 2 ^ 31) :
    (entries.map (fun entry => entry.written.object)).foldlM readDrop table =
      some (table.1 ++ entries.map WrittenDrop.entry, table.2 + totalOf entries) := by
  induction entries generalizing table with
  | nil => simp [totalOf]
  | cons entry rest ih =>
      have rest_ := total_nonneg rest
      have weight := entry.weight
      rw [total_cons] at fits
      have now : fitsInt (table.2 + entry.entry.weight) := by
        constructor <;> omega
      have later := ih (table.1 ++ [entry.entry], table.2 + entry.entry.weight) (by simp only; omega) (by simp only; omega)
      rw [List.map_cons, List.foldlM_cons, read_written_drop table entry now, total_cons]
      refine later.trans ?_
      simp [add_assoc]

end Entries

section Arrays

theorem array_behind (key : String) (named : key ∈ keyNames) (front inner rest : Bytes) (spaces : Nat) (plain : closeBracket ∉ inner)
    (found : findText (quoted key) (front ++ quoted key ++ colon :: List.replicate spaces 32 ++
      openBracket :: (inner ++ closeBracket :: rest)) = some front.length) :
    ((findText (quoted key) (front ++ quoted key ++ colon :: List.replicate spaces 32 ++ openBracket :: (inner ++ closeBracket :: rest))).bind
        (find openBracket (front ++ quoted key ++ colon :: List.replicate spaces 32 ++ openBracket :: (inner ++ closeBracket :: rest)))).map
      (arrayAt (front ++ quoted key ++ colon :: List.replicate spaces 32 ++ openBracket :: (inner ++ closeBracket :: rest))) =
      some (openBracket :: (inner ++ [closeBracket])) := by
  have passed : openBracket ∉ (front ++ quoted key ++ colon :: List.replicate spaces 32).drop front.length := by
    have level : Level (doubleQuote :: (text key ++ [doubleQuote]) ++ colon :: List.replicate spaces 32) :=
      level_append _ _ (quote_level _ (key_level key named)) (spaces_level spaces)
    rw [List.append_assoc, List.drop_left, quoted_cons]
    exact fun member => level openBracket member List.mem_cons_self
  have begins := find_behind openBracket front.length (front ++ quoted key ++ colon :: List.replicate spaces 32)
    (inner ++ closeBracket :: rest) (by simp) passed
  rw [found, Option.bind_some, begins, Option.map_some, arrayAt,
    find_closing openBracket closeBracket (by decide) _ inner rest plain, extent_window]

variable {Table : Type} (read : Table → Bytes → Option Table) (table : Table)

theorem entries_loop (parts : List (Bytes × Bytes)) (level : ∀ part ∈ parts, Level part.1 ∧ Level part.2) (gap : Blanks) (fuel : Nat)
    (enough : parts.length < fuel) :
    loadArray read table fuel (some (openBracket ::
        (([44] : Bytes).intercalate (parts.map (fun part => part.1 ++ openBrace :: (part.2 ++ [closeBrace]))) ++ gap.bytes ++ [closeBracket]))) =
      some (((parts.map (fun part => openBrace :: (part.2 ++ [closeBrace]))).foldlM read table).elim .undefined .returned) := by
  have clean : ∀ part ∈ parts, openBrace ∉ part.1 ∧ closeBrace ∉ part.2 := by
    intro part member
    obtain ⟨first, second⟩ := level part member
    exact ⟨fun brace => first openBrace brace (by decide), fun brace => second closeBrace brace (by decide)⟩
  have last : openBrace ∉ gap.bytes ++ [closeBracket] := by
    intro member
    rcases List.mem_append.mp member with blank | bracket
    · exact (blanks_plain gap).2.1 openBrace blank (by decide)
    · exact absurd (List.mem_singleton.mp bracket) (by decide)
  have loop := joined_loop openBrace closeBrace read ([44] : Bytes) (gap.bytes ++ [closeBracket]) (by decide) (by decide) last parts clean
    [openBracket] 0 fuel table (Nat.zero_le _) (by decide) enough
  rwa [List.singleton_append, ← List.append_assoc] at loop

end Arrays

section Files

-- The file of data/items.json: an object with the two arrays, blanks wherever they may stand.
structure ItemFile where
  start : Blanks
  beforeItems : Blanks
  itemSpaces : Nat
  items : List WrittenItem
  afterItems : Blanks
  beforeComma : Blanks
  beforeDrops : Blanks
  dropSpaces : Nat
  drops : List WrittenDrop
  afterDrops : Blanks
  beforeEnd : Blanks
  stop : Blanks
  total : totalOf drops < 2 ^ 31

namespace ItemFile

variable (file : ItemFile)

def head : List Piece := [.plain (file.start.bytes ++ openBrace :: file.beforeItems.bytes)]

def itemPieces : List Piece := commas (file.items.map (fun entry => entry.written.pieces))

def dropPieces : List Piece := commas (file.drops.map (fun entry => entry.written.pieces))

def middle : List Piece :=
  [.plain file.afterItems.bytes, .plain [closeBracket], .plain (file.beforeComma.bytes ++ 44 :: file.beforeDrops.bytes)]

def tail : List Piece :=
  [.plain file.afterDrops.bytes, .plain [closeBracket], .plain (file.beforeEnd.bytes ++ closeBrace :: file.stop.bytes)]

def opened (key : String) (spaces : Nat) : List Piece :=
  [.quote (text key), .plain (colon :: List.replicate spaces 32), .plain [openBracket]]

def pieces : List Piece :=
  file.head ++ (opened "items" file.itemSpaces ++ (file.itemPieces ++ (file.middle ++
    (opened "dropTable" file.dropSpaces ++ (file.dropPieces ++ file.tail)))))

def json : Bytes := render file.pieces

theorem opened_clean (key : String) (named : key ∈ keyNames) (spaces : Nat) (rest : List Piece) (clean : Clean rest) :
    Clean (opened key spaces ++ rest) := by
  have bracket : doubleQuote ∉ [openBracket] := by decide
  refine ⟨(key_word key named).unquoted, ?_, spaces_unquoted spaces, bracket, clean⟩
  intro byte head
  obtain rfl : colon = byte := Option.some.inj head
  decide

theorem closed_clean (gap : Blanks) (rest : List Piece) (clean : Clean rest) :
    Clean (.plain gap.bytes :: .plain [closeBracket] :: rest) ∧ Opens (render (.plain gap.bytes :: .plain [closeBracket] :: rest)) := by
  obtain ⟨quote, _, opens⟩ := blanks_plain gap
  have bracket : doubleQuote ∉ [closeBracket] := by decide
  refine ⟨⟨quote, bracket, clean⟩, opens_append _ _ opens ?_⟩
  intro byte head
  obtain rfl : closeBracket = byte := Option.some.inj head
  decide

theorem around_clean (first second : Blanks) (mark : UInt8) (other : mark ≠ doubleQuote) :
    doubleQuote ∉ first.bytes ++ mark :: second.bytes := by
  intro member
  rcases List.mem_append.mp member with before | behind
  · exact (blanks_plain first).1 before
  · rcases List.mem_cons.mp behind with same | after
    · exact other same.symm
    · exact (blanks_plain second).1 after

theorem pieces_clean : Clean file.pieces := by
  have items : ∀ part ∈ file.items.map (fun entry => entry.written.pieces), Clean part ∧ Opens (render part) := by
    intro part member
    obtain ⟨entry, _, rfl⟩ := List.mem_map.mp member
    exact entry.written.clean
  have drops : ∀ part ∈ file.drops.map (fun entry => entry.written.pieces), Clean part ∧ Opens (render part) := by
    intro part member
    obtain ⟨entry, _, rfl⟩ := List.mem_map.mp member
    exact entry.written.clean
  have last : Clean [.plain (file.beforeEnd.bytes ++ closeBrace :: file.stop.bytes)] := ⟨around_clean _ _ _ (by decide), trivial⟩
  obtain ⟨tail, tailOpens⟩ := closed_clean file.afterDrops _ last
  have dropTable := opened_clean "dropTable" (by decide) file.dropSpaces _ (clean_append file.dropPieces _ (commas_clean _ drops).1 tail tailOpens)
  have comma : doubleQuote ∉ file.beforeComma.bytes ++ 44 :: file.beforeDrops.bytes := around_clean _ _ _ (by decide)
  obtain ⟨middle, middleOpens⟩ := closed_clean file.afterItems
    (.plain (file.beforeComma.bytes ++ 44 :: file.beforeDrops.bytes) :: (opened "dropTable" file.dropSpaces ++ (file.dropPieces ++ file.tail)))
    ⟨comma, dropTable⟩
  have array := opened_clean "items" (by decide) file.itemSpaces _ (clean_append file.itemPieces _ (commas_clean _ items).1 middle middleOpens)
  exact ⟨around_clean _ _ _ (by decide), array⟩

theorem json_at (key : String) (spaces : Nat) (before parts after : List Piece) (gap : Blanks)
    (split : file.pieces = before ++ (opened key spaces ++ (parts ++ (.plain gap.bytes :: .plain [closeBracket] :: after)))) :
    file.json = render before ++ quoted key ++ colon :: List.replicate spaces 32 ++
      openBracket :: ((render parts ++ gap.bytes) ++ closeBracket :: render after) := by
  rw [json, split]
  simp only [render_append, render_cons, opened, quoted_cons, Piece.render]
  simp [render]

theorem entries_level (parts : List (List Piece)) (each : ∀ part ∈ parts, closeBracket ∉ render part) (gap : Blanks) :
    closeBracket ∉ render (commas parts) ++ gap.bytes := by
  intro member
  rcases List.mem_append.mp member with inside | blank
  · obtain ⟨piece, listed, here⟩ := List.mem_flatMap.mp inside
    rcases mem_commas parts piece listed with rfl | ⟨part, present, among⟩
    · exact absurd (List.mem_singleton.mp here) (by decide)
    · exact each part present (List.mem_flatMap.mpr ⟨piece, among, here⟩)
  · exact (blanks_plain gap).2.1 closeBracket blank (by decide)

theorem array_found (key : String) (named : key ∈ keyNames) (spaces : Nat) (before after : List Piece) (parts : List (List Piece))
    (gap : Blanks)
    (split : file.pieces = before ++ (opened key spaces ++ (commas parts ++ (.plain gap.bytes :: .plain [closeBracket] :: after))))
    (fresh : .quote (text key) ∉ before) (each : ∀ part ∈ parts, closeBracket ∉ render part) :
    findText (quoted key) file.json = some (render before).length ∧
      ((findText (quoted key) file.json).bind (find openBracket file.json)).map (arrayAt file.json) =
        some (openBracket :: (([44] : Bytes).intercalate (parts.map render) ++ gap.bytes ++ [closeBracket])) := by
  have clean := file.pieces_clean
  rw [split] at clean
  have found : findText (quoted key) file.json = some (render before).length := by
    rw [json, split]
    exact find_text_piece key (key_word key named) before _ clean fresh
  refine ⟨found, ?_⟩
  have whole := file.json_at key spaces before (commas parts) after gap split
  rw [whole] at found ⊢
  rw [← render_commas]
  exact array_behind key named _ _ _ spaces (entries_level parts each gap) found

theorem written_bracket {Key : Type} {form : Form Key} {value : Key → Value} (written : Written form value) :
    closeBracket ∉ render written.pieces := by
  have body := body_level written.fields written.proper written.closing
  rw [written.render_pieces]
  intro member
  simp only [List.mem_append, List.mem_cons, List.not_mem_nil, or_false] at member
  rcases member with blank | brace | inside | brace
  · exact (blanks_plain written.before).2.1 closeBracket blank (by decide)
  · exact absurd brace (by decide)
  · exact body closeBracket inside (by decide)
  · exact absurd brace (by decide)

theorem items_array : itemsArray file.json = some (openBracket :: (([44] : Bytes).intercalate
    ((file.items.map (fun entry => entry.written.pieces)).map render) ++ file.afterItems.bytes ++ [closeBracket])) := by
  refine (file.array_found "items" (by decide) file.itemSpaces file.head
    (.plain (file.beforeComma.bytes ++ 44 :: file.beforeDrops.bytes) :: (opened "dropTable" file.dropSpaces ++ (file.dropPieces ++ file.tail)))
    _ file.afterItems rfl ?_ ?_).2
  · intro member
    exact absurd (List.mem_singleton.mp member) nofun
  · intro part member
    obtain ⟨entry, _, rfl⟩ := List.mem_map.mp member
    exact written_bracket entry.written

theorem drop_array : (findText (quoted "dropTable") file.json).isSome ∧ dropArray file.json = some (openBracket ::
    (([44] : Bytes).intercalate ((file.drops.map (fun entry => entry.written.pieces)).map render) ++ file.afterDrops.bytes ++
      [closeBracket])) := by
  have fresh : .quote (text "dropTable") ∉ file.head ++ (opened "items" file.itemSpaces ++ (file.itemPieces ++ file.middle)) := by
    have other : text "dropTable" ≠ text "items" := by decide +kernel
    have labels : ∀ key, text "dropTable" ≠ text (itemForm.label key) := by
      intro key
      cases key <;> decide +kernel
    simp only [List.mem_append, not_or]
    refine ⟨fun member => ?_, fun member => ?_, fun member => ?_, fun member => ?_⟩
    · exact absurd (List.mem_singleton.mp member) nofun
    · simp only [opened, List.mem_cons, List.not_mem_nil, or_false, reduceCtorEq, Piece.quote.injEq] at member
      exact other member
    · rcases mem_commas _ _ member with comma | ⟨part, present, here⟩
      · exact absurd comma nofun
      · obtain ⟨entry, _, rfl⟩ := List.mem_map.mp present
        exact entry.written.quotes (text "dropTable") labels ⟨"dropTable", by decide, rfl⟩ here
    · simp only [middle, List.mem_cons, List.not_mem_nil, reduceCtorEq, or_self] at member
  have split : file.pieces = file.head ++ (opened "items" file.itemSpaces ++ (file.itemPieces ++ file.middle)) ++
      (opened "dropTable" file.dropSpaces ++ (file.dropPieces ++ (.plain file.afterDrops.bytes :: .plain [closeBracket] ::
        [.plain (file.beforeEnd.bytes ++ closeBrace :: file.stop.bytes)]))) := by
    simp [pieces, tail]
  obtain ⟨found, array⟩ := file.array_found "dropTable" (by decide) file.dropSpaces _ _ _ file.afterDrops split fresh (by
    intro part member
    obtain ⟨entry, _, rfl⟩ := List.mem_map.mp member
    exact written_bracket entry.written)
  exact ⟨by rw [found]; rfl, array⟩

end ItemFile

theorem written_loop {Table Key : Type} {form : Form Key} {Entry : Type} (read : Table → Bytes → Option Table) (table : Table)
    {value : Entry → Key → Value} (entries : List Entry) (written : (entry : Entry) → Written form (value entry)) (gap : Blanks) (fuel : Nat)
    (enough : entries.length < fuel) :
    loadArray read table fuel (some (openBracket :: (([44] : Bytes).intercalate
        ((entries.map (fun entry => (written entry).pieces)).map render) ++ gap.bytes ++ [closeBracket]))) =
      some (((entries.map (fun entry => (written entry).object)).foldlM read table).elim .undefined .returned) := by
  have level : ∀ part ∈ entries.map (fun entry => ((written entry).before.bytes, (written entry).body)), Level part.1 ∧ Level part.2 := by
    intro part member
    obtain ⟨entry, _, rfl⟩ := List.mem_map.mp member
    exact ⟨(blanks_plain _).2.1, body_level _ (written entry).proper _⟩
  have loop := entries_loop read table _ level gap fuel (by rwa [List.length_map])
  rw [List.map_map, List.map_map] at loop
  rw [List.map_map]
  have texts : (entries.map (render ∘ fun entry => (written entry).pieces)) = entries.map
      ((fun part => part.1 ++ openBrace :: (part.2 ++ [closeBrace])) ∘ fun entry => ((written entry).before.bytes, (written entry).body)) :=
    List.map_congr_left (fun entry _ => (written entry).render_pieces)
  rw [texts]
  exact loop

-- Loading undoes writing: every file of the format gives back its entries in order.
theorem written_items_load (file : ItemFile) : ∃ turns, ∀ fuel, turns ≤ fuel →
    loadItems fuel file.json =
      some (.returned ⟨file.items.map WrittenItem.item, file.drops.map WrittenDrop.entry, totalOf file.drops⟩) := by
  refine ⟨file.items.length + file.drops.length + 1, fun fuel enough => ?_⟩
  obtain ⟨key, drops⟩ := file.drop_array
  obtain ⟨place, named⟩ := Option.isSome_iff_exists.mp key
  have itemLoop := written_loop readItem [] file.items WrittenItem.written file.afterItems fuel (by omega)
  have dropLoop := written_loop readDrop ([], 0) file.drops WrittenDrop.written file.afterDrops fuel (by omega)
  rw [items_fold] at itemLoop
  rw [drops_fold file.drops ([], 0) (Int.le_refl 0) (by rw [zero_add]; exact file.total)] at dropLoop
  rw [loadItems, file.items_array, itemLoop, named, drops]
  simp only [andThen, dropLoop, Option.elim_some, List.nil_append, zero_add]

def tight : Blanks := ⟨[], nofun⟩

def oneSpace : Blanks := ⟨[32], by decide +kernel⟩

def newLine : Blanks := ⟨[10, 32, 32], by decide +kernel⟩

theorem sword_unquoted : ∀ bytes ∈ [text "Rusty Sword", text "weapon"], Unquoted bytes := by
  intro bytes member
  have level : ∀ bytes ∈ [text "Rusty Sword", text "weapon"], ∀ byte ∈ bytes,
      byte ∉ [doubleQuote, 92, openBracket, closeBracket, openBrace, closeBrace] := by
    simp only [List.forall_mem_cons]
    exact ⟨List.all_iff_forall_prop.mp (by decide +kernel), List.all_iff_forall_prop.mp (by decide +kernel), nofun⟩
  have unlike : ∀ bytes ∈ [text "Rusty Sword", text "weapon"], ∀ key ∈ keyNames, bytes ≠ text key := by decide +kernel
  exact ⟨level bytes member, unlike bytes member⟩

def swordItem : WrittenItem where
  item := { id := 1, name := text "Rusty Sword", type := text "weapon", atk := 5, price := 50 }
  written :=
    { before := newLine
      slots := [⟨.id, tight, 1⟩, ⟨.name, oneSpace, 1⟩, ⟨.type, oneSpace, 1⟩, ⟨.price, oneSpace, 1⟩, ⟨.atk, oneSpace, 0⟩]
      closing := tight
      once := by decide
      skipped := by
        intro key missing
        cases key <;> first | rfl | exact absurd missing (by decide)
      strings := by
        intro key bytes string
        cases key with
        | name => exact sword_unquoted bytes (by rw [← Value.string.inj string]; exact List.mem_cons_self)
        | type => exact sword_unquoted bytes (by rw [← Value.string.inj string]; exact List.mem_cons_of_mem _ List.mem_cons_self)
        | _ => exact absurd string nofun }
  price := by decide

def swordDrop : WrittenDrop where
  entry := ⟨1, 20⟩
  written :=
    { before := newLine, slots := [⟨.itemId, tight, 1⟩, ⟨.weight, oneSpace, 1⟩], closing := tight
      once := by decide
      skipped := by
        intro key missing
        cases key <;> exact absurd missing (by decide)
      strings := by
        intro key bytes string
        cases key <;> exact absurd string nofun }
  weight := by decide

def swordFile : ItemFile where
  start := tight
  beforeItems := newLine
  itemSpaces := 1
  items := [swordItem]
  afterItems := newLine
  beforeComma := tight
  beforeDrops := newLine
  dropSpaces := 1
  drops := [swordDrop]
  afterDrops := newLine
  beforeEnd := tight
  stop := tight
  total := by decide

example : swordFile.json = text ("\x7b\n  \"items\": [\n  \x7b\"id\": 1, \"name\": \"Rusty Sword\", \"type\": \"weapon\", " ++
    "\"price\": 50, \"atk\":5\x7d\n  ],\n  \"dropTable\": [\n  \x7b\"itemId\": 1, \"weight\": 20\x7d\n  ]\x7d") := by decide +kernel

end Files

end MmorpgSimulator
