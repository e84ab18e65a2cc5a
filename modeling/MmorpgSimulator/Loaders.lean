import MmorpgSimulator.GameData
import MmorpgSimulator.Library.Scanning

set_option autoImplicit false

namespace MmorpgSimulator

open Scanning

section Fields

def findText (pattern : Bytes) : Bytes → Option Nat
  | [] => if pattern = [] then some 0 else none
  | byte :: rest => if pattern.isPrefixOf (byte :: rest) then some 0 else (findText pattern rest).map (· + 1)

def doubleQuote : UInt8 := 34
def colon : UInt8 := 58
def openBracket : UInt8 := 91
def closeBracket : UInt8 := 93
def openBrace : UInt8 := 123
def closeBrace : UInt8 := 125

def quoted (key : String) : Bytes := doubleQuote :: text key ++ [doubleQuote]

-- end - pos - 1 in 64 bits.
def between (pos : Nat) : Option Nat → Nat
  | some stop => stop - pos - 1
  | none => 2 ^ 64 - 1 - pos - 1

def parseStr (s : Bytes) (key : String) : Bytes :=
  match findText (quoted key) s with
  | none => []
  | some pos =>
      match find doubleQuote s (pos + (text key).length + 2) with
      | none => []
      | some pos => (s.drop (pos + 1)).take (between pos (find doubleQuote s (pos + 1)))

def decimalDigit (byte : UInt8) : Bool := 48 ≤ byte ∧ byte ≤ 57

def whiteSpace (byte : UInt8) : Bool := byte = 32 ∨ (9 ≤ byte ∧ byte ≤ 13)

-- The digits up to the first other byte, held at the limits of int.
def atoiDigits (sign : Int) (s : Bytes) : Int :=
  let value := (s.takeWhile decimalDigit).foldl (fun value byte => 10 * value + (byte.toNat - 48 : Int)) 0
  max (-2 ^ 31) (min (sign * value) (2 ^ 31 - 1))

def atoi (s : Bytes) : Int :=
  match s.dropWhile whiteSpace with
  | 45 :: rest => atoiDigits (-1) rest
  | 43 :: rest => atoiDigits 1 rest
  | rest => atoiDigits 1 rest

-- Without a colon behind the key the read begins at c_str() + npos, outside the string: none.
def parseInt (s : Bytes) (key : String) : Option Int :=
  match findText (quoted key) s with
  | none => some 0
  | some pos => (find colon s pos).map (fun place => atoi ((s.drop place).dropWhile (fun byte => byte = colon ∨ byte = 32)))

end Fields

section Entries

def readItem (items : List ItemData) (obj : Bytes) : Option (List ItemData) := do
  let id ← parseInt obj "id"
  let name := parseStr obj "name"
  let type := parseStr obj "type"
  let atk ← parseInt obj "atk"
  let defense ← parseInt obj "def"
  let hp ← parseInt obj "hp"
  let price ← parseInt obj "price"
  return items ++ [{ id := UInt16.ofInt id, name, type, atk := UInt16.ofInt atk, defense := UInt16.ofInt defense,
                     hp := UInt16.ofInt hp, price := UInt32.ofInt price }]

def fitsInt (value : Int) : Prop := -2 ^ 31 ≤ value ∧ value < 2 ^ 31

instance (value : Int) : Decidable (fitsInt value) := inferInstanceAs (Decidable (_ ∧ _))

-- g_dropTable and g_totalWeight; a sum beyond int is undefined.
def readDrop (table : List DropEntry × Int) (obj : Bytes) : Option (List DropEntry × Int) := do
  let itemId ← parseInt obj "itemId"
  let weight ← parseInt obj "weight"
  if fitsInt (table.2 + weight) then some (table.1 ++ [⟨UInt16.ofInt itemId, weight⟩], table.2 + weight) else none

def readQuest (quests : List QuestData) (obj : Bytes) : Option (List QuestData) := do
  let id ← parseInt obj "id"
  let name := parseStr obj "name"
  let target ← parseInt obj "target"
  let rewardGold ← parseInt obj "rewardGold"
  let rewardExp ← parseInt obj "rewardExp"
  let rewardItemId ← parseInt obj "rewardItemId"
  return quests ++ [⟨UInt16.ofInt id, name, UInt16.ofInt target, UInt32.ofInt rewardGold, UInt32.ofInt rewardExp,
                     UInt16.ofInt rewardItemId⟩]

end Entries

section Files

structure LoadedItems where
  items : List ItemData
  dropTable : List DropEntry
  totalWeight : Int
deriving DecidableEq, Repr

-- json.substr(arrStart, arrEnd - arrStart + 1), for a bracket that is there; substr throws where it is not.
def arrayAt (json : Bytes) (start : Nat) : Bytes := slice json start (find closeBracket json start)

def itemsArray (json : Bytes) : Option Bytes :=
  ((findText (quoted "items") json).bind (find openBracket json)).map (arrayAt json)

def dropArray (json : Bytes) : Option Bytes :=
  ((findText (quoted "dropTable") json).bind (find openBracket json)).map (arrayAt json)

def questsArray (json : Bytes) : Option Bytes := (find openBracket json 0).map (arrayAt json)

-- The loop over one array, which throws if the array is missing.
def loadArray {Table : Type} (read : Table → Bytes → Option Table) (start : Table) (fuel : Nat) : Option Bytes → Option (Ending Table)
  | none => some .thrown
  | some arr => objectLoop openBrace closeBrace read arr fuel 0 start

-- LoadItems from the file's content on; it answers whether there are items.
def loadItems (fuel : Nat) (json : Bytes) : Option (Ending LoadedItems) :=
  andThen (loadArray readItem [] fuel (itemsArray json)) (fun items =>
    match findText (quoted "dropTable") json with
    | none => some (.returned ⟨items, [], 0⟩)
    | some _ => andThen (loadArray readDrop ([], 0) fuel (dropArray json)) (fun drops => some (.returned ⟨items, drops.1, drops.2⟩)))

def loadQuests (fuel : Nat) (json : Bytes) : Option (Ending (List QuestData)) :=
  loadArray readQuest [] fuel (questsArray json)

end Files

section Endings

-- Every key of an object that is read as a number has a colon somewhere behind it.
def ColonsFollow (keys : List String) (obj : Bytes) : Prop := ∀ key ∈ keys, (parseInt obj key).isSome

def itemKeys : List String := ["id", "atk", "def", "hp", "price"]
def dropKeys : List String := ["itemId", "weight"]
def questKeys : List String := ["id", "target", "rewardGold", "rewardExp", "rewardItemId"]

def Readable (keys : List String) (arr : Bytes) : Prop :=
  Closed openBrace closeBrace arr ∧ ∀ obj ∈ objects openBrace closeBrace arr, ColonsFollow keys obj

def weightOf (obj : Bytes) : Int := (parseInt obj "weight").getD 0

def WeightsFit (arr : Bytes) : Prop :=
  ∀ front, front <+: objects openBrace closeBrace arr → fitsInt (front.map weightOf).sum

theorem read_item_iff (items : List ItemData) (obj : Bytes) : (readItem items obj).isSome ↔ ColonsFollow itemKeys obj := by
  simp only [readItem, ColonsFollow, itemKeys, List.forall_mem_cons, List.not_mem_nil, false_implies, implies_true, and_true]
  cases parseInt obj "id" with
  | none => simp
  | some id =>
      cases parseInt obj "atk" with
      | none => simp
      | some atk =>
          cases parseInt obj "def" with
          | none => simp
          | some defense => cases parseInt obj "hp" <;> cases parseInt obj "price" <;> simp

theorem read_quest_iff (quests : List QuestData) (obj : Bytes) : (readQuest quests obj).isSome ↔ ColonsFollow questKeys obj := by
  simp only [readQuest, ColonsFollow, questKeys, List.forall_mem_cons, List.not_mem_nil, false_implies, implies_true, and_true]
  cases parseInt obj "id" with
  | none => simp
  | some id =>
      cases parseInt obj "target" with
      | none => simp
      | some target =>
          cases parseInt obj "rewardGold" with
          | none => simp
          | some gold => cases parseInt obj "rewardExp" <;> cases parseInt obj "rewardItemId" <;> simp

theorem read_drop_iff (table : List DropEntry × Int) (obj : Bytes) :
    (readDrop table obj).isSome ↔ ColonsFollow dropKeys obj ∧ fitsInt (table.2 + weightOf obj) := by
  simp only [readDrop, ColonsFollow, dropKeys, weightOf, List.forall_mem_cons, List.not_mem_nil, false_implies, implies_true, and_true]
  cases parseInt obj "itemId" with
  | none => simp
  | some itemId =>
      cases parseInt obj "weight" with
      | none => simp
      | some weight => simp

theorem read_drop_next (table next : List DropEntry × Int) (obj : Bytes) (taken : readDrop table obj = some next) :
    next.2 = table.2 + weightOf obj ∧ next.1.length = table.1.length + 1 := by
  simp only [readDrop, weightOf] at taken ⊢
  cases itemId : parseInt obj "itemId" with
  | none => simp [itemId] at taken
  | some id =>
      cases weight : parseInt obj "weight" with
      | none => simp [itemId, weight] at taken
      | some amount =>
          simp only [itemId, weight, Option.bind_eq_bind, Option.bind_some, Option.ite_none_right_eq_some, Option.some.injEq] at taken
          obtain ⟨_, rfl⟩ := taken
          simp

theorem drops_fold_iff (all : List Bytes) (table : List DropEntry × Int) :
    (all.foldlM readDrop table).isSome ↔ (∀ obj ∈ all, ColonsFollow dropKeys obj) ∧
      ∀ front, front <+: all → front ≠ [] → fitsInt (table.2 + (front.map weightOf).sum) := by
  induction all generalizing table with
  | nil =>
      refine iff_of_true rfl ⟨nofun, fun front prefix_ some_ => ?_⟩
      exact absurd (List.prefix_nil.mp prefix_) some_
  | cons obj rest ih =>
      have step := read_drop_iff table obj
      have begins (front : List Bytes) : (((obj :: front).map weightOf).sum : Int) = weightOf obj + (front.map weightOf).sum := by simp
      rw [List.foldlM_cons]
      cases taken : readDrop table obj with
      | none =>
          rw [taken] at step
          refine iff_of_false (by simp) (fun held => absurd (step.mpr ⟨held.1 obj List.mem_cons_self, ?_⟩) (by simp))
          have first := held.2 [obj] ⟨rest, rfl⟩ (List.cons_ne_nil _ _)
          rwa [begins [], List.map_nil, List.sum_nil, add_zero] at first
      | some next =>
          obtain ⟨colons, fits⟩ := step.mp (by rw [taken]; rfl)
          have total := (read_drop_next table next obj taken).1
          have later := ih next
          rw [total] at later
          change (rest.foldlM readDrop next).isSome ↔ _
          rw [later, List.forall_mem_cons, and_assoc]
          constructor
          · intro held
            refine ⟨colons, held.1, fun front prefix_ some_ => ?_⟩
            rcases List.prefix_cons_iff.mp prefix_ with none_ | ⟨tail, rfl, inside⟩
            · exact absurd none_ some_
            · rw [begins, ← add_assoc]
              by_cases last : tail = []
              · rwa [last, List.map_nil, List.sum_nil, add_zero]
              · exact held.2 tail inside last
          · intro held
            refine ⟨held.2.1, fun front prefix_ some_ => ?_⟩
            have whole := held.2.2 (obj :: front) (List.prefix_cons_iff.mpr (.inr ⟨front, rfl, prefix_⟩)) (List.cons_ne_nil _ _)
            rwa [begins, ← add_assoc] at whole

theorem drops_readable_iff (arr : Bytes) :
    (Closed openBrace closeBrace arr ∧ ((objects openBrace closeBrace arr).foldlM readDrop ([], 0)).isSome) ↔
      Readable dropKeys arr ∧ WeightsFit arr := by
  rw [drops_fold_iff, Readable, WeightsFit, and_assoc]
  refine and_congr_right (fun _ => and_congr_right (fun _ => ?_))
  constructor
  · intro held front prefix_
    by_cases empty : front = []
    · rw [empty]
      decide
    · have fits := held front prefix_ empty
      rwa [zero_add] at fits
  · intro held front prefix_ _
    rw [zero_add]
    exact held front prefix_

variable {Table : Type} (read : Table → Bytes → Option Table) (start : Table) (arr : Bytes)

theorem load_array_returned (fuel : Nat) (result : Table) (ended : loadArray read start fuel (some arr) = some (.returned result)) :
    Closed openBrace closeBrace arr ∧ (objects openBrace closeBrace arr).foldlM read start = some result :=
  (loop_returns_iff openBrace closeBrace read arr (by decide) start result).mp ⟨fuel, ended⟩

theorem load_array_returns (fuel : Nat) (result : Table) (closed : Closed openBrace closeBrace arr)
    (folded : (objects openBrace closeBrace arr).foldlM read start = some result)
    (enough : (objects openBrace closeBrace arr).length < fuel) : loadArray read start fuel (some arr) = some (.returned result) := by
  have ended := closed_loop_ends openBrace closeBrace read arr closed 0 fuel start enough
  rw [objects] at folded
  rwa [folded] at ended

theorem load_array_count {Entry : Type} (entries : Table → List Entry)
    (one : ∀ table object next, read table object = some next → (entries next).length = (entries table).length + 1)
    (empty : entries start = []) (json : Bytes) (at_ : Nat) (result : Table)
    (folded : (objects openBrace closeBrace (arrayAt json at_)).foldlM read start = some result) :
    (entries result).length ≤ json.count openBrace := by
  have made := entries_count read entries one start result _ folded
  have cut := objects_count openBrace closeBrace (arrayAt json at_) 0
  have inside := (slice_sublist json at_ (find closeBracket json at_)).count_le openBrace
  rw [List.drop_zero] at cut
  rw [made, empty, List.length_nil, Nat.zero_add]
  exact cut.trans inside

end Endings

section Loading

variable (json : Bytes)

def ItemsEnd : Prop :=
  ∃ fuel, loadItems fuel json = some .thrown ∨ ∃ loaded, loadItems fuel json = some (.returned loaded) ∧
    loaded.items.length ≤ json.count openBrace ∧ loaded.dropTable.length ≤ json.count openBrace

def QuestsEnd : Prop :=
  ∃ fuel, loadQuests fuel json = some .thrown ∨ ∃ quests, loadQuests fuel json = some (.returned quests) ∧
    quests.length ≤ json.count openBrace

theorem read_item_one (items next : List ItemData) (obj : Bytes) (taken : readItem items obj = some next) :
    next.length = items.length + 1 := by
  simp only [readItem, Option.bind_eq_bind, Option.bind_eq_some_iff, Option.pure_def, Option.some.injEq] at taken
  obtain ⟨_, _, _, _, _, _, _, _, _, _, rfl⟩ := taken
  simp

theorem read_quest_one (quests next : List QuestData) (obj : Bytes) (taken : readQuest quests obj = some next) :
    next.length = quests.length + 1 := by
  simp only [readQuest, Option.bind_eq_bind, Option.bind_eq_some_iff, Option.pure_def, Option.some.injEq] at taken
  obtain ⟨_, _, _, _, _, _, _, _, _, _, rfl⟩ := taken
  simp

theorem quests_end_iff : QuestsEnd json ↔ ∀ arr ∈ questsArray json, Readable questKeys arr := by
  cases found : questsArray json with
  | none => exact iff_of_true ⟨0, .inl (by rw [loadQuests, found]; rfl)⟩ nofun
  | some arr =>
      have target : (∀ other ∈ some arr, Readable questKeys other) ↔ Readable questKeys arr := by simp
      have reads := fold_reads_iff readQuest (ColonsFollow questKeys) read_quest_iff [] (objects openBrace closeBrace arr)
      obtain ⟨at_, _, rfl⟩ := Option.map_eq_some_iff.mp found
      rw [target]
      constructor
      · intro ends
        obtain ⟨fuel, thrown | ⟨quests, returned, _⟩⟩ := ends
        · rw [loadQuests, found] at thrown
          exact absurd thrown (loop_never_throws openBrace closeBrace readQuest _ fuel 0 [])
        · rw [loadQuests, found] at returned
          obtain ⟨closed, folded⟩ := load_array_returned readQuest [] _ fuel quests returned
          exact ⟨closed, reads.mp (by rw [folded]; rfl)⟩
      · intro readable
        obtain ⟨quests, folded⟩ := Option.isSome_iff_exists.mp (reads.mpr readable.2)
        have returned := load_array_returns readQuest [] _ _ quests readable.1 folded (Nat.lt_succ_self _)
        have count := load_array_count readQuest [] (fun quests => quests) (fun table object next => read_quest_one table next object) rfl
          json at_ quests folded
        refine ⟨(objects openBrace closeBrace (arrayAt json at_)).length + 1, .inr ⟨quests, ?_, count⟩⟩
        rw [loadQuests, found]
        exact returned

def ItemsReadable : Prop :=
  ∀ arr ∈ itemsArray json, Readable itemKeys arr ∧ ∀ drops ∈ dropArray json, Readable dropKeys drops ∧ WeightsFit drops

theorem drop_array_key (drops : Bytes) (found : dropArray json = some drops) : (findText (quoted "dropTable") json).isSome := by
  obtain ⟨_, bracket, _⟩ := Option.map_eq_some_iff.mp found
  obtain ⟨_, key, _⟩ := Option.bind_eq_some_iff.mp bracket
  rw [key]
  rfl

theorem items_readable_of_end (ends : ItemsEnd json) : ItemsReadable json := by
  intro arr found
  have reads := fold_reads_iff readItem (ColonsFollow itemKeys) read_item_iff [] (objects openBrace closeBrace arr)
  obtain ⟨fuel, ended⟩ := ends
  rw [loadItems, found] at ended
  cases loop : loadArray readItem [] fuel (some arr) with
  | none =>
      rw [loop] at ended
      simp [andThen] at ended
  | some ending =>
      rw [loop] at ended
      cases ending with
      | thrown => exact absurd loop (loop_never_throws openBrace closeBrace readItem _ fuel 0 [])
      | undefined => simp [andThen] at ended
      | returned items =>
          obtain ⟨closed, folded⟩ := load_array_returned readItem [] arr fuel items loop
          refine ⟨⟨closed, reads.mp (by rw [folded]; rfl)⟩, fun drops present => ?_⟩
          obtain ⟨key, named⟩ := Option.isSome_iff_exists.mp (drop_array_key json drops present)
          rw [Option.mem_def] at present
          simp only [andThen, named, present] at ended
          cases dropLoop : loadArray readDrop ([], 0) fuel (some drops) with
          | none => simp [dropLoop] at ended
          | some ending =>
              cases ending with
              | thrown => exact absurd dropLoop (loop_never_throws openBrace closeBrace readDrop _ fuel 0 ([], 0))
              | undefined => simp [dropLoop] at ended
              | returned table =>
                  obtain ⟨closed, folded⟩ := load_array_returned readDrop ([], 0) drops fuel table dropLoop
                  exact (drops_readable_iff drops).mp ⟨closed, by rw [folded]; rfl⟩

theorem items_end_of_readable (readable : ItemsReadable json) : ItemsEnd json := by
  cases found : itemsArray json with
  | none => exact ⟨0, .inl (by rw [loadItems, found]; rfl)⟩
  | some arr =>
      obtain ⟨⟨closed, colons⟩, drops⟩ := readable arr found
      have reads := fold_reads_iff readItem (ColonsFollow itemKeys) read_item_iff [] (objects openBrace closeBrace arr)
      obtain ⟨items, folded⟩ := Option.isSome_iff_exists.mp (reads.mpr colons)
      obtain ⟨at_, _, rfl⟩ := Option.map_eq_some_iff.mp found
      have count := load_array_count readItem [] (fun items => items) (fun table object next => read_item_one table next object) rfl json at_ items folded
      have loop (fuel : Nat) (enough : (objects openBrace closeBrace (arrayAt json at_)).length < fuel) :
          loadArray readItem [] fuel (itemsArray json) = some (.returned items) := by
        rw [found]
        exact load_array_returns readItem [] _ fuel items closed folded enough
      cases named : findText (quoted "dropTable") json with
      | none =>
          refine ⟨(objects openBrace closeBrace (arrayAt json at_)).length + 1, .inr ⟨⟨items, [], 0⟩, ?_, count, Nat.zero_le _⟩⟩
          rw [loadItems, loop _ (Nat.lt_succ_self _), named]
          rfl
      | some key =>
          cases present : dropArray json with
          | none =>
              refine ⟨(objects openBrace closeBrace (arrayAt json at_)).length + 1, .inl ?_⟩
              rw [loadItems, loop _ (Nat.lt_succ_self _), named, present]
              rfl
          | some table =>
              obtain ⟨dropsClosed, dropsRead⟩ := (drops_readable_iff table).mpr (drops table present)
              obtain ⟨sums, dropsFolded⟩ := Option.isSome_iff_exists.mp dropsRead
              have dropLoop := load_array_returns readDrop ([], 0) table ((objects openBrace closeBrace (arrayAt json at_)).length +
                (objects openBrace closeBrace table).length + 1) sums dropsClosed dropsFolded (by omega)
              obtain ⟨place, _, rfl⟩ := Option.map_eq_some_iff.mp present
              have dropCount := load_array_count readDrop ([], 0) Prod.fst (fun table object next taken => (read_drop_next table next object taken).2) rfl json place
                sums dropsFolded
              refine ⟨(objects openBrace closeBrace (arrayAt json at_)).length + (objects openBrace closeBrace (arrayAt json place)).length + 1,
                .inr ⟨⟨items, sums.1, sums.2⟩, ?_, count, dropCount⟩⟩
              rw [loadItems, loop _ (by omega), named, present]
              simp only [andThen, dropLoop]

theorem loaders_end_iff (quests : Bytes) :
    (ItemsEnd json ↔ ItemsReadable json) ∧ (QuestsEnd quests ↔ ∀ arr ∈ questsArray quests, Readable questKeys arr) :=
  ⟨⟨items_readable_of_end json, items_end_of_readable json⟩, quests_end_iff quests⟩

example : loadItems 2 (text "\x7b\"items\": [\x7b\"id\": 3, \"name\": \"Axe\", \"type\": \"weapon\", \"atk\": 7\x7d], \"dropTable\": [\x7b\"itemId\": 3, \"weight\": 20\x7d]\x7d") =
    some (.returned ⟨[{ id := 3, name := text "Axe", type := text "weapon", atk := 7 }], [⟨3, 20⟩], 20⟩) := by
  decide +kernel

-- A well-formed file in which a name ends the array before its object does.
def bracketedName : Bytes := text "\x7b\"items\": [\x7b\"id\": 3, \"name\": \"Axe [old]\"\x7d]\x7d"

theorem bracketed_name_never_loads : ¬ ItemsEnd bracketedName := by
  intro ends
  have cut : itemsArray bracketedName = some (text "[\x7b\"id\": 3, \"name\": \"Axe [old]") := by decide +kernel
  obtain ⟨⟨closed, _⟩, _⟩ := items_readable_of_end bracketedName ends _ cut
  obtain ⟨stop, _, closes⟩ := closed 1 (by decide +kernel)
  have absent : closeBrace ∉ text "[\x7b\"id\": 3, \"name\": \"Axe [old]" := by decide +kernel
  exact absent (List.mem_of_getElem? closes)

end Loading

end MmorpgSimulator
