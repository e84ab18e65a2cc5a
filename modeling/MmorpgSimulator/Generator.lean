import MmorpgSimulator.Library.Backtracking

set_option autoImplicit false

namespace MmorpgSimulator

open Backtracking

abbrev Chars := List Char

-- What \w, \s and \d stand for on a str, and the value int() gives a digit. Beyond
-- ASCII this is up to the Unicode tables.
structure CharTables where
  word : Char → Bool
  space : Char → Bool
  digit : Char → Option Nat
  wordAscii : ∀ c, c.toNat < 128 → word c = (c.isAlphanum || c == '_')
  spaceAscii : ∀ c, c.toNat < 128 → space c = ((9 ≤ c.toNat && c.toNat ≤ 13) || (28 ≤ c.toNat && c.toNat ≤ 32))
  digitAscii : ∀ c, c.toNat < 128 → digit c = if c.isDigit then some (c.toNat - 48) else none
  apart : ∀ c, word c = true → space c = false

structure JsonField where
  name : Chars
  type : Chars
  length : Option Nat
deriving DecidableEq

structure PacketDef where
  type : Nat
  name : Chars
  direction : Chars
  fields : List JsonField
deriving DecidableEq

-- TYPE_MAP
def typeMap : List (Chars × Chars) :=
  [("uint8_t".toList, "uint8".toList), ("int8_t".toList, "int8".toList), ("uint16_t".toList, "uint16".toList),
    ("int16_t".toList, "int16".toList), ("uint32_t".toList, "uint32".toList), ("int32_t".toList, "int32".toList),
    ("uint64_t".toList, "uint64".toList), ("int64_t".toList, "int64".toList), ("char".toList, "string".toList)]

def jsonType (cppType : Chars) : Chars := (typeMap.lookup cppType).getD cppType

-- structs[key] = value
def assign {Value : Type} (key : Chars) (value : Value) (dict : List (Chars × Value)) : List (Chars × Value) :=
  if key ∈ dict.map Prod.fst then dict.map (fun entry => if entry.1 = key then (key, value) else entry) else dict ++ [(key, value)]

def packetHeader : Chars := "PacketHeader".toList

section Source

variable (tables : CharTables)

-- struct\s+(\w+)\s*\{([^}]+)\}
def structPattern : Matcher Char (Chars × Chars) :=
  andThen (literal ['s', 't', 'r', 'u', 'c', 't']) fun _ =>
  andThen (several tables.space) fun _ =>
  andThen (several tables.word) fun name =>
  andThen (many tables.space) fun _ =>
  andThen (literal ['{']) fun _ =>
  andThen (several (fun c => c ≠ '}')) fun body =>
  andThen (literal ['}']) fun _ =>
  accept (name, body)

-- \[(\d+)\]
def lengthPattern : Matcher Char Chars :=
  andThen (literal ['[']) fun _ =>
  andThen (several (fun c => (tables.digit c).isSome)) fun digits =>
  andThen (literal [']']) fun _ =>
  accept digits

-- (\w+)\s+(\w+)(?:\[(\d+)\])?\s*;
def fieldPattern : Matcher Char (Chars × Chars × Option Chars) :=
  andThen (several tables.word) fun cppType =>
  andThen (several tables.space) fun _ =>
  andThen (several tables.word) fun fieldName =>
  andThen (perhaps (lengthPattern tables)) fun arraySize =>
  andThen (many tables.space) fun _ =>
  andThen (literal [';']) fun _ =>
  accept (cppType, fieldName, arraySize)

def strip (line : Chars) : Chars := (line.dropWhile tables.space).rdropWhile tables.space

def toInt (digits : Chars) : Nat := digits.foldl (fun value c => 10 * value + (tables.digit c).getD 0) 0

def parseLine (line : Chars) : Option JsonField :=
  let line := strip tables line
  if line = [] ∨ ['/', '/'] <+: line then none
  else (matchFront (fieldPattern tables) line).map (fun found =>
    ⟨found.1.2.1, jsonType found.1.1, found.1.2.2.map (toInt tables)⟩)

def parseFields (structBody : Chars) : List JsonField := (structBody.splitOn '\n').filterMap (parseLine tables)

def parseStructs (content : Chars) : List (Chars × List JsonField) :=
  (findAll (structPattern tables) content).foldl (fun structs found =>
    if found.1 = packetHeader then structs else assign found.1 (parseFields tables found.2) structs) []

def capitalize : Chars → Chars
  | [] => []
  | first :: rest => first.toUpper :: rest.map Char.toLower

-- CS_LOGIN -> CS_Login
def matchPacketToStruct (packetName : Chars) : Chars :=
  match packetName.splitOn '_' with
  | head :: second :: rest => head ++ '_' :: ((second :: rest).map capitalize).flatten
  | _ => packetName

def generatePackets (packetsEnum : List (Chars × Nat)) (content : Chars) : List PacketDef :=
  (packetsEnum.mergeSort (fun one other => one.2 ≤ other.2)).map (fun packet =>
    { type := packet.2, name := packet.1
      direction := if "CS_".toList <+: packet.1 then "C2S".toList else "S2C".toList
      fields := ((parseStructs tables content).lookup (matchPacketToStruct packet.1)).getD [] })

end Source

section Tables

theorem plain_range (c : Char) (plain : c.isAlphanum = true ∨ c = '_') : 48 ≤ c.toNat ∧ c.toNat < 128 := by
  rcases plain with letter | rfl
  · simp only [Char.isAlphanum, Char.isAlpha, Char.isUpper, Char.isLower, Char.isDigit, Bool.or_eq_true, Bool.and_eq_true,
      decide_eq_true_eq, UInt32.le_iff_toNat_le] at letter
    change ((65 ≤ c.toNat ∧ c.toNat ≤ 90) ∨ (97 ≤ c.toNat ∧ c.toNat ≤ 122)) ∨ (48 ≤ c.toNat ∧ c.toNat ≤ 57) at letter
    omega
  · decide

variable (tables : CharTables)

theorem word_plain (c : Char) (plain : c.isAlphanum = true ∨ c = '_') : c.toNat < 128 ∧ tables.word c = true := by
  have small := (plain_range c plain).2
  refine ⟨small, ?_⟩
  rw [tables.wordAscii c small]
  simpa using plain

theorem not_word (c : Char) (small : c.toNat < 128) (mark : (c.isAlphanum || c == '_') = false) : tables.word c = false := by
  rw [tables.wordAscii c small, mark]

theorem not_digit (c : Char) (small : c.toNat < 128) (other : c.isDigit = false) : (tables.digit c).isSome = false := by
  rw [tables.digitAscii c small, other]
  rfl

end Tables

end MmorpgSimulator
