import Mathlib

set_option autoImplicit false

-- Records of fixed width, one field behind the other, as a packed struct keeps them.
namespace Packing

-- How the values of a type are written and read. What does not fit may come back
-- as something else; what fits comes back, whatever stands behind it.
structure Layout (Symbol Value : Type*) where
  width : Nat
  write : Value → List Symbol
  read : List Symbol → Value
  Fits : Value → Prop
  written : ∀ value, (write value).length = width
  reads : ∀ value rest, Fits value → read (write value ++ rest) = value

namespace Layout

variable {Symbol Value Other : Type*}

theorem drop_written (layout : Layout Symbol Value) (value : Value) (rest : List Symbol) :
    (layout.write value ++ rest).drop layout.width = rest :=
  List.drop_left' (layout.written value)

def pair (first : Layout Symbol Value) (second : Layout Symbol Other) : Layout Symbol (Value × Other) where
  width := first.width + second.width
  write := fun both => first.write both.1 ++ second.write both.2
  read := fun symbols => (first.read symbols, second.read (symbols.drop first.width))
  Fits := fun both => first.Fits both.1 ∧ second.Fits both.2
  written := fun both => by rw [List.length_append, first.written, second.written]
  reads := by
    intro both rest fits
    rw [List.append_assoc, first.reads _ _ fits.1, first.drop_written, second.reads _ _ fits.2]

-- The same symbols taken for values of another type.
def via (layout : Layout Symbol Value) (fields : Other → Value) (build : Value → Other) (Fits : Other → Prop)
    (fit : ∀ other, Fits other → layout.Fits (fields other)) (back : ∀ other, Fits other → build (fields other) = other) :
    Layout Symbol Other where
  width := layout.width
  write := fun other => layout.write (fields other)
  read := fun symbols => build (layout.read symbols)
  Fits := Fits
  written := fun other => layout.written (fields other)
  reads := by
    intro other rest fits
    rw [layout.reads _ rest (fit other fits), back other fits]

def whole (layout : Layout Symbol Value) (fields : Other → Value) (build : Value → Other) (fit : ∀ other, layout.Fits (fields other))
    (back : ∀ other, build (fields other) = other) : Layout Symbol Other :=
  layout.via fields build (fun _ => True) (fun other _ => fit other) (fun other _ => back other)

def record (layout : Layout Symbol Value) (fields : Other → Value) (build : Value → Other)
    (back : ∀ other, build (fields other) = other) : Layout Symbol Other :=
  layout.via fields build (fun other => layout.Fits (fields other)) (fun _ => id) (fun other _ => back other)

section Arrays

variable (layout : Layout Symbol Value)

def writeAll (values : List Value) : List Symbol := (values.map layout.write).flatten

def readAll : Nat → List Symbol → List Value
  | 0, _ => []
  | count + 1, symbols => layout.read symbols :: readAll count (symbols.drop layout.width)

theorem write_all_length (values : List Value) : (layout.writeAll values).length = values.length * layout.width := by
  induction values with
  | nil => simp [writeAll]
  | cons value rest ih =>
      rw [writeAll, List.map_cons, List.flatten_cons, List.length_append, layout.written, List.length_cons]
      rw [writeAll] at ih
      rw [ih]
      ring

theorem read_all_written (values : List Value) (rest : List Symbol) (fit : ∀ value ∈ values, layout.Fits value) :
    layout.readAll values.length (layout.writeAll values ++ rest) = values := by
  induction values with
  | nil => rfl
  | cons value others ih =>
      rw [writeAll, List.map_cons, List.flatten_cons, List.append_assoc, List.length_cons, readAll,
        layout.reads _ _ (fit value List.mem_cons_self), layout.drop_written]
      exact congrArg (value :: ·) (ih (fun other member => fit other (List.mem_cons_of_mem value member)))

-- A count and an array of a fixed number of entries, the unused ones left blank;
-- only as many entries are read as the count says.
def counted (count : Layout Symbol Nat) (blank : Value) (room : Nat) : Layout Symbol (Nat × List Value) where
  width := count.width + room * layout.width
  write := fun list =>
    count.write list.1 ++ layout.writeAll (list.2.take room ++ List.replicate (room - list.2.length) blank)
  read := fun symbols => (count.read symbols, layout.readAll (min (count.read symbols) room) (symbols.drop count.width))
  Fits := fun list => list.1 = list.2.length ∧ list.2.length ≤ room ∧ count.Fits list.1 ∧ ∀ value ∈ list.2, layout.Fits value
  written := by
    intro list
    rw [List.length_append, count.written, write_all_length, List.length_append, List.length_take, List.length_replicate]
    congr 2
    omega
  reads := by
    intro list rest fits
    obtain ⟨number, values⟩ := list
    simp only at fits ⊢
    obtain ⟨rfl, inside, countFits, each⟩ := fits
    have split : layout.writeAll (values ++ List.replicate (room - values.length) blank) =
        layout.writeAll values ++ layout.writeAll (List.replicate (room - values.length) blank) := by
      rw [writeAll, List.map_append, List.flatten_append]
      rfl
    rw [List.append_assoc, count.reads _ _ countFits, count.drop_written, Nat.min_eq_left inside, List.take_of_length_le inside, split,
      List.append_assoc, layout.read_all_written values _ each]

end Arrays

end Layout

end Packing
