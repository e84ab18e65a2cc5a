import MmorpgSimulator.Loaders

set_option autoImplicit false

namespace MmorpgSimulator

open Scanning

-- A text as what stands between its quotation marks and what stands outside of them.
inductive Piece where
  | plain (bytes : Bytes)
  | quote (bytes : Bytes)
deriving DecidableEq

def Piece.render : Piece → Bytes
  | .plain bytes => bytes
  | .quote bytes => doubleQuote :: (bytes ++ [doubleQuote])

def render (pieces : List Piece) : Bytes := pieces.flatMap Piece.render

def Opens (bytes : Bytes) : Prop := ∀ byte ∈ bytes.head?, ¬ (97 ≤ byte.toNat ∧ byte.toNat ≤ 122)

def Clean : List Piece → Prop
  | [] => True
  | .plain bytes :: rest => doubleQuote ∉ bytes ∧ Clean rest
  | .quote bytes :: rest => doubleQuote ∉ bytes ∧ Opens (render rest) ∧ Clean rest

structure KeyWord (word : Bytes) : Prop where
  unquoted : doubleQuote ∉ word
  uncoloned : colon ∉ word
  lower : ∃ first rest, word = first :: rest ∧ 97 ≤ first.toNat ∧ first.toNat ≤ 122

def commas (parts : List (List Piece)) : List Piece := [Piece.plain [44]].intercalate parts

section Render

variable (first second : List Piece)

theorem render_append : render (first ++ second) = render first ++ render second := List.flatMap_append

theorem render_cons (piece : Piece) : render (piece :: first) = piece.render ++ render first := List.flatMap_cons

theorem opens_append (front rest : Bytes) (one : Opens front) (other : Opens rest) : Opens (front ++ rest) := by
  cases front with
  | nil => exact other
  | cons byte front => exact one

theorem clean_append (one : Clean first) (other : Clean second) (opens : Opens (render second)) : Clean (first ++ second) := by
  induction first with
  | nil => exact other
  | cons piece rest ih =>
      cases piece with
      | plain bytes => exact ⟨one.1, ih one.2⟩
      | quote bytes =>
          refine ⟨one.1, ?_, ih one.2.2⟩
          change Opens (render (rest ++ second))
          rw [render_append]
          exact opens_append _ _ one.2.1 opens

theorem render_commas (parts : List (List Piece)) : render (commas parts) = ([44] : Bytes).intercalate (parts.map render) := by
  induction parts with
  | nil => rfl
  | cons part rest ih =>
      cases rest with
      | nil => simp [commas]
      | cons next others =>
          rw [commas, List.intercalate_cons_cons, render_append, render_append, List.map_cons, List.map_cons, List.intercalate_cons_cons,
            ← List.map_cons, ← ih]
          rfl

theorem mem_commas (parts : List (List Piece)) (piece : Piece) (member : piece ∈ commas parts) :
    piece = .plain [44] ∨ ∃ part ∈ parts, piece ∈ part := by
  induction parts with
  | nil => exact absurd member List.not_mem_nil
  | cons part rest ih =>
      cases rest with
      | nil => exact .inr ⟨part, List.mem_singleton_self part, by simpa [commas] using member⟩
      | cons next others =>
          rw [commas, List.intercalate_cons_cons, List.mem_append, List.mem_append, List.mem_singleton] at member
          rcases member with (inside | comma) | later
          · exact .inr ⟨part, List.mem_cons_self, inside⟩
          · exact .inl comma
          · refine (ih later).imp_right (fun found => ?_)
            obtain ⟨other, listed, inside⟩ := found
            exact ⟨other, List.mem_cons_of_mem part listed, inside⟩

theorem commas_clean (parts : List (List Piece)) (each : ∀ part ∈ parts, Clean part ∧ Opens (render part)) :
    Clean (commas parts) ∧ Opens (render (commas parts)) := by
  induction parts with
  | nil => exact ⟨trivial, nofun⟩
  | cons part rest ih =>
      obtain ⟨clean, opens⟩ := each part List.mem_cons_self
      cases rest with
      | nil =>
          rw [commas, List.intercalate_singleton]
          exact ⟨clean, opens⟩
      | cons next others =>
          obtain ⟨cleanRest, opensRest⟩ := ih (fun other member => each other (List.mem_cons_of_mem part member))
          have comma : Opens [44] := by
            intro byte same
            rw [← Option.some.inj same]
            decide
          have behind : Clean ([Piece.plain [44]] ++ commas (next :: others)) := ⟨by decide, cleanRest⟩
          rw [commas, List.intercalate_cons_cons, List.append_assoc]
          refine ⟨clean_append _ _ clean behind ?_, ?_⟩
          · rw [render_append]
            exact opens_append _ _ comma opensRest
          · rw [render_append, render_append]
            exact opens_append _ _ opens (opens_append _ _ comma opensRest)

theorem commas_split (before after : List (List Piece)) (part : List Piece) :
    ∃ front back, commas (before ++ part :: after) = front ++ (part ++ back) ∧ (back = [] ∨ ∃ more, back = .plain [44] :: more) ∧
      ∀ piece ∈ front, piece = .plain [44] ∨ ∃ other ∈ before, piece ∈ other := by
  induction before with
  | nil =>
      cases after with
      | nil => exact ⟨[], [], by simp [commas], .inl rfl, nofun⟩
      | cons next others =>
          refine ⟨[], .plain [44] :: commas (next :: others), ?_, .inr ⟨_, rfl⟩, nofun⟩
          rw [List.nil_append, commas, List.intercalate_cons_cons, List.append_assoc]
          rfl
  | cons first rest ih =>
      obtain ⟨front, back, split, behind, inside⟩ := ih
      refine ⟨first ++ (.plain [44] :: front), back, ?_, behind, ?_⟩
      · have joined : commas (first :: (rest ++ part :: after)) = first ++ (.plain [44] :: commas (rest ++ part :: after)) := by
          rw [commas, List.intercalate_cons_of_ne_nil (List.append_ne_nil_of_right_ne_nil rest (List.cons_ne_nil part after)),
            List.append_assoc]
          rfl
        rw [List.cons_append, joined, split]
        simp
      · intro piece member
        rcases List.mem_append.mp member with one | other
        · exact .inr ⟨first, List.mem_cons_self, one⟩
        · rcases List.mem_cons.mp other with comma | later
          · exact .inl comma
          · refine (inside piece later).imp_right (fun found => ?_)
            obtain ⟨other, listed, here⟩ := found
            exact ⟨other, List.mem_cons_of_mem first listed, here⟩

end Render

section Searching

variable (key : String) (word : KeyWord (text key))

theorem quoted_cons : quoted key = doubleQuote :: (text key ++ [doubleQuote]) := rfl

theorem find_text_next (byte : UInt8) (rest : Bytes) (elsewhere : ¬ quoted key <+: byte :: rest) :
    findText (quoted key) (byte :: rest) = (findText (quoted key) rest).map (· + 1) := by
  rw [findText, if_neg]
  exact fun here => elsewhere (List.isPrefixOf_iff_prefix.mp here)

theorem find_text_plain (front rest : Bytes) (unquoted : doubleQuote ∉ front) :
    findText (quoted key) (front ++ rest) = (findText (quoted key) rest).map (front.length + ·) := by
  induction front with
  | nil => simp
  | cons byte front ih =>
      obtain ⟨other, later⟩ := not_or.mp (mt List.mem_cons.mpr unquoted)
      have elsewhere : ¬ quoted key <+: byte :: (front ++ rest) := by
        intro here
        exact other (List.cons_prefix_cons.mp here).1
      rw [List.cons_append, find_text_next key byte _ elsewhere, ih later, Option.map_map, List.length_cons]
      congr 1
      funext place
      simp only [Function.comp_apply]
      omega

theorem until_quote (bytes rest : Bytes) (unquoted : doubleQuote ∉ bytes) :
    (bytes ++ doubleQuote :: rest).takeWhile (· ≠ doubleQuote) = bytes := by
  have all : ∀ byte ∈ bytes, (decide (byte ≠ doubleQuote)) = true :=
    fun byte member => decide_eq_true (fun same => unquoted (same ▸ member))
  rw [List.takeWhile_append_of_pos all]
  simp

include word in
theorem find_text_other (bytes rest : Bytes) (unquoted : doubleQuote ∉ bytes) (other : bytes ≠ text key) (opens : Opens rest) :
    findText (quoted key) (doubleQuote :: (bytes ++ doubleQuote :: rest)) =
      (findText (quoted key) rest).map (bytes.length + 2 + ·) := by
  have here : ¬ quoted key <+: doubleQuote :: (bytes ++ doubleQuote :: rest) := by
    intro initial
    obtain ⟨behind, (same : text key ++ [doubleQuote] ++ behind = _)⟩ := (List.cons_prefix_cons.mp initial).2
    rw [List.append_assoc] at same
    have cut := congrArg (List.takeWhile (fun byte => byte ≠ doubleQuote)) same
    rw [List.singleton_append, until_quote _ _ word.unquoted, until_quote _ _ unquoted] at cut
    exact other cut.symm
  have there : ¬ quoted key <+: doubleQuote :: rest := by
    intro initial
    obtain ⟨first, tail, shape, low, high⟩ := word.lower
    have begins := (List.cons_prefix_cons.mp initial).2
    rw [shape] at begins
    cases rest with
    | nil => exact absurd (List.prefix_nil.mp begins) (List.cons_ne_nil _ _)
    | cons byte rest =>
        obtain ⟨rfl, _⟩ := List.cons_prefix_cons.mp begins
        exact opens first rfl ⟨low, high⟩
  rw [find_text_next key _ _ here, find_text_plain key bytes _ unquoted, find_text_next key _ _ there, Option.map_map, Option.map_map]
  congr 1
  funext place
  simp only [Function.comp_apply]
  omega

theorem find_text_here (rest : Bytes) : findText (quoted key) (doubleQuote :: (text key ++ doubleQuote :: rest)) = some 0 := by
  rw [findText, if_pos]
  rw [List.isPrefixOf_iff_prefix]
  exact ⟨rest, by simp [quoted_cons]⟩

theorem find_text_nil : findText (quoted key) [] = none := by
  have some_ : quoted key ≠ [] := List.cons_ne_nil _ _
  rw [findText, if_neg some_]

include word in
theorem find_text_piece (before after : List Piece) (clean : Clean (before ++ .quote (text key) :: after))
    (first : .quote (text key) ∉ before) :
    findText (quoted key) (render (before ++ .quote (text key) :: after)) = some (render before).length := by
  induction before with
  | nil =>
      have here := find_text_here key (render after)
      rw [List.nil_append, render_cons, Piece.render, List.cons_append, List.append_assoc]
      exact here
  | cons piece rest ih =>
      obtain ⟨other, later⟩ := not_or.mp (mt List.mem_cons.mpr first)
      cases piece with
      | plain bytes =>
          rw [List.cons_append, render_cons, render_cons, Piece.render, find_text_plain key _ _ clean.1, ih clean.2 later, Option.map_some,
            List.length_append]
      | quote bytes =>
          have different : bytes ≠ text key := fun same => other (congrArg Piece.quote same).symm
          have opens : Opens (render (rest ++ .quote (text key) :: after)) := clean.2.1
          rw [List.cons_append, render_cons, render_cons, Piece.render, List.cons_append, List.append_assoc, List.singleton_append,
            find_text_other key word bytes _ clean.1 different opens, ih clean.2.2 later, Option.map_some]
          simp only [List.length_append, List.length_cons, List.length_nil]

include word in
theorem find_text_absent (pieces : List Piece) (clean : Clean pieces) (absent : .quote (text key) ∉ pieces) :
    findText (quoted key) (render pieces) = none := by
  induction pieces with
  | nil => exact find_text_nil key
  | cons piece rest ih =>
      obtain ⟨other, later⟩ := not_or.mp (mt List.mem_cons.mpr absent)
      cases piece with
      | plain bytes => rw [render_cons, Piece.render, find_text_plain key _ _ clean.1, ih clean.2 later, Option.map_none]
      | quote bytes =>
          have different : bytes ≠ text key := fun same => other (congrArg Piece.quote same).symm
          rw [render_cons, Piece.render, List.cons_append, List.append_assoc, List.singleton_append,
            find_text_other key word bytes _ clean.1 different clean.2.1, ih clean.2.2 later, Option.map_none]

end Searching

end MmorpgSimulator
