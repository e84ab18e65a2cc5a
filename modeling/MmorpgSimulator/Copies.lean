import MmorpgSimulator.Shop
import MmorpgSimulator.Rosters

set_option autoImplicit false

namespace MmorpgSimulator

section Sites

-- strcpy_s of a string constant, strncpy_s with a count, strcpy_s of any text.
inductive Copied where
  | constant (message : String)
  | counted (count : Nat)
  | whole
deriving DecidableEq, Repr

structure CopySite where
  room : Nat
  copied : Copied
deriving DecidableEq, Repr

def CopySite.Fits (site : CopySite) (source : Bytes) : Prop :=
  match site.copied with
  | .constant message => strcpyFits site.room (text message) = true
  | .counted count => strncpyFits site.room source count = true
  | .whole => strcpyFits site.room source = true

def CopySite.Roomy (site : CopySite) : Prop :=
  match site.copied with
  | .constant message => strcpyFits site.room (text message) = true
  | .counted count => count < site.room
  | .whole => False

instance (site : CopySite) : Decidable site.Roomy :=
  match site with
  | ⟨room, .constant message⟩ => inferInstanceAs (Decidable (strcpyFits room (text message) = true))
  | ⟨room, .counted count⟩ => inferInstanceAs (Decidable (count < room))
  | ⟨_, .whole⟩ => inferInstanceAs (Decidable False)

theorem CopySite.Roomy.fits {site : CopySite} (roomy : site.Roomy) (source : Bytes) : site.Fits source := by
  obtain ⟨room, copied⟩ := site
  cases copied with
  | constant message => exact roomy
  | counted count => exact decide_eq_true (Nat.lt_of_le_of_lt (Nat.min_le_right source.length count) roomy)
  | whole => exact absurd roomy id

end Sites

def Unharmed (s t : ServerState) : Prop := t.fault = some .invalidParameter → s.fault = some .invalidParameter

namespace Unharmed

variable {s t u : ServerState}

theorem refl (s : ServerState) : Unharmed s s := id

theorem trans (first : Unharmed s t) (second : Unharmed t u) : Unharmed s u := fun harmed => first (second harmed)

theorem fold {Item : Type} (act : ServerState → Item → ServerState) (same : ∀ t item, Unharmed t (act t item)) (items : List Item)
    (h : Unharmed s t) : Unharmed s (items.foldl act t) :=
  Machine.foldl_keeps act (Unharmed s) (fun t item before => before.trans (same t item)) items t h

theorem ite {condition : Prop} [Decidable condition] (yes : condition → Unharmed s t) (no : ¬ condition → Unharmed s u) :
    Unharmed s (if condition then t else u) := by
  split
  · exact yes ‹_›
  · exact no ‹_›

end Unharmed

section Handlers

variable (data : GameData) (s : ServerState) (sid : SessionId)

end Handlers

section Listing

variable (data : GameData) (s : ServerState) (sid : SessionId)

end Listing

section Runs

variable (data : GameData)

end Runs

end MmorpgSimulator
