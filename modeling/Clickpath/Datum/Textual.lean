import Clickpath.Datum.Display

/-! # Texts of records

The texts of a record are read into strings, or into loose texts where it matters that a text may be
torn. A string shows the replacement character for what no string can hold; a loose text is exactly
the text that was read.
-/

namespace Clickpath

namespace Datum

@[simp]
theorem ofLoose_ofString (s : String) : ofLoose (.ofString s) = text s := by
  rw [ofLoose, dif_pos (Loose.isWhole_ofString s), Loose.shown_ofString]

@[simp]
theorem ofLoose_torn (t : Torn) : ofLoose t.val = torn t :=
  dif_neg (Bool.eq_false_iff.mp t.property)

end Datum

/-- A type that the texts of records are read into. -/
class Textual (τ : Type) where
  /-- A whole text. -/
  ofString : String → τ
  /-- A torn text. -/
  ofTorn : Torn → τ
  /-- The stored form of a text. -/
  toDatum : τ → Datum
  /-- What was stored of a text is read as this text. -/
  reads (t : τ) : (∃ s, toDatum t = .text s ∧ ofString s = t) ∨
    ∃ u, toDatum t = .torn u ∧ ofTorn u = t
  toDatum_ofString (s : String) : toDatum (ofString s) = .text s

@[default_instance]
instance : Textual String where
  ofString s := s
  ofTorn t := t.val.shown
  toDatum := .text
  reads s := .inl ⟨s, rfl, rfl⟩
  toDatum_ofString _ := rfl

instance : Textual Loose where
  ofString := .ofString
  ofTorn t := t.val
  toDatum := .ofLoose
  reads l := by
    unfold Datum.ofLoose
    split
    next h => exact .inl ⟨_, rfl, Loose.ofString_shown h⟩
    next h => exact .inr ⟨_, rfl, rfl⟩
  toDatum_ofString := Datum.ofLoose_ofString

namespace Textual

attribute [simp] toDatum_ofString

def string? [Textual τ] (t : τ) : Option String := (toDatum t).string?

/-- The text with the replacement character in the place of every half. -/
def shown [Textual τ] (t : τ) : String := (toDatum t).display

@[simp] theorem ofString_string (s : String) : (ofString s : String) = s := rfl

@[simp] theorem toDatum_string (s : String) : toDatum s = .text s := rfl

@[simp] theorem string?_string (s : String) : string? s = some s := rfl

@[simp] theorem shown_string (s : String) : shown s = s := rfl

@[simp] theorem ofString_loose (s : String) : (ofString s : Loose) = .ofString s := rfl

@[simp] theorem toDatum_loose (l : Loose) : toDatum l = .ofLoose l := rfl

end Textual

end Clickpath
