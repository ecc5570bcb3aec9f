import Clickpath.Chars.Blank
import Clickpath.Chars.Case
import Clickpath.Chars.Digit
import Clickpath.Chars.Lines
import Clickpath.Chars.Printable
import Clickpath.Chars.Search
import Clickpath.Chars.Word

/-! # Texts

The operations on characters, as operations on strings.
-/

namespace Clickpath.Text

def isBlank (s : String) : Bool := s.toList.all Chars.isBlank

def trim (s : String) : String := String.ofList (Chars.trim s.toList)

def lower (s : String) : String := String.ofList (Chars.lower s.toList)

def upper (s : String) : String := String.ofList (Chars.upper s.toList)

def words (s : String) : List String := (Chars.words Chars.isBlank s.toList).map String.ofList

/-- The words of the text with one space between them. -/
def collapseBlanks (s : String) : String := " ".intercalate (words s)

def contains (s needle : String) : Bool := Chars.contains needle.toList s.toList

def nonempty? (s : String) : Option String := if s.isEmpty then none else some s

theorem nonempty?_eq_some_iff {s value : String} :
    nonempty? s = some value ↔ s = value ∧ value ≠ "" := by
  rw [nonempty?]
  split
  next hempty =>
    refine iff_of_false (fun h => by cases h) ?_
    rintro ⟨rfl, hne⟩
    exact hne (String.isEmpty_iff.mp hempty)
  next hfilled =>
    constructor
    · intro h
      obtain rfl := Option.some.inj h
      exact ⟨rfl, fun hempty => hfilled (String.isEmpty_iff.mpr hempty)⟩
    · rintro ⟨rfl, _⟩
      rfl

end Clickpath.Text
