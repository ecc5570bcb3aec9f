/-! # Blank characters

Blank characters separate words and are trimmed from the ends of a text. The class holds the ASCII
blanks, the four information separators, the next-line control and the separators of Unicode; the
zero-width space is not in it.
-/

namespace Clickpath.Chars

def blankRanges : List (Nat × Nat) :=
  [(0x09, 0x0D), (0x1C, 0x20), (0x85, 0x85), (0xA0, 0xA0), (0x1680, 0x1680), (0x2000, 0x200A),
   (0x2028, 0x2029), (0x202F, 0x202F), (0x205F, 0x205F), (0x3000, 0x3000)]

def isBlank (c : Char) : Bool :=
  blankRanges.any fun range => range.1 ≤ c.toNat && c.toNat ≤ range.2

def trimStart (s : List Char) : List Char := s.dropWhile isBlank

def trimEnd (s : List Char) : List Char := (s.reverse.dropWhile isBlank).reverse

def trim (s : List Char) : List Char := trimEnd (trimStart s)

/-! ## Rows of any signs -/

section

variable {α : Type} (blank : α → Bool)

def stripStart (s : List α) : List α := s.dropWhile blank

def stripEnd (s : List α) : List α := (s.reverse.dropWhile blank).reverse

def strip (s : List α) : List α := stripEnd blank (stripStart blank s)

/-- Puts a sign in front of the first word, which it extends. -/
def consWord (a : α) : List (List α) → List (List α)
  | [] => [[a]]
  | word :: words => (a :: word) :: words

/-- The pieces between blanks; a run of blanks leaves empty pieces. -/
def pieces : List α → List (List α)
  | [] => [[]]
  | a :: rest => if blank a then [] :: pieces rest else consWord a (pieces rest)

/-- The words of a row: its longest parts without blanks, in order. -/
def words (s : List α) : List (List α) := (pieces blank s).filter (!·.isEmpty)

end

end Clickpath.Chars
