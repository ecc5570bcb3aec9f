import Clickpath.Chars.Case

/-! # Words in any letter case

Fixed words are recognised in any letter case. Four letters of Unicode count as further forms of
three small letters of ASCII.
-/

namespace Clickpath.Chars

/-- The forms of small letters that lie beyond ASCII. -/
def furtherForms : List (Char × Nat) := [('i', 0x130), ('i', 0x131), ('s', 0x17F), ('k', 0x212A)]

/-- A character is the given small letter in one of its forms. -/
def sameLetter (letter c : Char) : Bool :=
  c == letter || asciiLower c == letter || furtherForms.contains (letter, c.toNat)

/-- The text after a word in any letter case. The word is given in small letters. -/
def afterWord? : List Char → List Char → Option (List Char)
  | [], s => some s
  | _ :: _, [] => none
  | letter :: word, c :: s => if sameLetter letter c then afterWord? word s else none

end Clickpath.Chars
