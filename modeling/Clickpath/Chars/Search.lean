/-! # Search within a text

Finding, cutting and replacing parts of a text, always at the leftmost place first.
-/

namespace Clickpath.Chars

/-- The text after the leading part `lead`, if it starts with it. -/
def after? {α : Type} [BEq α] : List α → List α → Option (List α)
  | [], s => some s
  | _ :: _, [] => none
  | a :: lead, b :: s => if a == b then after? lead s else none

/-- The text before the first occurrence of `needle` and the text after it. -/
def breakOn? (needle : List Char) : List Char → Option (List Char × List Char)
  | [] => if needle.isEmpty then some ([], []) else none
  | c :: rest =>
    match after? needle (c :: rest) with
    | some after => some ([], after)
    | none => (breakOn? needle rest).map fun (before, after) => (c :: before, after)

def contains (needle s : List Char) : Bool := (breakOn? needle s).isSome

/-- The parts between the occurrences of a character; there is one more part than occurrences. -/
def splitOn (separator : Char) : List Char → List (List Char)
  | [] => [[]]
  | c :: rest =>
    if c == separator then [] :: splitOn separator rest
    else match splitOn separator rest with
      | [] => [[c]]
      | part :: parts => (c :: part) :: parts

/-- The part after the last occurrence of a character, and all before it with the character. -/
def splitAtLast (separator : Char) (s : List Char) : List Char × List Char :=
  let tail := (s.reverse.takeWhile (· != separator)).reverse
  (s.take (s.length - tail.length), tail)

/-- Every occurrence of the two characters `first`, `second` in a row, from the left, becomes
`replacement`. -/
def replacePair (first second replacement : Char) : List Char → List Char
  | [] => []
  | [c] => [c]
  | a :: b :: rest =>
    if a == first && b == second then replacement :: replacePair first second replacement rest
    else a :: replacePair first second replacement (b :: rest)

end Clickpath.Chars
