import Clickpath.Markup.CharacterName

/-! # Character references

A reference stands for a character by its number or its name. A number that denotes no character of
a text is mended or dropped, and a name may be followed directly by other characters if it is one of
those that need no semicolon.
-/

namespace Clickpath.Markup

/-- The characters that the numbers from 0x80 to 0x9F stand for. -/
def windowsCodes : List Nat :=
  [0x20AC, 0x81, 0x201A, 0x192, 0x201E, 0x2026, 0x2020, 0x2021, 0x2C6, 0x2030, 0x160, 0x2039, 0x152,
   0x8D, 0x17D, 0x8F, 0x90, 0x2018, 0x2019, 0x201C, 0x201D, 0x2022, 0x2013, 0x2014, 0x2DC, 0x2122,
   0x161, 0x203A, 0x153, 0x9D, 0x17E, 0x178]

def isDropped (code : Nat) : Bool :=
  (0x1 ≤ code && code ≤ 0x8) || code == 0xB || (0xE ≤ code && code ≤ 0x1F) || code == 0x7F
    || (0xFDD0 ≤ code && code ≤ 0xFDEF) || code % 0x10000 ≥ 0xFFFE

/-- The characters that a number stands for. -/
def numberedCharacters (code : Nat) : List Char :=
  if code == 0 then [Char.ofNat 0xFFFD]
  else if 0x80 ≤ code && code ≤ 0x9F then [Char.ofNat (windowsCodes.getD (code - 0x80) code)]
  else if (0xD800 ≤ code && code ≤ 0xDFFF) || code > 0x10FFFF then [Char.ofNat 0xFFFD]
  else if isDropped code then []
  else [Char.ofNat code]

/-- A reference: the characters that it stands for, and how many characters it has after its
ampersand. -/
structure Reference where
  characters : List Char
  size : Nat

/-- One if a semicolon follows, which then belongs to the reference. -/
def semicolonSize : List Char → Nat
  | ';' :: _ => 1
  | _ => 0

/-- The reference by number after an ampersand and a number sign. -/
def numberReference? (s : List Char) : Option Reference :=
  match s with
  | c :: rest =>
    if c == 'x' || c == 'X' then
      let digits := rest.takeWhile Chars.isHexDigit
      if digits.isEmpty then none
      else some ⟨numberedCharacters (Chars.hexNumber digits),
        2 + digits.length + semicolonSize (rest.drop digits.length)⟩
    else
      let digits := s.takeWhile Chars.isAsciiDigit
      if digits.isEmpty then none
      else some ⟨numberedCharacters (Chars.decimalNumber digits),
        1 + digits.length + semicolonSize (s.drop digits.length)⟩
  | [] => none

def isNameChar (c : Char) : Bool :=
  !(c == '\t' || c == '\n' || c.toNat == 0x0C || c == ' ' || c == '<' || c == '&' || c == '#'
    || c == ';')

/-- The longest start of a word, up to a length, that is a name without a semicolon. -/
def startReference? (word : List Char) : Nat → Option Reference
  | 0 => none
  | n + 1 =>
    match shortNamedCharacters? (word.take (n + 1)) with
    | some characters => some ⟨characters, n + 1⟩
    | none => startReference? word n

/-- The reference by name after an ampersand. -/
def nameReference? (s : List Char) : Option Reference :=
  let word := (s.takeWhile isNameChar).take 32
  match s.drop word.length, namedCharacters? word with
  | ';' :: _, some characters => some ⟨characters, word.length + 1⟩
  | _, _ => startReference? word word.length

/-- The reference after an ampersand. -/
def reference? : List Char → Option Reference
  | '#' :: rest => numberReference? rest
  | s => nameReference? s

def resolveAfter : Nat → List Char → List Char
  | _, [] => []
  | skipped + 1, _ :: rest => resolveAfter skipped rest
  | 0, '&' :: rest =>
    match reference? rest with
    | some r => r.characters ++ resolveAfter r.size rest
    | none => '&' :: resolveAfter 0 rest
  | 0, c :: rest => c :: resolveAfter 0 rest

/-- A text with its references replaced. -/
def resolve (s : List Char) : List Char := resolveAfter 0 s

end Clickpath.Markup
