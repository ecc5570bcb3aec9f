import Clickpath.Chars.Digit

/-! # Places in a YAML text

A place is the text that is left with the line, column and offset at which it starts. Indentation is
measured in columns. Lines end at the line feed, the carriage return, both together, the next-line
control and the two separators of Unicode.
-/

namespace Clickpath.Yaml

/-- A character that ends a line. -/
def isBreak (c : Char) : Bool :=
  c == '\n' || c == '\r' || c.toNat == 0x85 || c.toNat == 0x2028 || c.toNat == 0x2029

def isSpaceOrTab (c : Char) : Bool := c == ' ' || c == '\t'

/-- A character that a text may hold. -/
def isAllowed (c : Char) : Bool :=
  let code := c.toNat
  code == 0x09 || code == 0x0A || code == 0x0D || (0x20 ≤ code && code ≤ 0x7E) || code == 0x85
    || (0xA0 ≤ code && code ≤ 0xD7FF) || (0xE000 ≤ code && code ≤ 0xFFFD) || 0x10000 ≤ code

def isByteOrderMark (c : Char) : Bool := c.toNat == 0xFEFF

/-- A line is over: at a line end or at the end of the text. -/
def endsLine : Option Char → Bool
  | none => true
  | some c => isBreak c

def isSpaceOrEnd (c : Option Char) : Bool := c == some ' ' || endsLine c

def isBlankOrEnd (c : Option Char) : Bool := c == some '\t' || isSpaceOrEnd c

structure Cursor where
  rest : List Char
  index : Nat
  line : Nat
  column : Nat

namespace Cursor

def start (text : List Char) : Cursor := ⟨text, 0, 0, 0⟩

def peek (c : Cursor) : Option Char := c.rest.head?

def peekAt (c : Cursor) (n : Nat) : Option Char := c.rest[n]?

def next (c : Cursor) : Cursor :=
  match c.rest with
  | [] => c
  | ch :: rest =>
    if isBreak ch && !(ch == '\r' && rest.head? == some '\n') then
      ⟨rest, c.index + 1, c.line + 1, 0⟩
    else if isByteOrderMark ch then ⟨rest, c.index + 1, c.line, c.column⟩
    else ⟨rest, c.index + 1, c.line, c.column + 1⟩

def skip (c : Cursor) : Nat → Cursor
  | 0 => c
  | n + 1 => c.next.skip n

/-- The characters of a sort at a place, and the place behind them. -/
def takeWhile (c : Cursor) (p : Char → Bool) : List Char × Cursor :=
  let taken := c.rest.takeWhile p
  (taken, c.skip taken.length)

def skipSpaces (c : Cursor) : Cursor := (c.takeWhile (· == ' ')).2

/-- The place behind spaces, up to a column. -/
def skipIndentation (c : Cursor) (limit : Nat) : Cursor :=
  c.skip ((c.rest.takeWhile (· == ' ')).length.min (limit - c.column))

/-- The line end at a place and the place behind it. All line ends but the two separators count as a
line feed. -/
def lineBreak? (c : Cursor) : Option (Char × Cursor) :=
  match c.rest with
  | '\r' :: '\n' :: _ => some ('\n', c.skip 2)
  | ch :: _ =>
    if isBreak ch then some (if ch.toNat == 0x2028 || ch.toNat == 0x2029 then ch else '\n', c.next)
    else none
  | [] => none

def restOfLine (c : Cursor) : List Char × Cursor := c.takeWhile (!isBreak ·)

def atBorder (c : Cursor) : Bool :=
  match c.rest with
  | '-' :: '-' :: '-' :: _ => isBlankOrEnd (c.peekAt 3)
  | '.' :: '.' :: '.' :: _ => isBlankOrEnd (c.peekAt 3)
  | _ => false

end Cursor

end Clickpath.Yaml
