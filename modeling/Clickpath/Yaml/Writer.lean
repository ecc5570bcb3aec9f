import Clickpath.Datum.Display
import Clickpath.Yaml.Cursor
import Clickpath.Yaml.Tag

/-! # Writing YAML

A datum is written in block style, one entry or item to a line. A text is written plain if that
reads back as the text, else between single marks, and between double marks if it holds what only an
escape can write. Long texts are folded at single spaces once a line is wider than the page.
-/

namespace Clickpath.Yaml

/-- The width beyond which a line is folded. -/
def pageWidth : Nat := 80

/-! ## What a text allows -/

def isTextBreak (c : Char) : Bool :=
  c == '\n' || c.toNat == 0x85 || c.toNat == 0x2028 || c.toNat == 0x2029

/-- A character that stands for itself outside double marks. -/
def isVisible (c : Char) : Bool :=
  let code := c.toNat
  (0x20 ≤ code && code ≤ 0x7E) || code == 0x85 || (0xA0 ≤ code && code ≤ 0xD7FF)
    || (0xE000 ≤ code && code ≤ 0xFFFD && code != 0xFEFF) || (0x10000 ≤ code && code < 0x10FFFF)

/-- A character with which a plain text does not start. -/
def isLeadingMark (c : Char) : Bool := "#,[]\x7b\x7d&*!|>'\x22%@`".toList.contains c

/-- A mark inside a text: a colon before a blank, or a number sign after one. -/
def hasInnerMark : Bool → List Char → Bool
  | _, [] => false
  | afterBlank, c :: rest =>
    (c == ':' && isBlankOrEnd rest.head?) || (c == '#' && afterBlank)
      || hasInnerMark (isBlankOrEnd (some c)) rest

def hasMarks (s : List Char) : Bool :=
  match s with
  | [] => false
  | c :: rest =>
    Chars.after? "---".toList s != none || Chars.after? "...".toList s != none
      || isLeadingMark c || ((c == '?' || c == ':' || c == '-') && isBlankOrEnd rest.head?)
      || hasInnerMark (isBlankOrEnd (some c)) rest

/-- Two characters of the given sorts stand next to each other. -/
def hasNeighbours (p q : Char → Bool) : List Char → Bool
  | a :: b :: rest => (p a && q b) || hasNeighbours p q (b :: rest)
  | _ => false

/-- The text holds a character that only an escape can write, or a space in front of a line end. -/
def needsEscapes (s : List Char) : Bool :=
  (s.any fun c => c != '\n' && !isVisible c) || hasNeighbours (· == ' ') isTextBreak s

/-- A space stands behind a line end, where it would be taken for indentation. -/
def hasIndentedLine (s : List Char) : Bool := hasNeighbours isTextBreak (· == ' ') s

inductive Style where
  | plain
  | single
  | double
  deriving DecidableEq, Repr

def hasOuterSpace (s : List Char) : Bool := s.head? == some ' ' || s.getLast? == some ' '

def styleOf (s : List Char) : Style :=
  if needsEscapes s || hasIndentedLine s then .double
  else if Tag.ofPlain s != .str || hasOuterSpace s || s.any isTextBreak || hasMarks s then .single
  else .plain

/-! ## Scalars -/

def newLine (indent : Nat) : List Char := '\n' :: List.replicate indent ' '

/-- A part of a text: spaces, line ends, or other characters. -/
inductive Run where
  | spaces (count : Nat)
  | breaks (ends : List Char)
  | word (text : List Char)
  deriving DecidableEq, Repr

/-- A character put in front of the parts of a text. -/
def consRun (c : Char) (runs : List Run) : List Run :=
  if c == ' ' then match runs with
    | .spaces n :: rest => .spaces (n + 1) :: rest
    | rest => .spaces 1 :: rest
  else if isTextBreak c then match runs with
    | .breaks ends :: rest => .breaks (c :: ends) :: rest
    | rest => .breaks [c] :: rest
  else match runs with
    | .word text :: rest => .word (c :: text) :: rest
    | rest => .word [c] :: rest

def runsOf (s : List Char) : List Run := s.foldr consRun []

/-- The characters of a word between single marks. -/
def doubledMarks (s : List Char) : List Char :=
  s.flatMap fun c => if c == '\'' then ['\'', '\''] else [c]

/-- Line ends within a text: one more than there are, unless the first is a separator. -/
def writeBreaks (indent : Nat) (ends : List Char) : List Char :=
  (if ends.head? == some '\n' then ['\n'] else []) ++ ends ++ List.replicate indent ' '

/-- The parts of a text from a column on; the first and the last part are not folded. -/
def writeRuns (indent : Nat) : Bool → Nat → List Run → List Char
  | _, _, [] => []
  | first, column, .spaces count :: rest =>
    if count == 1 && column > pageWidth && !first && !rest.isEmpty then
      newLine indent ++ writeRuns indent false indent rest
    else List.replicate count ' ' ++ writeRuns indent false (column + count) rest
  | _, _, .breaks ends :: rest => writeBreaks indent ends ++ writeRuns indent false indent rest
  | _, column, .word text :: rest =>
    let written := doubledMarks text
    written ++ writeRuns indent false (column + written.length) rest

/-- A text between single marks, from the column of the first mark on. -/
def writeSingle (indent column : Nat) (s : List Char) : List Char :=
  '\'' :: writeRuns indent true (column + 1) (runsOf s) ++ ['\'']

def writePlain (indent column : Nat) (runs : List Run) : List Char :=
  match runs with
  | [] => []
  | .spaces count :: rest =>
    if count == 1 && column > pageWidth then newLine indent ++ writePlain indent indent rest
    else List.replicate count ' ' ++ writePlain indent (column + count) rest
  | .breaks ends :: rest => ends ++ writePlain indent indent rest
  | .word text :: rest => text ++ writePlain indent (column + text.length) rest

/-- The letters that stand for characters after a backslash. -/
def escapeLetters : List (Nat × Char) :=
  [(0x00, '0'), (0x07, 'a'), (0x08, 'b'), (0x09, 't'), (0x0A, 'n'), (0x0B, 'v'), (0x0C, 'f'),
   (0x0D, 'r'), (0x1B, 'e'), (0x22, '\x22'), (0x5C, '\\'), (0x85, 'N'), (0xA0, '_'), (0x2028, 'L'),
   (0x2029, 'P')]

def capitalHex (width code : Nat) : List Char :=
  (Chars.hexDigits width code).map fun c => if 'a' ≤ c then Char.ofNat (c.toNat - 32) else c

/-- A character stands for itself between double marks. -/
def isDirect (c : Char) : Bool :=
  let code := c.toNat
  c != '\x22' && c != '\\' && code != 0xFEFF && code != 0x2028 && code != 0x2029 &&
    ((0x20 ≤ code && code ≤ 0x7E) || (0xA0 ≤ code && code ≤ 0xD7FF)
      || (0xE000 ≤ code && code ≤ 0xFFFD))

def escapeOf : Glyph → List Char
  | .char c =>
    match escapeLetters.lookup c.toNat with
    | some letter => ['\\', letter]
    | none =>
      if c.toNat ≤ 0xFF then '\\' :: 'x' :: capitalHex 2 c.toNat
      else if c.toNat ≤ 0xFFFF then '\\' :: 'u' :: capitalHex 4 c.toNat
      else '\\' :: 'U' :: capitalHex 8 c.toNat
  | .half h => '\\' :: 'u' :: capitalHex 4 h.unit

/-- Ends a line inside double marks. A space at the start of the next line is marked. -/
def foldDouble (indent : Nat) (next : Option Glyph) : List Char × Nat :=
  if next == some (.char ' ') then ('\\' :: newLine indent ++ ['\\'], indent + 1)
  else ('\\' :: newLine indent, indent)

/-- The characters between double marks from a column on. A line can be folded in front of a space,
behind an escape, and in front of what follows an escape, but not at the first or last character. -/
def writeEscaped (indent : Nat) : Bool → Bool → Nat → List Glyph → List Char
  | _, _, _, [] => []
  | first, afterEscape, column, g :: rest =>
    let inner := !first && !rest.isEmpty
    if g.is isDirect then
      if inner && (g == .char ' ' || afterEscape) && column > pageWidth then
        let (fold, column) := foldDouble indent (some g)
        fold ++ g.shown :: writeEscaped indent false false (column + 1) rest
      else g.shown :: writeEscaped indent false false (column + 1) rest
    else
      let written := escapeOf g
      let column := column + written.length
      if inner && column > pageWidth + 1 then
        let (fold, column) := foldDouble indent rest.head?
        written ++ fold ++ writeEscaped indent false true column rest
      else written ++ writeEscaped indent false true column rest

def writeDouble (indent column : Nat) (s : List Glyph) : List Char :=
  '\x22' :: writeEscaped indent true false (column + 1) s ++ ['\x22']

def writeText (indent column : Nat) (s : List Char) : List Char :=
  match styleOf s with
  | .plain => writePlain indent column (runsOf s)
  | .single => writeSingle indent column s
  | .double => writeDouble indent column (glyphsOf s)

def writeScalar : Datum → List Char
  | .null => "null".toList
  | .bool b => (if b then "true" else "false").toList
  | d => d.display.toList

/-! ## Blocks -/

mutual

/-- A datum behind the mark of its entry, from a column on. What it holds is indented. -/
def writeValue (indent column : Nat) : Datum → List Char
  | .list [] => " []".toList
  | .map [] => " \x7b\x7d".toList
  | .list (item :: items) => newLine indent ++ writeItem indent item ++ writeItems indent items
  | .map (entry :: entries) =>
    newLine (indent + 2) ++ writeEntry (indent + 2) entry ++ writeEntries (indent + 2) entries
  | .text s => ' ' :: writeText (indent + 2) (column + 1) s.toList
  | .torn t => ' ' :: writeDouble (indent + 2) (column + 1) t.val.glyphs
  | d => ' ' :: writeScalar d

def writeItem (indent : Nat) : Datum → List Char
  | .list [] => "- []".toList
  | .map [] => "- \x7b\x7d".toList
  | .list (item :: items) =>
    '-' :: ' ' :: writeItem (indent + 2) item ++ writeItems (indent + 2) items
  | .map (entry :: entries) =>
    '-' :: ' ' :: writeEntry (indent + 2) entry ++ writeEntries (indent + 2) entries
  | .text s => '-' :: ' ' :: writeText (indent + 2) (indent + 2) s.toList
  | .torn t => '-' :: ' ' :: writeDouble (indent + 2) (indent + 2) t.val.glyphs
  | d => '-' :: ' ' :: writeScalar d

def writeItems (indent : Nat) : List Datum → List Char
  | [] => []
  | item :: items => newLine indent ++ writeItem indent item ++ writeItems indent items

def writeEntry (indent : Nat) : Datum × Datum → List Char
  | (key, value) =>
    let name := key.display.toList
    name ++ ':' :: writeValue indent (indent + name.length + 1) value

def writeEntries (indent : Nat) : List (Datum × Datum) → List Char
  | [] => []
  | entry :: entries => newLine indent ++ writeEntry indent entry ++ writeEntries indent entries

end

def write : Datum → List Char
  | .map (entry :: entries) => writeEntry 0 entry ++ writeEntries 0 entries ++ ['\n']
  | d => (writeValue 0 0 d).drop 1 ++ ['\n']

end Clickpath.Yaml
