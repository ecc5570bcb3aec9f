import Clickpath.Text.Loose
import Clickpath.Yaml.Cursor
import Clickpath.Yaml.Fault

/-! # Scalars

A scalar is a text in one of five styles: plain, between single or double marks, or as a block that
keeps or folds its lines. Where lines are folded, one line end becomes a space and of several the
first is left out. An escape between double marks may stand for half of a pair of code units, and
two of them are never put together.
-/

namespace Clickpath.Yaml

/-- A scalar's text and the place behind it. -/
abbrev Scanned := Except Fault (List Char × Cursor)

/-- A text that may be torn, and the place behind it. -/
abbrev ScannedLoosely := Except Fault (List Glyph × Cursor)

/-- The line ends at a place and the spaces before each of them, up to a column. -/
def blankLines (limit : Nat) : Nat → Cursor → List Char × Cursor
  | 0, c => ([], c)
  | fuel + 1, c =>
    let c := c.skipIndentation limit
    match c.lineBreak? with
    | some (ch, c) =>
      let (more, c) := blankLines limit fuel c
      (ch :: more, c)
    | none => ([], c)

/-- What folding makes of a line end and the line ends behind it. -/
def folded (first : Char) (more : List Char) : List Char :=
  if first != '\n' then first :: more else if more.isEmpty then [' '] else more

/-! ## Blocks -/

/-- What becomes of the line ends at the end of a block. -/
inductive Chomping where
  | clip
  | strip
  | keep
  deriving DecidableEq, Repr

/-- The sign for the line ends at the end of a block. -/
def chomping? : Option Char → Option Chomping
  | some '+' => some .keep
  | some '-' => some .strip
  | _ => none

/-- The indentation that a block states, as a digit from one to nine. -/
def statedIndent? (c : Option Char) : Option Nat :=
  match c with
  | some ch => if Chars.isAsciiDigit ch then some (Chars.digitValue ch) else none
  | none => none

/-- The header of a block: its chomping and its stated indentation, in either order. -/
def blockHeader (c : Cursor) : Except Fault ((Chomping × Option Nat) × Cursor) :=
  let (chomping, indent, c) := match chomping? c.peek, statedIndent? c.peek with
    | some chomping, _ =>
      match statedIndent? c.next.peek with
      | some n => (chomping, some n, c.skip 2)
      | none => (chomping, none, c.next)
    | none, some n =>
      match chomping? c.next.peek with
      | some chomping => (chomping, some n, c.skip 2)
      | none => (.clip, some n, c.next)
    | none, none => (.clip, none, c)
  if indent = some 0 || !isSpaceOrEnd c.peek then .error .malformed
  else .ok ((chomping, indent), c)

/-- The end of a line with nothing but spaces and a comment left on it, and the place behind it. -/
def ignoredLine (c : Cursor) : Except Fault Cursor :=
  let c := c.skipSpaces
  let c := if c.peek == some '#' then c.restOfLine.2 else c
  if endsLine c.peek then .ok ((c.lineBreak?.map (·.2)).getD c) else .error .malformed

/-- The blank lines in front of a block, and the deepest column that they reach. -/
def deepestIndent : Nat → Nat → Cursor → (List Char × Nat) × Cursor
  | 0, deepest, c => (([], deepest), c)
  | fuel + 1, deepest, c =>
    match c.lineBreak? with
    | some (ch, c) =>
      let ((more, deepest), c) := deepestIndent fuel deepest c
      ((ch :: more, deepest), c)
    | none =>
      if c.peek == some ' ' then deepestIndent fuel (deepest.max c.next.column) c.next
      else (([], deepest), c)

/-- A line that starts with a space or a tab is not folded. -/
def startsText (c : Cursor) : Bool := !(c.peek.any isSpaceOrTab)

/-- The lines of a block, given the blank lines before the place. The result has the text up to the
last line, that line's end, and the blank lines behind it. -/
def blockLines (fold : Bool) (indent : Nat) :
    Nat → List Char → Cursor → (List Char × List Char × List Char) × Cursor
  | 0, blanks, c => (([], [], blanks), c)
  | fuel + 1, blanks, c =>
    let leading := startsText c
    let (line, c) := c.restOfLine
    let (ending, c) := match c.lineBreak? with
      | some (ch, c) => ([ch], c)
      | none => ([], c)
    let (more, c) := blankLines indent (c.rest.length + 1) c
    if c.column == indent && c.peek.isSome then
      let joint :=
        if fold && ending == ['\n'] && leading && startsText c then
          if more.isEmpty then [' '] else []
        else ending
      let ((text, last, rest), c) := blockLines fold indent fuel more c
      ((blanks ++ line ++ joint ++ text, last, rest), c)
    else ((blanks ++ line, ending, more), c)

/-- A block after its mark, within a given indentation. -/
def blockScalar (fold : Bool) (parent : Int) (c : Cursor) : Scanned := do
  let ((chomping, stated), c) ← blockHeader c
  let c ← ignoredLine c
  let least := (parent + 1).toNat.max 1
  let size := c.rest.length + 1
  let ((blanks, indent), c) : (List Char × Nat) × Cursor := match stated with
    | none =>
      let ((blanks, deepest), c) := deepestIndent size 0 c
      ((blanks, least.max deepest), c)
    | some n =>
      let indent := least + n - 1
      let (blanks, c) := blankLines indent size c
      ((blanks, indent), c)
  let ((text, ending, trailing), c) : (List Char × List Char × List Char) × Cursor :=
    if c.column == indent && c.peek.isSome then blockLines fold indent size blanks c
    else (([], [], blanks), c)
  .ok (match chomping with
    | .strip => text
    | .clip => text ++ ending
    | .keep => text ++ ending ++ trailing, c)

/-! ## Quoted scalars -/

/-- The line ends and spaces at a place; a border of a document must not stand among them. -/
def quotedBreaks : Nat → Cursor → Scanned
  | 0, c => .ok ([], c)
  | fuel + 1, c =>
    if c.atBorder then .error .malformed
    else
      let (_, c) := c.takeWhile isSpaceOrTab
      match c.lineBreak? with
      | some (ch, c) => do
        let (more, c) ← quotedBreaks fuel c
        .ok (ch :: more, c)
      | none => .ok ([], c)

def escapes : List (Char × Nat) :=
  [('0', 0), ('a', 0x07), ('b', 0x08), ('t', 0x09), ('\t', 0x09), ('n', 0x0A), ('v', 0x0B),
   ('f', 0x0C), ('r', 0x0D), ('e', 0x1B), (' ', 0x20), ('\x22', 0x22), ('\\', 0x5C), ('/', 0x2F),
   ('N', 0x85), ('_', 0xA0), ('L', 0x2028), ('P', 0x2029)]

/-- How many hexadecimal digits follow a letter after a backslash. -/
def codeSizes : List (Char × Nat) := [('x', 2), ('u', 4), ('U', 8)]

def hexCode? (size : Nat) (c : Cursor) : Option Nat :=
  let digits := c.rest.take size
  if digits.length == size && digits.all Chars.isHexDigit then some (Chars.hexNumber digits)
  else none

def glyphOfCode (code : Nat) : Except Fault Glyph :=
  if code ≥ 0x80000000 then .error .codeTooLarge
  else if code > 0x10FFFF then .error .noSuchCharacter
  else .ok (.ofCode code)

/-- An escape after its backslash: what it stands for, and the place behind it. -/
def escape (c : Cursor) : ScannedLoosely :=
  match c.lineBreak? with
  | some (_, c) => do
    let (ends, c) ← quotedBreaks (c.rest.length + 1) c
    .ok (glyphsOf ends, c)
  | none =>
    match c.peek with
    | none => .error .malformed
    | some letter =>
      match escapes.lookup letter, codeSizes.lookup letter with
      | some code, _ => .ok ([.char (Char.ofNat code)], c.next)
      | none, some size =>
        match hexCode? size c.next with
        | some code => do
          let g ← glyphOfCode code
          .ok ([g], c.next.skip size)
        | none => .error .malformed
      | none, none => .error .malformed

/-- The blanks at a place inside a quoted scalar: as they are within a line, folded between
lines. -/
def quotedBlanks (c : Cursor) : Scanned :=
  let (blanks, c) := c.takeWhile isSpaceOrTab
  match c.lineBreak? with
  | some (ch, c) => do
    let (more, c) ← quotedBreaks (c.rest.length + 1) c
    .ok (folded ch more, c)
  | none => if c.peek.isNone then .error .malformed else .ok (blanks, c)

/-- A quoted scalar after its opening mark; the part that was read is reversed. -/
def quotedText (double : Bool) : Nat → List Glyph → Cursor → ScannedLoosely
  | 0, _, _ => .error .malformed
  | fuel + 1, done, c =>
    match c.rest with
    | [] => .error .malformed
    | ch :: rest =>
      if isSpaceOrTab ch || isBreak ch then do
        let (blanks, c) ← quotedBlanks c
        quotedText double fuel ((glyphsOf blanks).reverse ++ done) c
      else if double && ch == '\\' then do
        let (text, c) ← escape c.next
        quotedText double fuel (text.reverse ++ done) c
      else if double && ch == '\x22' then .ok (done.reverse, c.next)
      else if !double && ch == '\'' then
        if rest.head? == some '\'' then quotedText double fuel (.char '\'' :: done) (c.skip 2)
        else .ok (done.reverse, c.next)
      else quotedText double fuel (.char ch :: done) c.next

def quotedScalar (double : Bool) (c : Cursor) : ScannedLoosely :=
  quotedText double (c.rest.length + 1) [] c

/-! ## Plain scalars -/

def isFlowMark (c : Char) : Bool :=
  c == ',' || c == '?' || c == '[' || c == ']' || c == '\x7b' || c == '\x7d'

/-- What may follow a colon that is a mark. -/
def endsColon (inFlow : Bool) (c : Option Char) : Bool :=
  isBlankOrEnd c || (inFlow && c.any fun ch =>
    ch == ',' || ch == '[' || ch == ']' || ch == '\x7b' || ch == '\x7d')

/-- The part of a plain scalar within a line: up to a blank, a colon that is a mark, or a mark
within brackets. -/
def plainPart (inFlow : Bool) : List Char → List Char
  | [] => []
  | ch :: rest =>
    if isSpaceOrTab ch || isBreak ch then []
    else if ch == ':' && endsColon inFlow rest.head? then []
    else if inFlow && isFlowMark ch then []
    else ch :: plainPart inFlow rest

/-- The line ends and spaces at a place, unless a border of a document follows. -/
def plainBreaks : Nat → Cursor → Option (List Char) × Cursor
  | 0, c => (some [], c)
  | fuel + 1, c =>
    if c.peek == some ' ' then plainBreaks fuel c.next
    else match c.lineBreak? with
      | some (ch, c) =>
        if c.atBorder then (none, c)
        else
          let (more, c) := plainBreaks fuel c
          (more.map (ch :: ·), c)
      | none => (some [], c)

/-- What stands between two parts of a plain scalar: nothing if the scalar is over. -/
structure Gap where
  text : List Char
  behind : Cursor
  crossesLine : Bool

def plainGap (c : Cursor) : Gap :=
  let (spaces, c) := c.takeWhile (· == ' ')
  match c.lineBreak? with
  | some (ch, c) =>
    if c.atBorder then ⟨[], c, true⟩
    else match plainBreaks (c.rest.length + 1) c with
      | (some more, c) => ⟨folded ch more, c, true⟩
      | (none, c) => ⟨[], c, true⟩
  | none => ⟨spaces, c, false⟩

/-- A plain scalar: its text, the place behind it, and whether a line ended behind its last part. -/
structure Plain where
  text : List Char
  behind : Cursor
  crossedLine : Bool

/-- The parts of a plain scalar, given the blanks in front of the next one. -/
def plainParts (inFlow : Bool) (indent : Int) : Nat → List Char → Bool → Cursor → Plain
  | 0, _, crossed, c => ⟨[], c, crossed⟩
  | fuel + 1, blanks, crossed, c =>
    let part := if c.peek == some '#' then [] else plainPart inFlow c.rest
    if part.isEmpty then ⟨[], c, crossed⟩
    else
      let gap := plainGap (c.skip part.length)
      let isOver := gap.text.isEmpty || gap.behind.peek == some '#'
        || (!inFlow && (gap.behind.column : Int) < indent)
      if isOver then ⟨blanks ++ part, gap.behind, gap.crossesLine⟩
      else
        let more := plainParts inFlow indent fuel gap.text gap.crossesLine gap.behind
        { more with text := blanks ++ part ++ more.text }

/-- The plain scalar at a place, within a given indentation. -/
def plainScalar (inFlow : Bool) (parent : Int) (c : Cursor) : Plain :=
  plainParts inFlow (parent + 1) (c.rest.length + 1) [] false c

end Clickpath.Yaml
