import Clickpath.Yaml.Mark
import Clickpath.Yaml.Scalar

/-! # Laying out tokens

The tokens of a text are found one after the other. Deeper indentation opens a block and shallower
indentation closes it. A colon can turn what stands before it on the line into a key, so the place
of what can become a key is remembered, and the tokens for the key are put in front of it
afterwards. A fault in the text is met only when a token behind it is asked for.
-/

namespace Clickpath.Yaml

/-- What can still become a key: the number of tokens in front of it, and where it stands. A
required one stands at the indentation of its block, so nothing but a key can stand there. -/
structure SimpleKey where
  tokens : Nat
  required : Bool
  index : Nat
  line : Nat
  column : Nat

/-- The tokens found so far, the last one first, and what is known at a place: the depth of
brackets, the indentation of the open blocks, whether a key may start here, and what can become a
key at each depth of brackets. -/
structure Layout where
  cursor : Cursor
  found : List Token
  count : Nat
  depth : Nat
  indent : Int
  outer : List Int
  keyAllowed : Bool
  keys : List (Nat × SimpleKey)

namespace Layout

def start (text : List Char) : Layout := ⟨.start text, [], 0, 0, -1, [], true, []⟩

def inFlow (l : Layout) : Bool := l.depth != 0

def push (l : Layout) (token : Token) : Layout :=
  { l with found := token :: l.found, count := l.count + 1 }

/-- The layout with tokens put in front of the token with a given number. -/
def insertAt (l : Layout) (number : Nat) (tokens : List Token) : Layout :=
  let after := l.found.take (l.count - number)
  let before := l.found.drop (l.count - number)
  { l with found := after ++ tokens.reverse ++ before, count := l.count + tokens.length }

/-- Closes the blocks that are indented deeper than a column. -/
def closeBlocks (column : Int) : Nat → Layout → Layout
  | 0, l => l
  | fuel + 1, l =>
    if l.inFlow || l.indent ≤ column then l
    else
      closeBlocks column fuel
        { l.push .blockEnd with indent := l.outer.headD (-1), outer := l.outer.tail }

def unwind (l : Layout) (column : Int) : Layout := closeBlocks column (l.outer.length + 1) l

/-- The column is deeper than the innermost block. -/
def opensBlock (l : Layout) (column : Nat) : Bool := l.indent < column

/-- The layout with a block open at a column. -/
def indented (l : Layout) (column : Nat) : Layout :=
  { l with indent := column, outer := l.indent :: l.outer }

/-- Opens a block at a column if it is deeper than the innermost one. -/
def openBlock (l : Layout) (column : Nat) (token : Token) : Layout :=
  if l.opensBlock column then (l.indented column).push token else l

def forgetKey (l : Layout) : Except Fault Layout :=
  match l.keys.lookup l.depth with
  | some key =>
    if key.required then .error .malformed
    else .ok { l with keys := l.keys.filter (·.1 != l.depth) }
  | none => .ok l

/-- Remembers that what comes next can become a key, if a key may start here. -/
def rememberKey (l : Layout) : Except Fault Layout :=
  if l.keyAllowed then do
    let l ← l.forgetKey
    let key : SimpleKey :=
      ⟨l.count, !l.inFlow && l.indent == (l.cursor.column : Int), l.cursor.index,
      l.cursor.line, l.cursor.column⟩
    .ok { l with keys := (l.depth, key) :: l.keys }
  else .ok l

/-- What can become a key can do so no more on another line or after many characters. -/
def isStale (l : Layout) (key : SimpleKey) : Bool :=
  key.line != l.cursor.line || l.cursor.index - key.index > 1024

/-- Forgets what cannot become a key any more. -/
def dropStale (l : Layout) : Except Fault Layout :=
  if l.keys.any fun entry => l.isStale entry.2 && entry.2.required then .error .malformed
  else .ok { l with keys := l.keys.filter fun entry => !l.isStale entry.2 }

/-- Passes over blanks, comments and line ends. A key may start on a new line outside brackets. -/
def skipFiller : Nat → Layout → Layout
  | 0, l => l
  | fuel + 1, l =>
    let c := l.cursor.skipSpaces
    let c := if c.peek == some '#' then c.restOfLine.2 else c
    match c.lineBreak? with
    | some (_, c) =>
      skipFiller fuel { l with cursor := c, keyAllowed := l.keyAllowed || !l.inFlow }
    | none => { l with cursor := c }

def toNextToken (l : Layout) : Layout :=
  let c := l.cursor
  let c := if c.index == 0 && c.peek.any isByteOrderMark then c.next else c
  skipFiller (c.rest.length + 1) { l with cursor := c }

def mark (l : Layout) (token : Token) (size : Nat) : Layout :=
  { l with cursor := l.cursor.skip size }.push token

/-- A directive or a border of a document ends all blocks. -/
def border (l : Layout) : Except Fault Layout := do
  let l ← (l.unwind (-1)).forgetKey
  .ok { l with keyAllowed := false }

def openFlow (l : Layout) (token : Token) : Except Fault Layout := do
  let l ← l.rememberKey
  .ok { l.mark token 1 with depth := l.depth + 1, keyAllowed := true }

def closeFlow (l : Layout) (token : Token) : Except Fault Layout := do
  let l ← l.forgetKey
  if l.inFlow then .ok { l.mark token 1 with depth := l.depth - 1, keyAllowed := false }
  else .error .malformed

def flowEntry (l : Layout) : Except Fault Layout := do
  let l ← { l with keyAllowed := true }.forgetKey
  .ok (l.mark .flowEntry 1)

/-- A hyphen in front of an item. -/
def blockEntry (l : Layout) : Except Fault Layout :=
  if !l.inFlow && !l.keyAllowed then .error .malformed
  else do
    let l := if l.inFlow then l else l.openBlock l.cursor.column .blockSequenceStart
    let l ← { l with keyAllowed := true }.forgetKey
    .ok (l.mark .blockEntry 1)

/-- A question mark in front of a key. -/
def explicitKey (l : Layout) : Except Fault Layout :=
  if !l.inFlow && !l.keyAllowed then .error .malformed
  else do
    let l := if l.inFlow then l else l.openBlock l.cursor.column .blockMappingStart
    let l ← { l with keyAllowed := !l.inFlow }.forgetKey
    .ok (l.mark .key 1)

/-- A colon in front of a value. What can become a key becomes one. -/
def value (l : Layout) : Except Fault Layout :=
  match l.keys.lookup l.depth with
  | some key =>
    let l := { l with keys := l.keys.filter (·.1 != l.depth), keyAllowed := false }
    let opens := !l.inFlow && l.opensBlock key.column
    let l := if opens then l.indented key.column else l
    let l := l.insertAt key.tokens (if opens then [.blockMappingStart, .key] else [.key])
    .ok (l.mark .value 1)
  | none =>
    if !l.inFlow && !l.keyAllowed then .error .malformed
    else do
      let l := if l.inFlow then l else l.openBlock l.cursor.column .blockMappingStart
      let l ← { l with keyAllowed := !l.inFlow }.forgetKey
      .ok (l.mark .value 1)

/-- A token with a content of its own, which can become a key. -/
def content (l : Layout) (read : Cursor → Except Fault (Token × Cursor)) : Except Fault Layout := do
  let l ← l.rememberKey
  let (token, c) ← read l.cursor
  .ok { l.push token with cursor := c, keyAllowed := false }

def named (l : Layout) (token : String → Token) : Except Fault Layout :=
  l.content fun c => do
    let (name, c) ← anchorName c.next
    .ok (token name, c)

def quoted (l : Layout) (double : Bool) : Except Fault Layout :=
  l.content fun c => do
    let (text, c) ← quotedScalar double c.next
    .ok (.scalar ⟨text⟩ false, c)

def block (l : Layout) (fold : Bool) : Except Fault Layout := do
  let l ← { l with keyAllowed := true }.forgetKey
  let (text, c) ← blockScalar fold l.indent l.cursor.next
  .ok { l.push (.scalar ⟨glyphsOf text⟩ false) with cursor := c }

def plain (l : Layout) : Except Fault Layout := do
  let l ← l.rememberKey
  let scalar := plainScalar l.inFlow l.indent l.cursor
  .ok { l.push (.scalar ⟨glyphsOf scalar.text⟩ true) with
    cursor := scalar.behind, keyAllowed := scalar.crossedLine }

/-- A character with which no plain scalar starts. -/
def isMarkChar (c : Char) : Bool := "-?:,[]\x7b\x7d#&*!|>'\x22%@`".toList.contains c

/-- A plain scalar starts with a character that is no mark, or with a hyphen, and outside brackets a
question mark or a colon, that something follows directly. -/
def startsPlain (l : Layout) (ch : Char) : Bool :=
  !(isBlankOrEnd (some ch) || isMarkChar ch)
    || (!isBlankOrEnd (l.cursor.peekAt 1) && (ch == '-' || (!l.inFlow && (ch == '?' || ch == ':'))))

/-- The layout after the token that starts with a character. -/
def token (l : Layout) (ch : Char) : Except Fault Layout :=
  let atStart := l.cursor.column == 0
  let alone := isBlankOrEnd (l.cursor.peekAt 1)
  if ch == '%' && atStart then do
    let l ← l.border
    let (token, c) ← directive l.cursor.next
    .ok { l.push token with cursor := c }
  else if atStart && l.cursor.atBorder then do
    let l ← l.border
    .ok (l.mark (if ch == '-' then .documentStart else .documentEnd) 3)
  else if ch == '[' then l.openFlow .flowSequenceStart
  else if ch == '\x7b' then l.openFlow .flowMappingStart
  else if ch == ']' then l.closeFlow .flowSequenceEnd
  else if ch == '\x7d' then l.closeFlow .flowMappingEnd
  else if ch == ',' then l.flowEntry
  else if ch == '-' && alone then l.blockEntry
  else if ch == '?' && (l.inFlow || alone) then l.explicitKey
  else if ch == ':' && (l.inFlow || alone) then l.value
  else if ch == '*' then l.named .alias
  else if ch == '&' then l.named .anchor
  else if ch == '!' then l.content tag
  else if ch == '|' && !l.inFlow then l.block false
  else if ch == '>' && !l.inFlow then l.block true
  else if ch == '\'' then l.quoted false
  else if ch == '\x22' then l.quoted true
  else if l.startsPlain ch then l.plain
  else .error .malformed

/-- The layout behind the next token, or all tokens at the end of the text. -/
def next (l : Layout) : Except Fault (Layout ⊕ List Token) := do
  let l ← l.toNextToken.dropStale
  let l := l.unwind l.cursor.column
  match l.cursor.peek with
  | none =>
    let l ← (l.unwind (-1)).forgetKey
    .ok (.inr l.found.reverse)
  | some ch => .ok (.inl (← l.token ch))

/-- The tokens that are certain without a look at the text that is left: those in front of what can
still become a key. -/
def ready (l : Layout) : List Token :=
  let held := l.keys.filterMap fun entry => if l.isStale entry.2 then none else some entry.2.tokens
  l.found.reverse.take (held.foldl Nat.min l.count)

end Layout

/-- The tokens of a text, and the fault that is met when more of them are asked for. -/
structure Tokens where
  found : List Token
  ending : Option Fault

/-- The tokens of the text from a layout on. The fuel is more than the number of characters. -/
def Layout.finish : Nat → Layout → Tokens
  | 0, l => ⟨l.ready, some .malformed⟩
  | fuel + 1, l =>
    match l.next with
    | .ok (.inl later) => later.finish fuel
    | .ok (.inr all) => ⟨all, none⟩
    | .error fault => ⟨l.ready, some fault⟩

def tokens (text : List Char) : Tokens :=
  if text.all isAllowed then (Layout.start text).finish (text.length + 2) else ⟨[], some .malformed⟩

end Clickpath.Yaml
