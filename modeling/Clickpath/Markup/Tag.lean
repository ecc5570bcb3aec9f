import Clickpath.Chars.Blank
import Clickpath.Markup.Reference

/-! # Start tags

A start tag has a name and attributes, with blanks and slashes between them. A name without a value
stands for itself, a value may be quoted or run to the next blank, and anything that is no attribute
leaves the tag broken or unfinished.
-/

namespace Clickpath.Markup

def isLetter (c : Char) : Bool := ('a' ≤ c && c ≤ 'z') || ('A' ≤ c && c ≤ 'Z')

def isTagNameChar (c : Char) : Bool :=
  !(c == '\t' || c == '\n' || c == '\r' || c.toNat == 0x0C || c == ' ' || c == '/' || c == '>'
    || c.toNat == 0)

/-- A character that can stand in the name of an attribute after its first. -/
def isAttributeNameChar (c : Char) : Bool :=
  !(Chars.isBlank c || c == '/' || c == '=' || c == '>')

/-- A character that can stand in a value without quotation marks. -/
def isBareValueChar (c : Char) : Bool := !(Chars.isBlank c || c == '>')

def isMark (c : Char) : Bool := c == '\'' || c == '\x22'

/-- A place in a text: the character before it and the text behind it. -/
structure Cursor where
  last : Char
  rest : List Char

def Cursor.after (last : Char) (taken rest : List Char) : Cursor := ⟨taken.getLast?.getD last, rest⟩

/-- The place after blanks and slashes; a slash in front of the closing bracket is left. -/
def skipGaps (last : Char) : List Char → Cursor
  | [] => ⟨last, []⟩
  | c :: rest =>
    if Chars.isBlank c || (c == '/' && rest.head? != some '>') then skipGaps c rest
    else ⟨last, c :: rest⟩

/-- An attribute as it is written, references in its value replaced. -/
structure Attribute where
  name : List Char
  value : List Char

/-- A value and the place behind it. -/
structure Value where
  text : List Char
  behind : Cursor

/-- A value without quotation marks, which may be empty. -/
def bareValue (last : Char) (s : List Char) : Value :=
  let text := s.takeWhile isBareValueChar
  ⟨text, .after last text (s.drop text.length)⟩

/-- The value after equals signs. A mark that is not closed starts no value: the value is then empty
if blanks stand before it, and starts with the last sign if there are several. -/
def valueAfterSigns? (signs : Nat) (s : List Char) : Option Value :=
  let blanks := s.takeWhile Chars.isBlank
  let s := s.drop blanks.length
  let last := blanks.getLast?.getD '='
  match s with
  | c :: rest =>
    if isMark c then
      match Chars.breakOn? [c] rest with
      | some (text, rest) => some ⟨text, ⟨c, rest⟩⟩
      | none =>
        if !blanks.isEmpty then some ⟨[], ⟨last, s⟩⟩
        else if signs ≥ 2 then some (bareValue '=' ('=' :: s))
        else none
    else some (bareValue last s)
  | [] => some ⟨[], ⟨last, []⟩⟩

/-- The value of an attribute, given the text behind its name. -/
def value? (s : List Char) : Option Value :=
  let s := s.dropWhile Chars.isBlank
  let signs := s.takeWhile (· == '=')
  if signs.isEmpty then none else valueAfterSigns? signs.length (s.drop signs.length)

/-- The attribute at a place, and the place behind it and the gap after it. An attribute stands
after a quotation mark, a blank or a slash. -/
def attribute? (place : Cursor) : Option (Attribute × Cursor) :=
  match place.rest with
  | [] => none
  | c :: rest =>
    if !(isMark place.last || place.last == '/' || Chars.isBlank place.last) then none
    else if Chars.isBlank c || c == '/' || c == '>' then none
    else
      let name := c :: rest.takeWhile isAttributeNameChar
      let behind := place.rest.drop name.length
      match value? behind with
      | some v => some (⟨name, resolve v.text⟩, skipGaps v.behind.last v.behind.rest)
      | none => some (⟨name, []⟩, skipGaps (name.getLast?.getD c) behind)

/-- The attributes from a place on, and the text behind them. -/
def attributes : Nat → Cursor → List Attribute × List Char
  | 0, place => ([], place.rest)
  | fuel + 1, place =>
    match attribute? place with
    | none => ([], place.rest)
    | some (found, behind) =>
      let (more, rest) := attributes fuel behind
      (found :: more, rest)

/-- How a start tag ends. -/
inductive TagEnd where
  /-- With a bracket. -/
  | opened (rest : List Char)
  /-- With a slash and a bracket. -/
  | emptied (rest : List Char)
  /-- In front of something that no tag can hold. -/
  | broken (rest : List Char)
  /-- Not at all. -/
  | unfinished

def tagEnd : List Char → TagEnd
  | '>' :: rest => .opened rest
  | '/' :: '>' :: rest => .emptied rest
  | [] => .unfinished
  | c :: rest => if isLetter c || c == '=' || c == '/' then .unfinished else .broken (c :: rest)

structure StartTag where
  name : List Char
  attributes : List Attribute
  ending : TagEnd

def startTag (s : List Char) : StartTag :=
  let name := s.takeWhile isTagNameChar
  let (found, rest) :=
    attributes s.length (skipGaps (name.getLast?.getD '<') (s.drop name.length))
  ⟨name, found, tagEnd rest⟩

end Clickpath.Markup
