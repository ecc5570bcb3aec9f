import Clickpath.Chars.AnyCase
import Clickpath.Datum.Display
import Clickpath.Markup.Tag

/-! # Reading markup

A markup text is read as a sequence of events: tags and the texts between them. Comments,
declarations and instructions are passed over. What is opened and never finished counts as text; the
elements for scripts and styles hold text only, up to their own end tag.
-/

namespace Clickpath.Markup

/-- What a markup text brings, one after the other. Names are in small letters. -/
inductive Event where
  | opened (tag : String) (attributes : List (String × String))
  | emptied (tag : String) (attributes : List (String × String))
  | closed (tag : String)
  | text (data : String)
  deriving DecidableEq, Repr

/-- A marked section that cannot be read. -/
inductive Fault where
  /-- It has no keyword. -/
  | expectedName (near : String)
  /-- Its keyword is not known. -/
  | unknownKeyword (keyword : String)
  deriving DecidableEq, Repr

def Fault.message : Fault → String
  | expectedName near => "expected name token at " ++ Text.quoted near
  | unknownKeyword keyword =>
    "unknown status keyword " ++ Text.quoted keyword ++ " in marked section"

/-- The elements that hold text only. -/
def rawTextElements : List (List Char) := ["script".toList, "style".toList]

def afterChar? (c : Char) (s : List Char) : Option (List Char) :=
  match s.dropWhile (· != c) with
  | [] => none
  | _ :: rest => some rest

/-- The text behind a mark with blanks in front of it. -/
def afterMark? (mark : Char) (s : List Char) : Option (List Char) :=
  match s.dropWhile Chars.isBlank with
  | c :: rest => if c == mark then some rest else none
  | [] => none

/-- The text behind the first place at which `match?` succeeds. -/
def search? (match? : List Char → Option (List Char)) : List Char → Option (List Char)
  | [] => match? []
  | c :: rest =>
    match match? (c :: rest) with
    | some found => some found
    | none => search? match? rest

/-- The end of a comment at this place: two hyphens, blanks and a bracket. -/
def commentEnd? (s : List Char) : Option (List Char) := do
  let s ← Chars.after? ['-', '-'] s
  afterMark? '>' s

/-- The end of a conditional section at this place. -/
def conditionalEnd? (s : List Char) : Option (List Char) := do
  let s ← Chars.after? [']'] s
  afterMark? '>' s

/-- The end of a standard section at this place. -/
def sectionEnd? (s : List Char) : Option (List Char) := do
  let s ← Chars.after? [']'] s
  let s ← afterMark? ']' s
  afterMark? '>' s

def sectionKeywords : List String := ["temp", "cdata", "ignore", "include", "rcdata"]

def conditionalKeywords : List String := ["if", "else", "endif"]

def isKeywordChar (c : Char) : Bool :=
  isLetter c || Chars.isAsciiDigit c || c == '-' || c == '_' || c == '.'

/-- The text behind a marked section, given the text behind its opening; nothing when the section is
not finished. -/
def afterSection (s : List Char) : Except Fault (Option (List Char)) :=
  match s with
  | [] => .ok none
  | c :: _ =>
    if !isLetter c then
      .error (.expectedName (String.ofList (("<![".toList ++ s).take 20)))
    else
      let name := s.takeWhile isKeywordChar
      let behind := (s.drop name.length).dropWhile Chars.isBlank
      let keyword := String.ofList (name.map Chars.asciiLower)
      if behind.isEmpty then .ok none
      else if sectionKeywords.contains keyword then .ok (search? sectionEnd? s)
      else if conditionalKeywords.contains keyword then .ok (search? conditionalEnd? s)
      else .error (.unknownKeyword (String.ofList (s.take (s.length - behind.length))))

/-- The text behind a declaration, given the text behind its bracket and exclamation mark. -/
def afterDeclaration (s : List Char) : Except Fault (Option (List Char)) :=
  match s with
  | '-' :: '-' :: rest => .ok (search? commentEnd? rest)
  | '[' :: rest => afterSection rest
  | _ =>
    if (s.take 7).map Chars.asciiLower == "doctype".toList then .ok (afterChar? '>' (s.drop 7))
    else .ok (afterChar? '>' s)

/-- A character of the name in a plain end tag after its first. -/
def isEndNameChar (c : Char) : Bool :=
  isLetter c || Chars.isAsciiDigit c || c == '-' || c == '.' || c == ':' || c == '_'

/-- A plain end tag after its slash: its name, with blanks around it, and the text behind it. -/
def plainEndTag? (s : List Char) : Option (List Char × List Char) :=
  match s.dropWhile Chars.isBlank with
  | [] => none
  | c :: rest =>
    if !isLetter c then none
    else
      let name := c :: rest.takeWhile isEndNameChar
      (afterMark? '>' (rest.drop (name.length - 1))).map fun behind =>
        (name.map Chars.asciiLower, behind)

/-- A step in reading: the events it gives, the text behind it, and the raw text element that it
opened. -/
structure Advance where
  events : List Event
  rest : List Char
  element : Option (List Char)

/-- The end tag after its slash, if it is finished. What is no end tag is passed over. -/
def endTag? (s : List Char) : Option Advance :=
  match afterChar? '>' s with
  | none => none
  | some behind =>
    match plainEndTag? s with
    | some (name, behind) => some ⟨[.closed (String.ofList name)], behind, none⟩
    | none =>
      match s with
      | c :: _ =>
        if isLetter c then
          let name := s.takeWhile isTagNameChar
          let rest := (skipGaps c (s.drop name.length)).rest
          some ⟨[.closed (String.ofList (Chars.lower name))], (afterChar? '>' rest).getD [], none⟩
        else some ⟨[], behind, none⟩
      | [] => some ⟨[], behind, none⟩

/-- Enters an attribute: in the place of the one with its name, else at the end. -/
def enterAttribute (found : List (String × String)) (name value : String) :
    List (String × String) :=
  match found with
  | [] => [(name, value)]
  | entry :: rest =>
    if entry.1 == name then (name, value) :: rest else entry :: enterAttribute rest name value

/-- The attributes of a tag, each name once and in small letters. -/
def attributeList (attributes : List Attribute) : List (String × String) :=
  attributes.foldl (fun found a =>
    enterAttribute found (String.ofList (Chars.lower a.name)) (String.ofList a.value)) []

/-- The events so far, in front of those that follow. -/
def eventsThen (found : List Event) (later : Except Fault (List Event)) :
    Except Fault (List Event) :=
  later.map (found ++ ·)

def textEvents (data : List Char) : List Event :=
  if data.isEmpty then [] else [.text (String.ofList data)]

/-- The event of a text with its references resolved. Nothing may be left of it. -/
def resolvedText (data : List Char) : Event := .text (String.ofList (resolve data))

/-- How much of a text that starts with an unfinished tag counts as text: up to the next closing
bracket and with it, else up to the next opening bracket, else the first character alone. -/
def unfinishedSize : List Char → Nat
  | [] => 0
  | _ :: rest =>
    if rest.contains '>' then (rest.takeWhile (· != '>')).length + 2
    else if rest.contains '<' then (rest.takeWhile (· != '<')).length + 1
    else 1

/-- The end tag of a raw text element at this place, in any letter case, and the text behind it. -/
def rawEnd? (element s : List Char) : Option (List Char) := do
  let s ← Chars.after? ['<', '/'] s
  let s ← Chars.afterWord? element (s.dropWhile Chars.isBlank)
  afterMark? '>' s

/-- The part of a raw text before its end tag, and the text from the end tag on. -/
def breakAtRawEnd? (element : List Char) : List Char → Option (List Char × List Char)
  | [] => none
  | c :: rest =>
    if (rawEnd? element (c :: rest)).isSome then some ([], c :: rest)
    else (breakAtRawEnd? element rest).map fun (before, found) => (c :: before, found)

/-- The start tag after its bracket, if it is finished. A broken one counts as text. -/
def openingTag? (s : List Char) : Option Advance :=
  let tag := startTag s
  let name := Chars.lower tag.name
  let found := attributeList tag.attributes
  match tag.ending with
  | .opened rest =>
    some ⟨[.opened (String.ofList name) found], rest,
      if rawTextElements.contains name then some name else none⟩
  | .emptied rest => some ⟨[.emptied (String.ofList name) found], rest, none⟩
  | .broken rest => some ⟨textEvents ('<' :: s.take (s.length - rest.length)), rest, none⟩
  | .unfinished => none

/-- What is passed over up to its end. -/
def passedOver (rest : Option (List Char)) : Option Advance := rest.map fun rest => ⟨[], rest, none⟩

/-- What an opening bracket opens, if it is finished. -/
def advance (s : List Char) : Except Fault (Option Advance) :=
  match s with
  | [] => .ok (some ⟨[.text "<"], [], none⟩)
  | '/' :: rest => .ok (endTag? rest)
  | '?' :: rest => .ok (passedOver (afterChar? '>' rest))
  | '!' :: rest => (afterDeclaration rest).map passedOver
  | c :: _ => .ok (if isLetter c then openingTag? s else some ⟨[.text "<"], s, none⟩)

/-- A step in the text of a raw text element: up to its end tag, or up to what looks like its end
tag. A raw text that no end tag follows is left out. -/
def advanceRaw (element s : List Char) : Advance :=
  match breakAtRawEnd? element s with
  | none => ⟨[], [], none⟩
  | some (before, found) =>
    match plainEndTag? (found.drop 2) with
    | some (name, rest) => ⟨textEvents before ++ [.closed (String.ofList name)], rest, none⟩
    | none =>
      let rest := (afterChar? '>' found).getD []
      ⟨textEvents (before ++ found.take (found.length - rest.length)), rest, some element⟩

/-- The events of a text, inside a raw text element if one is given. The fuel is at least the number
of characters and one. -/
def eventsFrom : Nat → Option (List Char) → List Char → Except Fault (List Event)
  | 0, _, _ => .ok []
  | _, _, [] => .ok []
  | fuel + 1, some element, s =>
    let step := advanceRaw element s
    eventsThen step.events (eventsFrom fuel step.element step.rest)
  | fuel + 1, none, '<' :: rest =>
    match advance rest with
    | .error fault => .error fault
    | .ok (some step) => eventsThen step.events (eventsFrom fuel step.element step.rest)
    | .ok none =>
      let size := unfinishedSize ('<' :: rest)
      eventsThen [resolvedText (('<' :: rest).take size)]
        (eventsFrom fuel none (('<' :: rest).drop size))
  | fuel + 1, none, s =>
    let data := s.takeWhile (· != '<')
    eventsThen [resolvedText data] (eventsFrom fuel none (s.drop data.length))

def events (s : List Char) : Except Fault (List Event) := eventsFrom (s.length + 1) none s

end Clickpath.Markup
