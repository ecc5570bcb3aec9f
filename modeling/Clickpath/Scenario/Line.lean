import Clickpath.Chars.AnyCase
import Clickpath.Text

/-! # Scenario lines

A scenario line is a keyword, then perhaps a target, then perhaps the words `with value` and a
value. The target may name its strategy in front of an equals sign, and is a text in quotation marks
or runs to the next blank. Readings are tried from the longest target to the shortest, a quoted one
first and one with a strategy first, until the rest of the line can be read.
-/

namespace Clickpath.Scenario

structure Line where
  keyword : List Char
  strategy : Option (List Char)
  target : Option (List Char)
  value : Option (List Char)
  deriving DecidableEq

def afterBlanks? : List Char → Option (List Char)
  | c :: rest => if Chars.isBlank c then some (rest.dropWhile Chars.isBlank) else none
  | [] => none

/-- The value after the blanks in front of it. When there are only blanks, the last of several is
the value. -/
def valueAfterBlanks? (s : List Char) : Option (List Char) :=
  match afterBlanks? s with
  | none => none
  | some [] => match s.reverse with
    | last :: _ :: _ => some [last]
    | _ => none
  | some value => some value

/-- The value after the words that announce it. -/
def announcedValue? (s : List Char) : Option (List Char) := do
  let s ← Chars.afterWord? "with".toList s
  let s ← afterBlanks? s
  let s ← Chars.afterWord? "value".toList s
  let value ← valueAfterBlanks? s
  if value.contains '\n' then none else some value

/-- The end of a line: blanks, and an announced value if anything follows them. -/
def lineEnd? (s : List Char) : Option (Option (List Char)) :=
  match s.dropWhile Chars.isBlank with
  | [] => some none
  | rest => (announcedValue? rest).map some

/-- The texts after each mark that can close a quoted target, the furthest first. A mark after a
backslash closes it only when no later one does. -/
def closings : List Char → List (List Char)
  | [] => []
  | '\\' :: '\x22' :: rest => closings rest ++ [rest]
  | c :: rest => if c == '\x22' then [rest] else closings rest

abbrev Cut := List Char × List Char

/-- The cut in front of a final part of a text. -/
def cutBefore (s rest : List Char) : Cut := (s.take (s.length - rest.length), rest)

/-- The quoted targets at the start of a text, the longest first. -/
def quotedTargets (s : List Char) : List Cut :=
  match s with
  | '\x22' :: body => (closings body).map (cutBefore s)
  | _ => []

/-- The non-empty starts of a text up to a length, the longest first. -/
def startsUpTo (s : List Char) : Nat → List Cut
  | 0 => []
  | n + 1 => (s.take (n + 1), s.drop (n + 1)) :: startsUpTo s n

/-- The targets at the start of a text, in the order in which they are tried. -/
def targets (s : List Char) : List Cut :=
  quotedTargets s ++ startsUpTo s (s.takeWhile (!Chars.isBlank ·)).length

/-- The strategy in front of an equals sign, and the text after the sign. -/
def strategy? (s : List Char) : Option Cut :=
  let word := s.takeWhile Chars.isWord
  match word, s.drop word.length with
  | _ :: _, '=' :: rest => some (word, rest)
  | _, _ => none

/-- The first target that leaves a line end, with the value in that line end. -/
def targetAndValue? (s : List Char) : Option (List Char × Option (List Char)) :=
  (targets s).findSome? fun (target, rest) => (lineEnd? rest).map fun value => (target, value)

def afterKeyword? (keyword rest : List Char) : Option Line :=
  let withStrategy : Option Line := do
    let s ← afterBlanks? rest
    let (strategy, s) ← strategy? s
    let (target, value) ← targetAndValue? s
    some ⟨keyword, some strategy, some target, value⟩
  let withoutStrategy : Option Line := do
    let s ← afterBlanks? rest
    let (target, value) ← targetAndValue? s
    some ⟨keyword, none, some target, value⟩
  let withoutTarget : Option Line := (lineEnd? rest).map fun value => ⟨keyword, none, none, value⟩
  withStrategy.orElse fun _ => withoutStrategy.orElse fun _ => withoutTarget

/-- The parts of a line; the keyword is as long as the rest of the line allows. -/
def Line.read? (s : List Char) : Option Line :=
  (startsUpTo s (s.takeWhile Chars.isWord).length).findSome? fun (keyword, rest) =>
    afterKeyword? keyword rest

/-- The text that a target or value stands for: without the blanks around it, and without its
quotation marks and the backslashes in front of marks. Nothing may be left. -/
def unquote? (token : List Char) : Option (List Char) :=
  let s := Chars.trim token
  let s := if s.length ≥ 2 && s.head? == some '\x22' && s.getLast? == some '\x22' then
    Chars.replacePair '\\' '\x22' '\x22' (s.drop 1).dropLast
  else s
  if s.isEmpty then none else some s

end Clickpath.Scenario
