import Clickpath.Utf8
import Clickpath.Yaml.Cursor
import Clickpath.Yaml.Fault
import Clickpath.Yaml.Token

/-! # Directives, anchors and tags

The marks that carry a name: directives in front of a document, anchors and aliases, and tags with
their handles.
-/

namespace Clickpath.Yaml

def isNameChar (c : Char) : Bool :=
  Chars.isAsciiDigit c || ('A' ≤ c && c ≤ 'Z') || ('a' ≤ c && c ≤ 'z') || c == '-' || c == '_'

def markName (c : Cursor) : Except Fault (List Char × Cursor) :=
  match c.takeWhile isNameChar with
  | ([], _) => .error .malformed
  | found => .ok found

/-- The place itself, if what stands there is of the right sort. -/
def require (p : Option Char → Bool) (c : Cursor) : Except Fault Cursor :=
  if p c.peek then .ok c else .error .malformed

/-- A number of at least one digit. -/
def markNumber (c : Cursor) : Except Fault (Nat × Cursor) :=
  match c.takeWhile Chars.isAsciiDigit with
  | ([], _) => .error .malformed
  | (digits, c) => .ok (Chars.decimalNumber digits, c)

def anchorName (c : Cursor) : Except Fault (String × Cursor) := do
  let (name, c) ← markName c
  let c ← require (fun ch => isBlankOrEnd ch || ch.any "?:,]\x7d%@`".toList.contains) c
  .ok (String.ofList name, c)

def isUriChar (c : Char) : Bool := isNameChar c || ";/?:@&=+$,.!~*'()[]%".toList.contains c

/-- The bytes of percent codes in a row. -/
def percentCodes : Nat → Cursor → Except Fault (List Nat × Cursor)
  | 0, c => .ok ([], c)
  | fuel + 1, c =>
    match c.rest with
    | '%' :: a :: b :: _ =>
      if Chars.isHexDigit a && Chars.isHexDigit b then do
        let (more, c) ← percentCodes fuel (c.skip 3)
        .ok (Chars.hexNumber [a, b] :: more, c)
      else .error .malformed
    | '%' :: _ => .error .malformed
    | _ => .ok ([], c)

def uriText : Nat → Cursor → Except Fault (List Char × Cursor)
  | 0, c => .ok ([], c)
  | fuel + 1, c =>
    match c.rest with
    | '%' :: _ => do
      let (bytes, c) ← percentCodes (c.rest.length + 1) c
      match Utf8.decode bytes with
      | .error _ => .error .malformed
      | .ok text =>
        let (more, c) ← uriText fuel c
        .ok (text ++ more, c)
    | ch :: _ =>
      if isUriChar ch then do
        let (more, c) ← uriText fuel c.next
        .ok (ch :: more, c)
      else .ok ([], c)
    | [] => .ok ([], c)

def uri (c : Cursor) : Except Fault (String × Cursor) := do
  let (text, behind) ← uriText (c.rest.length + 1) c
  if behind.index == c.index then .error .malformed else .ok (String.ofList text, behind)

/-- A handle: exclamation marks around a name that may be empty, or a single mark. -/
def handle (c : Cursor) : Except Fault (String × Cursor) := do
  let c ← require (· == some '!') c
  let (name, c) := c.next.takeWhile isNameChar
  if c.peek == some '!' then .ok ("!" ++ String.ofList name ++ "!", c.next)
  else if name.isEmpty && c.peek == some ' ' then .ok ("!", c)
  else .error .malformed

/-- A second exclamation mark comes before the next space or line end. -/
def hasHandle (c : Cursor) : Bool :=
  (c.next.rest.takeWhile fun ch => !(ch == ' ' || isBreak ch)).contains '!'

/-- A tag: an address between angle brackets, a single mark, or a handle and a suffix. -/
def tag (c : Cursor) : Except Fault (Token × Cursor) := do
  let (token, c) ← match c.peekAt 1 with
    | some '<' => do
      let (suffix, c) ← uri (c.skip 2)
      let c ← require (· == some '>') c
      .ok (Token.tag none suffix, c.next)
    | ch =>
      if isBlankOrEnd ch then .ok (.tag none "!", c.next)
      else do
        let (handle, c) ← if hasHandle c then handle c else .ok ("!", c.next)
        let (suffix, c) ← uri c
        .ok (Token.tag (some handle) suffix, c)
  let c ← require isSpaceOrEnd c
  .ok (token, c)

def directiveContent (name : List Char) (c : Cursor) : Except Fault (Directive × Cursor) :=
  if name == "YAML".toList then do
    let (major, c) ← markNumber c.skipSpaces
    let c ← require (· == some '.') c
    let (minor, c) ← markNumber c.next
    let c ← require isSpaceOrEnd c
    .ok (.version major minor, c)
  else if name == "TAG".toList then do
    let (handle, c) ← handle c.skipSpaces
    let c ← require (· == some ' ') c
    let (address, c) ← uri c.skipSpaces
    let c ← require isSpaceOrEnd c
    .ok (.tagHandle handle address, c)
  else .ok (.other, c.restOfLine.2)

/-- A directive after its mark, up to the end of its line. -/
def directive (c : Cursor) : Except Fault (Token × Cursor) := do
  let (name, c) ← markName c
  let c ← require isSpaceOrEnd c
  let (found, c) ← directiveContent name c
  let c := c.skipSpaces
  let c := if c.peek == some '#' then c.restOfLine.2 else c
  if endsLine c.peek then .ok (.directive found, (c.lineBreak?.map (·.2)).getD c)
  else .error .malformed

end Clickpath.Yaml
