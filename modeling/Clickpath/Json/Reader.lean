import Clickpath.Datum
import Clickpath.Decimal.Reader

/-! # Reading JSON

A strict reader of JSON texts that says what it missed and where. Beyond the standard it takes the
words `NaN`, `Infinity` and `-Infinity` as numbers; a name that an object gives twice keeps its
first place and its last value. Half of a pair of code units is kept as it is.
-/

namespace Clickpath.Json

inductive Complaint where
  | byteOrderMark
  | expectedValue
  | expectedName
  | expectedColon
  | expectedComma
  | extraData
  | unterminatedString
  | controlCharacter
  | badEscape
  | badUnicodeEscape
  | tooDeep
  /-- A whole number has more digits than are read. -/
  | tooManyDigits (count : Nat)
  deriving DecidableEq, Repr

def Complaint.words : Complaint → String
  | byteOrderMark => "Unexpected UTF-8 BOM (decode using utf-8-sig)"
  | expectedValue => "Expecting value"
  | expectedName => "Expecting property name enclosed in double quotes"
  | expectedColon => "Expecting ':' delimiter"
  | expectedComma => "Expecting ',' delimiter"
  | extraData => "Extra data"
  | unterminatedString => "Unterminated string starting at"
  | controlCharacter => "Invalid control character at"
  | badEscape => "Invalid \\escape"
  | badUnicodeEscape => "Invalid \\uXXXX escape"
  | tooDeep => "Too deeply nested"
  | tooManyDigits count => Decimal.excess count

/-- What is wrong, and how many characters follow the place where it is. -/
structure Stop where
  complaint : Complaint
  remaining : Nat

/-- What is wrong with a text, and where: the line and column, counted from one, and the number of
characters before. -/
structure Fault where
  complaint : Complaint
  line : Nat
  column : Nat
  offset : Nat
  deriving DecidableEq, Repr

/-- The message for a fault. A number that is too long is not told by its place. -/
def Fault.message (f : Fault) : String :=
  match f.complaint with
  | .tooManyDigits _ => f.complaint.words
  | _ =>
    f.complaint.words ++ ": line " ++ toString f.line ++ " column " ++ toString f.column
      ++ " (char " ++ toString f.offset ++ ")"

def Stop.toFault (stop : Stop) (text : List Glyph) : Fault :=
  let before := text.take (text.length - stop.remaining)
  ⟨stop.complaint, before.count (.char '\n') + 1,
    (before.reverse.takeWhile (· != .char '\n')).length + 1, before.length⟩

/-- Refuses the text at the place before `rest`. -/
def stop (complaint : Complaint) (rest : List Glyph) : Except Stop α :=
  .error ⟨complaint, rest.length⟩

def isSpace (c : Char) : Bool := c == ' ' || c == '\t' || c == '\n' || c == '\r'

def skipSpace (s : List Glyph) : List Glyph := s.dropWhile (Glyph.is isSpace)

def leading (sort : Char → Bool) (s : List Glyph) : List Char :=
  (s.takeWhile (Glyph.is sort)).map Glyph.shown

def unit? : List Glyph → Option (Nat × List Glyph)
  | .char a :: .char b :: .char c :: .char d :: rest =>
    if [a, b, c, d].all Chars.isHexDigit then some (Chars.hexNumber [a, b, c, d], rest) else none
  | _ => none

/-- A code unit that opens a pair. -/
def isHighUnit (unit : Nat) : Bool := 0xD800 ≤ unit && unit ≤ 0xDBFF

def isLowUnit (unit : Nat) : Bool := 0xDC00 ≤ unit && unit ≤ 0xDFFF

def pairChar (high low : Nat) : Char :=
  Char.ofNat (0x10000 + (high - 0xD800) * 0x400 + (low - 0xDC00))

/-- What a code unit that opens a pair stands for, with the other half if it follows. -/
def finishPair (high : Nat) (rest : List Glyph) : Except Stop (Glyph × List Glyph) :=
  match rest with
  | .char '\\' :: .char 'u' :: body =>
    if body.length ≤ 4 then .ok (.ofCode high, rest)
    else match unit? body with
      | none => .error ⟨.badUnicodeEscape, rest.length - 1⟩
      | some (low, after) =>
        if isLowUnit low then .ok (.char (pairChar high low), after) else .ok (.ofCode high, rest)
  | _ => .ok (.ofCode high, rest)

def readEscape (s : List Glyph) : Except Stop (Glyph × List Glyph) :=
  match s with
  | .char '\x22' :: rest => .ok (.char '\x22', rest)
  | .char '\\' :: rest => .ok (.char '\\', rest)
  | .char '/' :: rest => .ok (.char '/', rest)
  | .char 'b' :: rest => .ok (.char '\x08', rest)
  | .char 'f' :: rest => .ok (.char '\x0C', rest)
  | .char 'n' :: rest => .ok (.char '\n', rest)
  | .char 'r' :: rest => .ok (.char '\r', rest)
  | .char 't' :: rest => .ok (.char '\t', rest)
  | .char 'u' :: rest =>
    if rest.length ≤ 4 then stop .badUnicodeEscape s
    else match unit? rest with
      | none => stop .badUnicodeEscape s
      | some (unit, after) =>
        if isHighUnit unit then finishPair unit after else .ok (.ofCode unit, after)
  | _ => .error ⟨.badEscape, s.length + 1⟩

/-- A string after its opening mark, which `opening` characters follow from itself on. The part
already read is reversed. -/
def readString (opening : Nat) : Nat → List Glyph → List Glyph → Except Stop (Loose × List Glyph)
  | 0, _, _ => .error ⟨.unterminatedString, opening⟩
  | fuel + 1, done, s =>
    match s with
    | [] => .error ⟨.unterminatedString, opening⟩
    | .char '\x22' :: rest => .ok (⟨done.reverse⟩, rest)
    | .char '\\' :: rest =>
      if rest.isEmpty then .error ⟨.unterminatedString, opening⟩
      else do
        let (g, rest) ← readEscape rest
        readString opening fuel (g :: done) rest
    | g :: rest =>
      if g.is fun c => c.toNat < 0x20 then stop .controlCharacter s
      else readString opening fuel (g :: done) rest

/-- The digits after a point, if a digit follows it. -/
def fractionPart (s : List Glyph) : List Char × List Glyph :=
  match s with
  | .char '.' :: rest =>
    match leading Chars.isAsciiDigit rest with
    | [] => ([], s)
    | digits => (digits, rest.drop digits.length)
  | _ => ([], s)

/-- The power of ten of an exponent, if it has digits. -/
def exponentPart (s : List Glyph) : Option Int × List Glyph :=
  match s with
  | .char e :: rest =>
    if e == 'e' || e == 'E' then
      let (negative, body) := match rest with
        | .char '-' :: r => (true, r)
        | .char '+' :: r => (false, r)
        | r => (false, r)
      let digits := leading Chars.isAsciiDigit body
      if digits.isEmpty then (none, s)
      else
        let size : Int := Chars.decimalNumber digits
        (some (if negative then -size else size), body.drop digits.length)
    else
      (none, s)
  | _ => (none, s)

def readNumber (s : List Glyph) : Except Stop (Datum × List Glyph) :=
  let (negative, body) := match s with
    | .char '-' :: rest => (true, rest)
    | _ => (false, s)
  let whole := match body with
    | .char '0' :: _ => ['0']
    | _ => leading Chars.isAsciiDigit body
  if whole.isEmpty then stop .expectedValue s
  else
    let (fraction, rest) := fractionPart (body.drop whole.length)
    let (power?, rest) := exponentPart rest
    if fraction.isEmpty && power?.isNone then
      if whole.length > Decimal.digitLimit then stop (.tooManyDigits whole.length) s
      else
        let size : Int := Chars.decimalNumber whole
        .ok (.int (if negative then -size else size), rest)
    else
      .ok (.float (Binary64.ofDecimal negative (Chars.decimalNumber (whole ++ fraction))
        (power?.getD 0 - fraction.length)), rest)

def valueWords : List (String × Datum) :=
  [("null", .null), ("true", .bool true), ("false", .bool false), ("NaN", .float .nan),
   ("Infinity", .float .infinity), ("-Infinity", .float .negativeInfinity)]

def readPlain (s : List Glyph) : Except Stop (Datum × List Glyph) :=
  match valueWords.findSome? fun word =>
      (Chars.after? (glyphsOf word.1.toList) s).map fun rest => (word.2, rest) with
  | some found => .ok found
  | none => readNumber s

mutual

/-- A value, with at most `depth` lists and objects around its innermost parts. -/
def readValue : Nat → Nat → List Glyph → Except Stop (Datum × List Glyph)
  | 0, _, s => stop .expectedValue s
  | fuel + 1, depth, s =>
    match s with
    | [] => stop .expectedValue s
    | .char '\x22' :: rest => do
      let (text, rest) ← readString s.length (rest.length + 1) [] rest
      .ok (.ofLoose text, rest)
    | .char '\x7b' :: rest =>
      match depth with
      | 0 => stop .tooDeep s
      | depth + 1 =>
        match skipSpace rest with
        | .char '\x7d' :: rest => .ok (.map [], rest)
        | rest => readFields fuel depth [] rest
    | .char '[' :: rest =>
      match depth with
      | 0 => stop .tooDeep s
      | depth + 1 =>
        match skipSpace rest with
        | .char ']' :: rest => .ok (.list [], rest)
        | rest => readItems fuel depth [] rest
    | _ => readPlain s

/-- The items of a list that is not empty; those already read are reversed. -/
def readItems : Nat → Nat → List Datum → List Glyph → Except Stop (Datum × List Glyph)
  | 0, _, _, s => stop .expectedValue s
  | fuel + 1, depth, done, s => do
    let (item, rest) ← readValue fuel depth s
    match skipSpace rest with
    | .char ']' :: rest => .ok (.list (item :: done).reverse, rest)
    | .char ',' :: rest => readItems fuel depth (item :: done) (skipSpace rest)
    | rest => stop .expectedComma rest

/-- The fields of an object that is not empty; those already read are reversed. -/
def readFields : Nat → Nat → List (Datum × Datum) → List Glyph → Except Stop (Datum × List Glyph)
  | 0, _, _, s => stop .expectedName s
  | fuel + 1, depth, done, s =>
    match s with
    | .char '\x22' :: rest => do
      let (name, rest) ← readString s.length (rest.length + 1) [] rest
      match skipSpace rest with
      | .char ':' :: rest =>
        let (value, rest) ← readValue fuel depth (skipSpace rest)
        match skipSpace rest with
        | .char '\x7d' :: rest =>
          .ok (.map (Datum.ofEntries ((.ofLoose name, value) :: done).reverse), rest)
        | .char ',' :: rest =>
          readFields fuel depth ((.ofLoose name, value) :: done) (skipSpace rest)
        | rest => stop .expectedComma rest
      | rest => stop .expectedColon rest
    | _ => stop .expectedName s

end

/-- How many lists and objects may stand inside each other. -/
def nestingLimit : Nat := 975

def read (text : List Glyph) : Except Fault Datum :=
  let outcome : Except Stop Datum :=
    if text.head? == some (.char (Char.ofNat 0xFEFF)) then stop .byteOrderMark text
    else do
      let (value, rest) ← readValue (2 * text.length + 2) nestingLimit (skipSpace text)
      match skipSpace rest with
      | [] => .ok value
      | rest => stop .extraData rest
  outcome.mapError (·.toFault text)

end Clickpath.Json
