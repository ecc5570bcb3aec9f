import Clickpath.Chars.Digit
import Clickpath.Chars.Search

/-! # Tags

A tag says of what type a node is. A plain scalar without a tag takes the type of the forms that its
text has: words for truth values and null, numbers in several bases, and dates.
-/

namespace Clickpath.Yaml

/-- The types of nodes. -/
inductive Tag where
  | null
  | bool
  | int
  | float
  | binary
  | timestamp
  | omap
  | pairs
  | set
  | str
  | seq
  | map
  | merge
  | value
  | other (uri : String)
  deriving DecidableEq, Repr

/-- The start that the addresses of the standard types have in common. -/
def standardTags : String := "tag:yaml.org,2002:"

def standardNames : List (String × Tag) :=
  [("null", .null), ("bool", .bool), ("int", .int), ("float", .float), ("binary", .binary),
   ("timestamp", .timestamp), ("omap", .omap), ("pairs", .pairs), ("set", .set), ("str", .str),
   ("seq", .seq), ("map", .map), ("merge", .merge), ("value", .value)]

def Tag.ofUri (uri : String) : Tag :=
  ((Chars.after? standardTags.toList uri.toList).bind fun name =>
    standardNames.lookup (String.ofList name)).getD (.other uri)

def truthWords : List (String × Bool) :=
  [("yes", true), ("no", false), ("true", true), ("false", false), ("on", true), ("off", false)]

/-- The three spellings of a word: in small letters, with a capital in front, in capitals. -/
def spellings (word : List Char) : List (List Char) :=
  let upper (c : Char) : Char := if 'a' ≤ c && c ≤ 'z' then Char.ofNat (c.toNat - 32) else c
  match word with
  | [] => [[]]
  | c :: rest => [word, upper c :: rest, word.map upper]

def isTruthWord (s : List Char) : Bool :=
  truthWords.any fun word => (spellings word.1.toList).contains s

def isNullWord (s : List Char) : Bool :=
  s == [] || s == ['~'] || (spellings "null".toList).contains s

def isDigitOrLine (c : Char) : Bool := Chars.isAsciiDigit c || c == '_'

def withoutSign : List Char → List Char
  | '-' :: rest => rest
  | '+' :: rest => rest
  | s => s

/-- The text starts with a digit and has only digits and low lines. -/
def isGrouped (s : List Char) : Bool :=
  match s with
  | [] => false
  | c :: rest => Chars.isAsciiDigit c && rest.all isDigitOrLine

/-- One part of a number in base sixty behind its first. -/
def isSixtieth (s : List Char) : Bool :=
  match s with
  | [d] => Chars.isAsciiDigit d
  | [a, b] => '0' ≤ a && a ≤ '5' && Chars.isAsciiDigit b
  | _ => false

/-- The text is a whole number without a sign: in base two, eight, ten, sixteen or sixty. -/
def isUnsignedInt (s : List Char) : Bool :=
  match s with
  | ['0'] => true
  | '0' :: 'b' :: rest => !rest.isEmpty && rest.all fun c => c == '0' || c == '1' || c == '_'
  | '0' :: 'x' :: rest => !rest.isEmpty && rest.all fun c => Chars.isHexDigit c || c == '_'
  | '0' :: rest => !rest.isEmpty && rest.all fun c => ('0' ≤ c && c ≤ '7') || c == '_'
  | _ =>
    match Chars.splitOn ':' s with
    | first :: parts => isGrouped first && parts.all isSixtieth
    | [] => false

def isInt (s : List Char) : Bool := isUnsignedInt (withoutSign s)

def isExponent (s : List Char) : Bool :=
  match s with
  | [] => true
  | e :: sign :: digits =>
    (e == 'e' || e == 'E') && (sign == '-' || sign == '+') && !digits.isEmpty
      && digits.all Chars.isAsciiDigit
  | _ => false

def isFraction (s : List Char) : Bool := isExponent (s.dropWhile isDigitOrLine)

/-- The text is a number in base sixty with a point at its end or in its last part. -/
def isSexagesimalFloat (s : List Char) : Bool :=
  match Chars.breakOn? ['.'] s with
  | some (whole, fraction) =>
    fraction.all isDigitOrLine &&
      match Chars.splitOn ':' whole with
      | first :: part :: parts => isGrouped first && (part :: parts).all isSixtieth
      | _ => false
  | none => false

/-- The text is a number with a point: with digits before it, or with one behind it and no sign. -/
def isPointedFloat (s : List Char) : Bool :=
  match s with
  | '.' :: rest =>
    match rest with
    | d :: _ => Chars.isAsciiDigit d && isFraction rest
    | [] => false
  | _ =>
    match Chars.breakOn? ['.'] (withoutSign s) with
    | some (whole, fraction) => isGrouped whole && isFraction fraction
    | none => false

def isFloat (s : List Char) : Bool :=
  isPointedFloat s || isSexagesimalFloat (withoutSign s)
    || (match withoutSign s with
      | '.' :: word => (spellings "inf".toList).contains word
      | _ => false)
    || s == ".nan".toList || s == ".NaN".toList || s == ".NAN".toList

inductive WrittenOffset where
  | unstated
  | universal
  | ahead (hours minutes : Nat)
  | behind (hours minutes : Nat)
  deriving DecidableEq, Repr

/-- The time of day of a written moment. The fraction of the second is kept as its digits. -/
structure WrittenTime where
  hour : Nat
  minute : Nat
  second : Nat
  fraction : List Char
  offset : WrittenOffset
  deriving DecidableEq, Repr

/-- A written date or moment, before it is held against the calendar. -/
structure WrittenMoment where
  year : Nat
  month : Nat
  day : Nat
  time : Option WrittenTime
  deriving DecidableEq, Repr

/-- A number of at least `least` and at most two digits, and the text behind it. -/
def shortNumber? (least : Nat) (s : List Char) : Option (Nat × List Char) :=
  let digits := (s.takeWhile Chars.isAsciiDigit).take 2
  if digits.length < least then none else some (Chars.decimalNumber digits, s.drop digits.length)

def behind? (c : Char) (s : List Char) : Option (List Char) := Chars.after? [c] s

def writtenOffset? (s : List Char) : Option WrittenOffset :=
  let s := s.dropWhile fun c => c == ' ' || c == '\t'
  match s with
  | ['Z'] => some .universal
  | sign :: rest => do
    let (hours, rest) ← shortNumber? 1 rest
    let minutes ← match rest with
      | [] => some 0
      | ':' :: rest => do
        let (minutes, rest) ← shortNumber? 2 rest
        if rest.isEmpty then some minutes else none
      | _ => none
    if sign == '+' then some (.ahead hours minutes)
    else if sign == '-' then some (.behind hours minutes)
    else none
  | [] => none

def writtenTime? (s : List Char) : Option WrittenTime := do
  let s ← match s with
    | c :: rest =>
      if c == 'T' || c == 't' then some rest
      else if c == ' ' || c == '\t' then some (rest.dropWhile fun c => c == ' ' || c == '\t')
      else none
    | [] => none
  let (hour, s) ← shortNumber? 1 s
  let s ← behind? ':' s
  let (minute, s) ← shortNumber? 2 s
  let s ← behind? ':' s
  let (second, s) ← shortNumber? 2 s
  let (fraction, s) := match s with
    | '.' :: rest => (rest.takeWhile Chars.isAsciiDigit, rest.dropWhile Chars.isAsciiDigit)
    | s => ([], s)
  let offset ← if s.isEmpty then some WrittenOffset.unstated else writtenOffset? s
  some ⟨hour, minute, second, fraction, offset⟩

def writtenMoment? (s : List Char) : Option WrittenMoment := do
  let digits := s.take 4
  if digits.length == 4 && digits.all Chars.isAsciiDigit then
    let s ← behind? '-' (s.drop 4)
    let (month, s) ← shortNumber? 1 s
    let s ← behind? '-' s
    let (day, s) ← shortNumber? 1 s
    let time ← if s.isEmpty then some none else (writtenTime? s).map some
    some ⟨Chars.decimalNumber digits, month, day, time⟩
  else none

/-- The text is a date or moment; a date alone has two digits for its month and its day. -/
def isTimestamp (s : List Char) : Bool :=
  match writtenMoment? s with
  | some ⟨_, _, _, none⟩ => s.length == 10
  | some _ => true
  | none => false

/-- The type of a plain scalar by the form of its text. -/
def Tag.ofPlain (s : List Char) : Tag :=
  if isTruthWord s then .bool
  else if isFloat s then .float
  else if isInt s then .int
  else if s == ['<', '<'] then .merge
  else if isNullWord s then .null
  else if isTimestamp s then .timestamp
  else if s == ['='] then .value
  else .str

end Clickpath.Yaml
