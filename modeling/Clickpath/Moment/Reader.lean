import Clickpath.Decimal.Reader
import Clickpath.Moment

/-! # Reading moments

A written moment is a date, a separator and a time of day, with an optional offset; a date alone
stands for its midnight. A number counts seconds since the start of 1970 in universal time, or
thousandths of a second when it is too large to count seconds.
-/

namespace Clickpath.Moment

/-- Why a value is no moment: it is not of a kind that can denote one, its text or number denotes
none, or its text does not even denote a date. -/
inductive Misread where
  | notATime
  | outOfRange
  | notADate
  deriving DecidableEq, Repr

/-- A number of exactly `count` ASCII digits, and the rest. -/
def digits? (count : Nat) (s : List Char) : Option (Nat × List Char) :=
  let taken := s.take count
  if taken.length == count && taken.all Chars.isAsciiDigit then
    some (Chars.decimalNumber taken, s.drop count)
  else
    none

/-- One given character, and the rest. -/
def mark? (c : Char) : List Char → Option (List Char)
  | d :: rest => if c == d then some rest else none
  | [] => none

/-- The calendar fields of a date, year zero included. -/
def readDate? (s : List Char) : Option ((Nat × Nat × Nat) × List Char) := do
  let (year, s) ← digits? 4 s
  let s ← mark? '-' s
  let (month, s) ← digits? 2 s
  let s ← mark? '-' s
  let (day, s) ← digits? 2 s
  if 1 ≤ month && month ≤ 12 && 1 ≤ day && day ≤ daysInMonth year month then
    some ((year, month, day), s)
  else
    none

/-- The digits after the decimal sign as millionths, those beyond the sixth cut off. -/
def millionths (fraction : List Char) : Nat :=
  let six := fraction.take 6
  Chars.decimalNumber six * Nat.pow 10 (6 - six.length)

/-- The seconds of a time of day, with their fraction in millionths, if they are written. -/
def readSeconds? : List Char → Option ((Nat × Nat) × List Char)
  | ':' :: s => do
    let (second, s) ← digits? 2 s
    if second > 59 then none
    else match s with
      | c :: rest =>
        if c == '.' || c == ',' then
          let fraction := rest.takeWhile Chars.isAsciiDigit
          if fraction.isEmpty then none
          else some ((second, millionths fraction), rest.drop fraction.length)
        else
          some ((second, 0), s)
      | [] => some ((second, 0), [])
  | s => some ((0, 0), s)

/-- The hours and minutes of an offset, with or without a colon between them, as minutes. -/
def readOffsetSize? (s : List Char) : Option Int := do
  let (hours, s) ← digits? 2 s
  let s := (mark? ':' s).getD s
  let (minutes, s) ← digits? 2 s
  if minutes < 60 && hours < 24 && s.isEmpty then some (hours * 60 + minutes : Nat) else none

/-- The offset at the end of a moment; nothing at all says that it is unknown. -/
def readOffset? : List Char → Option (Option Int)
  | [] => some none
  | c :: s =>
    if c == 'Z' || c == 'z' then if s.isEmpty then some (some 0) else none
    else if c == '+' then (readOffsetSize? s).map some
    else if c == '-' || c.toNat == 0x2212 then (readOffsetSize? s).map fun size => some (-size)
    else none

/-- The fields of a written moment, before the year is held against its range. -/
def readWritten? (s : List Char) :
    Option (Nat × Nat × Nat × Nat × Nat × Nat × Nat × Option Int) := do
  let ((year, month, day), s) ← readDate? s
  let s ← match s with
    | c :: rest => if c == 'T' || c == 't' || c == ' ' || c == '_' then some rest else none
    | [] => none
  let (hour, s) ← digits? 2 s
  let s ← mark? ':' s
  let (minute, s) ← digits? 2 s
  if hour > 23 || minute > 59 then none
  else do
    let ((second, micro), s) ← readSeconds? s
    let offset ← readOffset? s
    some (year, month, day, hour, minute, second, micro, offset)

/-- The moment a number of seconds and further millionths after the start of 1970. A number beyond
twenty thousand million counts thousandths of a second. -/
def ofCount? (count : Int) (extra : Nat) : Option Moment :=
  if count.natAbs ≤ 20000000000 then ofEpochMicros? (count * 1000000 + extra)
  else ofEpochMicros? (count * 1000 + extra)

/-- The moment that a floating-point number of seconds denotes. -/
def ofBinary64? (x : Binary64) : Option Moment :=
  if x.isNaN || x.isInfinite then none else ofCount? x.floor x.fractionMillionths

/-- The moment of a written number of seconds that is not whole. The fraction counts on from the
second before, and a number that is too large to count seconds is divided first. -/
def ofFractional? (x : Binary64) : Option Moment :=
  let x := if x.toFloat.abs > 20000000000 then Binary64.ofFloat (x.toFloat / 1000) else x
  if x.isNaN || x.isInfinite then none
  else
    let extra := ((x.toFloat - Float.ofInt x.floor) * 1000000).round
    ofCount? x.floor extra.toUInt64.toNat

/-- The moment that a written number of seconds denotes: a sign and digits, or a number with a
point, whose whole part is not too large either. -/
def readCount? (s : List Char) : Option Moment :=
  let (negative, body) := Decimal.splitSign s
  let whole := body.takeWhile Chars.isAsciiDigit
  if Chars.decimalNumber whole ≥ Nat.pow 2 63 then none
  else match body.drop whole.length with
    | [] =>
      let count : Int := Chars.decimalNumber whole
      if whole.isEmpty then none else ofCount? (if negative then -count else count) 0
    | '.' :: _ => (Decimal.readPlain? negative body).bind ofFractional?
    | _ => none

def read (s : List Char) : Except Misread Moment :=
  match readWritten? s with
  | some (year, month, day, hour, minute, second, micro, offset) =>
    match ofFields? year month day hour minute second micro offset with
    | some moment => .ok moment
    | none => .error .outOfRange
  | none =>
    match readCount? s with
    | some moment => .ok moment
    | none =>
      match readDate? s with
      | some ((year, month, day), []) =>
        match ofFields? year month day 0 0 0 0 none with
        | some moment => .ok moment
        | none => .error .outOfRange
      | _ => .error .notADate

end Clickpath.Moment
