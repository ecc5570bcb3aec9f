import Clickpath.Decimal.Shortest

/-! # Moments

A moment is a date and a time of day in the proleptic Gregorian calendar, with the distance from
universal time if that is known. Moments that know it are ordered by universal time, moments that do
not by the clock on the wall; the two sorts are not comparable.
-/

namespace Clickpath

def isLeapYear (year : Nat) : Bool := year % 4 == 0 && (year % 100 != 0 || year % 400 == 0)

def daysInMonth (year month : Nat) : Nat :=
  if month == 2 then if isLeapYear year then 29 else 28
  else if month == 4 || month == 6 || month == 9 || month == 11 then 30
  else 31

/-- The fields name a day and a time of day that exist, and an offset below a whole day. -/
def Moment.InRange (year month day hour minute second micro : Nat) (offset : Option Int) : Prop :=
  (1 ≤ year ∧ year ≤ 9999) ∧ (1 ≤ month ∧ month ≤ 12) ∧ (1 ≤ day ∧ day ≤ daysInMonth year month) ∧
    hour < 24 ∧ minute < 60 ∧ second < 60 ∧ micro < 1000000 ∧
    (offset.all fun minutes => -1440 < minutes && minutes < 1440) = true

instance (year month day hour minute second micro : Nat) (offset : Option Int) :
    Decidable (Moment.InRange year month day hour minute second micro offset) :=
  inferInstanceAs (Decidable (_ ∧ _))

/-- A date and time of day, with the minutes by which its clock is ahead of universal time. -/
structure Moment where
  year : Nat
  month : Nat
  day : Nat
  hour : Nat
  minute : Nat
  second : Nat
  micro : Nat
  offset : Option Int
  inRange : Moment.InRange year month day hour minute second micro offset
  deriving DecidableEq

namespace Moment

def ofFields? (year month day hour minute second micro : Nat) (offset : Option Int) :
    Option Moment :=
  if h : InRange year month day hour minute second micro offset then
    some ⟨year, month, day, hour, minute, second, micro, offset, h⟩
  else
    none

/-- The days from the first of January 1970 to a day, months counted from March. -/
def daysFromEpoch (year month day : Nat) : Int :=
  let y : Int := if month ≤ 2 then (year : Int) - 1 else year
  let era := y / 400
  let yearOfEra := y % 400
  let monthFromMarch : Int := if month > 2 then (month : Int) - 3 else (month : Int) + 9
  let dayOfYear := (153 * monthFromMarch + 2) / 5 + day - 1
  let dayOfEra := yearOfEra * 365 + yearOfEra / 4 - yearOfEra / 100 + dayOfYear
  era * 146097 + dayOfEra - 719468

/-- The year, month and day that many days after the first of January 1970. -/
def dateOfDays (days : Int) : Int × Nat × Nat :=
  let z := days + 719468
  let era := z / 146097
  let dayOfEra := z % 146097
  let yearOfEra := (dayOfEra - dayOfEra / 1460 + dayOfEra / 36524 - dayOfEra / 146096) / 365
  let dayOfYear := dayOfEra - (365 * yearOfEra + yearOfEra / 4 - yearOfEra / 100)
  let monthFromMarch := (5 * dayOfYear + 2) / 153
  let day := dayOfYear - (153 * monthFromMarch + 2) / 5 + 1
  let month := if monthFromMarch < 10 then monthFromMarch + 3 else monthFromMarch - 9
  let year := yearOfEra + era * 400 + (if month ≤ 2 then 1 else 0)
  (year, month.toNat, day.toNat)

/-- The moment in universal time that many millionths of a second after the start of 1970. -/
def ofEpochMicros? (micros : Int) : Option Moment :=
  let days := micros / 86400000000
  let rest := (micros % 86400000000).toNat
  let (year, month, day) := dateOfDays days
  if year < 0 then none
  else ofFields? year.toNat month day (rest / 3600000000) (rest / 60000000 % 60)
    (rest / 1000000 % 60) (rest % 1000000) (some 0)

/-- The millionths of a second on the moment's own clock since its start of 1970. -/
def wallMicros (m : Moment) : Int :=
  ((daysFromEpoch m.year m.month m.day * 24 + m.hour) * 60 + m.minute) * 60000000
    + (m.second * 1000000 + m.micro : Nat)

/-- The key by which comparable moments are ordered. -/
def orderKey (m : Moment) : Int := m.wallMicros - m.offset.getD 0 * 60000000

/-- Two moments can be ordered: both know their distance from universal time, or neither does. -/
def comparable (a b : Moment) : Bool := a.offset.isSome == b.offset.isSome

def two (n : Nat) : List Char := Binary64.padded 2 n

/-- The offset as hours and minutes with a sign. -/
def writeOffset (minutes : Int) : List Char :=
  (if minutes < 0 then '-' else '+') ::
    (two (minutes.natAbs / 60) ++ ':' :: two (minutes.natAbs % 60))

def writeDate (m : Moment) : List Char :=
  Binary64.padded 4 m.year ++ '-' :: two m.month ++ '-' :: two m.day

/-- The time of day; millionths are written, all six, only when there are any. -/
def writeTime (m : Moment) : List Char :=
  two m.hour ++ ':' :: two m.minute ++ ':' :: two m.second ++
    (if m.micro == 0 then [] else '.' :: Binary64.padded 6 m.micro)

/-- The stored form of a moment: universal time is marked `Z`, another offset by its hours and
minutes, and nothing follows a time that knows no offset. -/
def write (m : Moment) : List Char :=
  m.writeDate ++ 'T' :: m.writeTime ++
    (match m.offset with
      | none => []
      | some minutes => if minutes == 0 then ['Z'] else writeOffset minutes)

def stored (m : Moment) : String := String.ofList m.write

/-- The date and the hour and minute of a moment, as a listing shows them. The year stands as it is,
without zeros in front. -/
def shown (m : Moment) : String :=
  toString m.year ++ String.ofList ('-' :: two m.month ++ '-' :: two m.day
    ++ ' ' :: two m.hour ++ ':' :: two m.minute)

end Moment

end Clickpath
