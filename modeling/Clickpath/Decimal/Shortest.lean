import Clickpath.Decimal.Binary64

/-! # Shortest decimal text

The written form of a floating-point number has the fewest digits that read back as the same
number, and of those the nearest to it. Sizes from a ten-thousandth up to ten to the sixteenth are
written with a point, others with an exponent of at least two digits.
-/

namespace Clickpath.Binary64

/-- The real numbers that round to a positive finite number: the ends as multiples of `1 / scale`,
and whether the ends themselves belong to it. -/
structure Neighbourhood where
  low : Nat
  value : Nat
  high : Nat
  scale : Nat
  closed : Bool

/-- The neighbourhood of a positive finite number. The number below a power of two is only half as
far away as the one above. -/
def neighbourhood (x : Binary64) : Neighbourhood :=
  let m := x.significand
  let below := if x.fraction == 0 && x.exponentField > 1 then 1 else 2
  let q := x.exponent - 2
  let up := if 0 ≤ q then Nat.pow 2 q.toNat else 1
  let scale := if 0 ≤ q then 1 else Nat.pow 2 (-q).toNat
  ⟨(4 * m - below) * up, 4 * m * up, (4 * m + 2) * up, scale, m % 2 == 0⟩

/-- A multiple of `10 ^ place` lies in the neighbourhood. -/
def Neighbourhood.holds (n : Neighbourhood) (multiple : Nat) (place : Int) : Bool :=
  let up := if 0 ≤ place then Nat.pow 10 place.toNat else 1
  let down := if 0 ≤ place then 1 else Nat.pow 10 (-place).toNat
  let point := multiple * up * n.scale
  if n.closed then n.low * down ≤ point && point ≤ n.high * down
  else n.low * down < point && point < n.high * down

/-- The multiple of `10 ^ place` that is nearest to the value among those in the neighbourhood. -/
def Neighbourhood.nearest? (n : Neighbourhood) (place : Int) : Option Nat :=
  let up := if 0 ≤ place then Nat.pow 10 place.toNat else 1
  let down := if 0 ≤ place then 1 else Nat.pow 10 (-place).toNat
  let unit := up * n.scale
  let low := n.value * down / unit
  let rest := 2 * (n.value * down % unit)
  let lowHolds := n.holds low place
  let highHolds := n.holds (low + 1) place
  if lowHolds && highHolds then
    some (if rest < unit || (rest == unit && low % 2 == 0) then low else low + 1)
  else if lowHolds then some low
  else if highHolds then some (low + 1)
  else none

/-- The first place, from `place` downwards, with a multiple in the neighbourhood. -/
def Neighbourhood.search (n : Neighbourhood) : Nat → Int → Nat × Int
  | 0, place => (n.value * Nat.pow 10 (-place).toNat / n.scale, place)
  | steps + 1, place =>
    match n.nearest? place with
    | some multiple => (multiple, place)
    | none => n.search steps (place - 1)

/-- A number without the zeros at its end, with its power of ten raised for each. -/
def stripZeros : Nat → Nat → Int → Nat × Int
  | 0, digits, power => (digits, power)
  | steps + 1, digits, power =>
    if digits != 0 && digits % 10 == 0 then stripZeros steps (digits / 10) (power + 1)
    else (digits, power)

def shortest (x : Binary64) : Nat × Int :=
  let n := x.neighbourhood
  let (digits, power) := n.search 700 309
  stripZeros 20 digits power

/-- The digits of a number in base ten, at least `width` of them. -/
def padded (width n : Nat) : List Char :=
  let digits := (Nat.toDigits 10 n)
  List.replicate (width - digits.length) '0' ++ digits

def writeDigits (digits : List Char) (power : Int) : List Char :=
  let point : Int := digits.length + power
  if -3 ≤ point && point ≤ 16 then
    if point ≤ 0 then '0' :: '.' :: (List.replicate (-point).toNat '0' ++ digits)
    else if power ≥ 0 then digits ++ List.replicate power.toNat '0' ++ ['.', '0']
    else digits.take point.toNat ++ '.' :: digits.drop point.toNat
  else
    let head := match digits with
      | [] => []
      | [d] => [d]
      | d :: rest => d :: '.' :: rest
    let e := point - 1
    head ++ 'e' :: (if e < 0 then '-' else '+') :: padded 2 e.natAbs

def write (x : Binary64) : List Char :=
  if x.isNaN then ['n', 'a', 'n']
  else
    let size :=
      if x.isInfinite then ['i', 'n', 'f']
      else if x.isZero then ['0', '.', '0']
      else
        let (digits, power) := x.shortest
        writeDigits (Nat.toDigits 10 digits) power
    if x.negative then '-' :: size else size

end Clickpath.Binary64
