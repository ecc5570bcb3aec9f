import Clickpath.Chars.AnyCase
import Clickpath.Chars.Blank
import Clickpath.Chars.Digit
import Clickpath.Decimal.Binary64
import Clickpath.Text.Quoted

/-! # Reading numbers

A written number may have blanks around it, a sign in front, and low lines between its digits. Whole
numbers are read in a base and may repeat it as a letter after a zero; the decimal digits of every
script are understood. A whole number in base ten with too many digits is not read.
-/

namespace Clickpath.Decimal

/-- A decimal digit of any script as the ASCII digit of its value; other characters as they are. -/
def plainDigit (c : Char) : Char :=
  match Chars.decimalValue? c with
  | some value => Char.ofNat ('0'.toNat + value)
  | none => c

/-- The value of an ASCII digit, or of a letter of ASCII that counts on. -/
def digitValue? (c : Char) : Option Nat :=
  let small := Chars.asciiLower c
  if Chars.isAsciiDigit c then some (c.toNat - '0'.toNat)
  else if 'a' ≤ small && small ≤ 'z' then some (small.toNat - 'a'.toNat + 10)
  else none

/-- The number that digits below a base denote, with single low lines between them. -/
def readDigits? (base : Nat) : Nat → List Char → Option Nat
  | _, [] => none
  | total, c :: rest => do
    let value ← digitValue? c
    if value < base then
      let total := total * base + value
      match rest with
      | [] => some total
      | '_' :: rest => readDigits? base total rest
      | rest => readDigits? base total rest
    else none

def baseLetter? : Nat → Option Char
  | 2 => some 'b'
  | 8 => some 'o'
  | 16 => some 'x'
  | _ => none

/-- The text after a zero and the letter of the base, if it starts with them. -/
def afterBaseMark (base : Nat) (s : List Char) : List Char :=
  match s, baseLetter? base with
  | '0' :: c :: rest, some letter =>
    if Chars.asciiLower c == letter then
      match rest with
      | '_' :: rest => rest
      | rest => rest
    else s
  | _, _ => s

def splitSign : List Char → Bool × List Char
  | '-' :: rest => (true, rest)
  | '+' :: rest => (false, rest)
  | s => (false, s)

/-- A blank that may stand around a number. The separators of information do not. -/
def isMargin (c : Char) : Bool := Chars.isBlank c && !(0x1C ≤ c.toNat && c.toNat ≤ 0x1F)

/-- The most digits with which a whole number is read or written in base ten. -/
def digitLimit : Nat := 4300

def excess (count : Nat) : String :=
  "Exceeds the limit (" ++ toString digitLimit
    ++ " digits) for integer string conversion: value has "
    ++ toString count ++ " digits; use sys.set_int_max_str_digits() to increase the limit"

/-- What a number is read from: the text without the blanks around it, in ASCII digits. -/
def numeral (s : List Char) : List Char :=
  (((s.dropWhile isMargin).reverse.dropWhile isMargin).reverse).map plainDigit

/-- How many digits in base ten the number at the start of a text has. -/
def digitCount (s : List Char) : Nat :=
  ((splitSign (numeral s)).2.takeWhile fun c => Chars.isAsciiDigit c || c == '_').countP
    Chars.isAsciiDigit

/-- A text has too many digits to be read in a base. Bases whose digits are groups of bits have no
limit. -/
def isTooLong (base : Nat) (s : List Char) : Bool := base == 10 && digitCount s > digitLimit

/-- The whole number that a text denotes in a base. -/
def readWhole? (base : Nat) (s : List Char) : Option Int :=
  if isTooLong base s then none
  else
    let (negative, s) := splitSign (numeral s)
    (readDigits? base 0 (afterBaseMark base s)).map fun size =>
      if negative then -(size : Int) else size

/-- Why a text denotes no whole number. -/
structure NotWhole where
  text : String
  base : Nat
  deriving DecidableEq, Repr

def NotWhole.message (n : NotWhole) : String :=
  if isTooLong n.base n.text.toList then excess (digitCount n.text.toList)
  else "invalid literal for int() with base " ++ toString n.base ++ ": " ++ Text.quoted n.text

def specialWords : List (String × Binary64) :=
  [("inf", .infinity), ("infinity", .infinity), ("nan", .nan)]

def readExponent? : List Char → Option Int
  | [] => some 0
  | e :: rest =>
    if e == 'e' || e == 'E' then
      let (negative, digits) := splitSign rest
      if digits.isEmpty || !digits.all Chars.isAsciiDigit then none
      else
        let size : Int := Chars.decimalNumber digits
        some (if negative then -size else size)
    else none

/-- The floating-point number that digits, a point and an exponent denote. -/
def readPlain? (negative : Bool) (s : List Char) : Option Binary64 :=
  let whole := s.takeWhile Chars.isAsciiDigit
  let rest := s.drop whole.length
  let (fraction, rest) := match rest with
    | '.' :: rest =>
      let digits := rest.takeWhile Chars.isAsciiDigit
      (digits, rest.drop digits.length)
    | rest => ([], rest)
  if whole.isEmpty && fraction.isEmpty then none
  else (readExponent? rest).map fun power =>
    Binary64.ofDecimal negative (Chars.decimalNumber (whole ++ fraction)) (power - fraction.length)

/-- The floating-point number that a text without low lines denotes. -/
def readBinary64? (s : List Char) : Option Binary64 :=
  let (negative, s) := splitSign (numeral s)
  match specialWords.lookup (String.ofList (s.map Chars.asciiLower)) with
  | some x => some (if negative then .ofFloat (-x.toFloat) else x)
  | none => readPlain? negative s

end Clickpath.Decimal
