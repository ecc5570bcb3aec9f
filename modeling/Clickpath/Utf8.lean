import Clickpath.Chars.Digit

/-! # UTF-8

Texts are stored as bytes in UTF-8. What is not UTF-8 is refused with the place of the first byte
that does not fit, or of the bytes of a character that was begun and not finished.
-/

namespace Clickpath.Utf8

def encodeChar (c : Char) : List Nat :=
  let n := c.toNat
  if n < 0x80 then [n]
  else if n < 0x800 then [0xC0 + n / 0x40, 0x80 + n % 0x40]
  else if n < 0x10000 then [0xE0 + n / 0x1000, 0x80 + n / 0x40 % 0x40, 0x80 + n % 0x40]
  else [0xF0 + n / 0x40000, 0x80 + n / 0x1000 % 0x40, 0x80 + n / 0x40 % 0x40, 0x80 + n % 0x40]

def encode (s : List Char) : List Nat := s.flatMap encodeChar

inductive Reason where
  | badStart
  | badContinuation
  | unfinished
  deriving DecidableEq, Repr

/-- Bytes that are not UTF-8: what is wrong, the first byte of the character, its place, and how
many bytes of it are there. -/
structure Fault where
  reason : Reason
  byte : Nat
  position : Nat
  size : Nat
  deriving DecidableEq, Repr

def Reason.words : Reason → String
  | badStart => "invalid start byte"
  | badContinuation => "invalid continuation byte"
  | unfinished => "unexpected end of data"

def Fault.message (f : Fault) : String :=
  "'utf-8' codec can't decode "
    ++ (if f.size ≤ 1 then "byte 0x" ++ String.ofList (Chars.hexDigits 2 f.byte) ++ " in position "
          ++ toString f.position
        else "bytes in position " ++ toString f.position ++ "-" ++
          toString (f.position + f.size - 1))
    ++ ": " ++ f.reason.words

/-- The number of bytes of a character with this first byte, and the bounds of its second byte. -/
def lead? (byte : Nat) : Option (Nat × Nat × Nat) :=
  if 0xC2 ≤ byte && byte ≤ 0xDF then some (2, 0x80, 0xBF)
  else if byte == 0xE0 then some (3, 0xA0, 0xBF)
  else if byte == 0xED then some (3, 0x80, 0x9F)
  else if 0xE1 ≤ byte && byte ≤ 0xEF then some (3, 0x80, 0xBF)
  else if byte == 0xF0 then some (4, 0x90, 0xBF)
  else if 0xF1 ≤ byte && byte ≤ 0xF3 then some (4, 0x80, 0xBF)
  else if byte == 0xF4 then some (4, 0x80, 0x8F)
  else none

/-- How many bytes at the start continue a character whose next byte has the given bounds. -/
def continued (low high : Nat) : Nat → List Nat → Nat
  | 0, _ => 0
  | _, [] => 0
  | n + 1, byte :: rest =>
    if low ≤ byte && byte ≤ high then 1 + continued 0x80 0xBF n rest else 0

def codeOf (size first : Nat) (more : List Nat) : Nat :=
  let high := if size == 2 then first % 0x20 else if size == 3 then first % 0x10 else first % 0x08
  more.foldl (fun code byte => code * 0x40 + byte % 0x40) high

/-- The text of bytes, given how many came before them. The fuel is at least their number. -/
def decodeFrom (position : Nat) : Nat → List Nat → Except Fault (List Char)
  | 0, _ => .ok []
  | _, [] => .ok []
  | fuel + 1, first :: rest =>
    if first < 0x80 then (decodeFrom (position + 1) fuel rest).map (Char.ofNat first :: ·)
    else match lead? first with
      | none => .error ⟨.badStart, first, position, 1⟩
      | some (size, low, high) =>
        let found := continued low high (size - 1) rest
        if found == size - 1 then
          (decodeFrom (position + size) fuel (rest.drop found)).map
            (Char.ofNat (codeOf size first (rest.take found)) :: ·)
        else if found == rest.length then .error ⟨.unfinished, first, position, found + 1⟩
        else .error ⟨.badContinuation, first, position, found + 1⟩

def decode (bytes : List Nat) : Except Fault (List Char) := decodeFrom 0 bytes.length bytes

/-- The fault as it is found when the bytes arrive piece by piece: a character that is not finished
is all that is left at the end. -/
def Fault.inPieces (f : Fault) : Fault :=
  match f.reason with
  | .unfinished => { f with position := 0 }
  | _ => f

end Clickpath.Utf8
