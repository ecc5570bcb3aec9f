/-! # Base64

Bytes are written as characters of sixty-four sorts, four for three bytes. Other characters are
passed over, and padding at the end of a group ends the text.
-/

namespace Clickpath.Base64

def value? (c : Char) : Option Nat :=
  if 'A' ≤ c && c ≤ 'Z' then some (c.toNat - 'A'.toNat)
  else if 'a' ≤ c && c ≤ 'z' then some (c.toNat - 'a'.toNat + 26)
  else if '0' ≤ c && c ≤ '9' then some (c.toNat - '0'.toNat + 52)
  else if c == '+' then some 62
  else if c == '/' then some 63
  else none

/-- The bytes of a text, given how far its current group is read: how many characters it has, what
is left of the last one, and the padding after it. -/
def decodeFrom? : Nat → Nat → Nat → List Char → Option (List Nat)
  | group, _, _, [] => if group == 0 then some [] else none
  | group, left, pads, c :: rest =>
    if c == '=' then
      if group ≥ 2 && group + pads + 1 ≥ 4 then some [] else decodeFrom? group left (pads + 1) rest
    else match value? c with
      | none => decodeFrom? group left pads rest
      | some value =>
        match group with
        | 0 => decodeFrom? 1 value 0 rest
        | 1 => (decodeFrom? 2 (value % 16) 0 rest).map ((left * 4 + value / 16) :: ·)
        | 2 => (decodeFrom? 3 (value % 4) 0 rest).map ((left * 16 + value / 4) :: ·)
        | _ => (decodeFrom? 0 0 0 rest).map ((left * 64 + value) :: ·)

def decode? (s : List Char) : Option (List Nat) := decodeFrom? 0 0 0 s

end Clickpath.Base64
