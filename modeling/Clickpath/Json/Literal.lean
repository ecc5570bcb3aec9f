import Clickpath.Chars.Digit

/-! # String literals

A string literal of JSON, which is one of Java, JavaScript and Python as well. Quotation marks,
backslashes and control characters are escaped; a literal may be kept to visible ASCII characters,
and then every other character is written by its UTF-16 code units.
-/

namespace Clickpath.Json

def unitEscape (unit : Nat) : List Char := '\\' :: 'u' :: Chars.hexDigits 4 unit

/-- A character by its UTF-16 code units, two of them beyond the basic plane. -/
def unicodeEscape (c : Char) : List Char :=
  if c.toNat < 0x10000 then unitEscape c.toNat
  else
    let rest := c.toNat - 0x10000
    unitEscape (0xD800 + rest / 0x400) ++ unitEscape (0xDC00 + rest % 0x400)

def literalChar (ascii : Bool) (c : Char) : List Char :=
  if c == '\x22' then ['\\', '\x22']
  else if c == '\\' then ['\\', '\\']
  else if c == '\n' then ['\\', 'n']
  else if c == '\r' then ['\\', 'r']
  else if c == '\t' then ['\\', 't']
  else if c.toNat == 0x0C then ['\\', 'f']
  else if c.toNat == 0x08 then ['\\', 'b']
  else if c.toNat < 0x20 then unicodeEscape c
  else if ascii && c.toNat > 0x7E then unicodeEscape c
  else [c]

def literalChars (ascii : Bool) (s : List Char) : List Char :=
  '\x22' :: s.flatMap (literalChar ascii) ++ ['\x22']

def literal (ascii : Bool) (s : String) : String := String.ofList (literalChars ascii s.toList)

end Clickpath.Json
