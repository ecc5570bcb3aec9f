import Clickpath.Text.Loose

/-! # Texts in quotation marks

Messages show a text in quotation marks, which are single unless the text holds single and no double
ones. What has no visible form is shown by its code.
-/

namespace Clickpath.Text

def quoteChar (mark c : Char) : List Char :=
  if c == mark || c == '\\' then ['\\', c]
  else if c == '\n' then ['\\', 'n']
  else if c == '\r' then ['\\', 'r']
  else if c == '\t' then ['\\', 't']
  else if Chars.isPrintable c then [c]
  else if c.toNat < 0x100 then '\\' :: 'x' :: Chars.hexDigits 2 c.toNat
  else if c.toNat < 0x10000 then '\\' :: 'u' :: Chars.hexDigits 4 c.toNat
  else '\\' :: 'U' :: Chars.hexDigits 8 c.toNat

def quoted (s : String) : String :=
  let cs := s.toList
  let mark := if cs.contains '\'' && !cs.contains '\x22' then '\x22' else '\''
  String.ofList (mark :: cs.flatMap (quoteChar mark) ++ [mark])

end Clickpath.Text

namespace Clickpath.Loose

/-- A glyph between quotation marks. A half is shown by its code. -/
def quoteGlyph (mark : Char) : Glyph → List Char
  | .char c => Text.quoteChar mark c
  | .half h => '\\' :: 'u' :: Chars.hexDigits 4 h.unit

def quoted (l : Loose) : String :=
  let holds (c : Char) : Bool := l.glyphs.contains (.char c)
  let mark := if holds '\'' && !holds '\x22' then '\x22' else '\''
  String.ofList (mark :: l.glyphs.flatMap (quoteGlyph mark) ++ [mark])

end Clickpath.Loose
