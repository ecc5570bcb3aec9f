import Clickpath.Text

/-! # Text conditions of path expressions

A string literal of a path expression ends at its own quotation mark and has no escapes. A text with
both marks is therefore put together from parts without single marks and single marks between them.
-/

namespace Clickpath.XPath

def inSingleMarks (s : List Char) : List Char := '\'' :: s ++ ['\'']

def inDoubleMarks (s : List Char) : List Char := '\x22' :: s ++ ['\x22']

/-- Parts between single marks, joined by a literal that is one single mark. -/
def joinParts : List (List Char) → List Char
  | [] => []
  | [part] => inSingleMarks part
  | part :: parts =>
    inSingleMarks part ++ ", ".toList ++ inDoubleMarks ['\''] ++ ", ".toList ++ joinParts parts

def literalChars (s : List Char) : List Char :=
  if !s.contains '\'' then inSingleMarks s
  else if !s.contains '\x22' then inDoubleMarks s
  else "concat(".toList ++ joinParts (Chars.splitOn '\'' s) ++ [')']

def literal (s : String) : String := String.ofList (literalChars s.toList)

/-- The path to the elements with exactly this text. -/
def withText (s : String) : String := "//*[text()=" ++ literal s ++ "]"

end Clickpath.XPath
