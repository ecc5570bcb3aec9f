import Clickpath.Text

/-! # Identifiers

A script carries the name of its test as an identifier, without the characters that are no word
characters.
-/

namespace Clickpath.Script

def wordChars (s : List Char) : List Char := s.filter Chars.isWord

/-- The name of a test as the name of a class. A name in front of which a digit would stand is
lengthened, and a name of which nothing is left is replaced. -/
def className (name : String) : String :=
  match wordChars name.toList with
  | [] => "GeneratedTest"
  | c :: rest =>
    if Chars.isDigit c then "Test" ++ String.ofList (c :: rest) else String.ofList (c :: rest)

/-- The name of a test as the name of a test function, in small letters with low lines between its
words. -/
def functionName (name : String) : String :=
  let joined := ['_'].intercalate (Chars.words Chars.isBlank (Chars.lower (Chars.trim name.toList)))
  match wordChars joined with
  | [] => "test_generated"
  | cs => "test_" ++ String.ofList cs

end Clickpath.Script
