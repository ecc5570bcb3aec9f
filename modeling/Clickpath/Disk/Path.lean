import Clickpath.Text

/-! # Paths

A path is a text: names with slashes between them. What follows works on the text alone and asks no
disk whether anything is there.
-/

namespace Clickpath.Path

def isAbsolute (path : String) : Bool := path.toList.head? == some '/'

/-- The path ends with a slash, so that it can only name a directory. -/
def endsWithSlash (path : String) : Bool := path.toList.getLast? == some '/'

/-- The path of a name in a directory. An absolute name stands for itself. -/
def join (directory name : String) : String :=
  if isAbsolute name then name
  else if directory.isEmpty || endsWithSlash directory then directory ++ name
  else directory ++ "/" ++ name

/-- The path without the slashes at its end, unless it has nothing else. -/
def withoutEndSlashes (path : String) : String :=
  match path.toList.reverse.dropWhile (· == '/') with
  | [] => path
  | kept => String.ofList kept.reverse

def split (path : String) : String × String :=
  let (directory, name) := Chars.splitAtLast '/' path.toList
  (withoutEndSlashes (String.ofList directory), String.ofList name)

def base (path : String) : String := (split path).2

/-- The last name of a path without its extension. A name that has dots in front only, and none
further on, has no extension. -/
def stem (path : String) : String :=
  let name := (base path).toList
  let (kept, _) := Chars.splitAtLast '.' name
  let kept := kept.dropLast
  if kept.all (· == '.') then String.ofList name else String.ofList kept

/-- The names and empty parts of a path between its slashes. -/
def parts (path : String) : List String := (Chars.splitOn '/' path.toList).map String.ofList

end Clickpath.Path
