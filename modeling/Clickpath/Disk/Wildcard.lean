import Clickpath.Disk

/-! # Wildcards

A pattern stands for the names that it matches: a star for any characters, a question mark for one,
and brackets for one of those in them, or with an exclamation mark for one that is not. Names that
begin with a dot are matched only by patterns that do. A pattern may hold directories, which are
then patterns too.
-/

namespace Clickpath.Wildcard

inductive Part where
  | anyText
  | anyCharacter
  | exactly (c : Char)
  | oneOf (ranges : List (Char × Char))
  | noneOf (ranges : List (Char × Char))
  deriving DecidableEq, Repr

/-- A text could be a pattern for other texts than itself. -/
def isPattern (s : List Char) : Bool := s.any fun c => c == '*' || c == '?' || c == '['

/-- The characters between brackets and the text behind them; a closing bracket in front counts as a
character. -/
def bracketed? : List Char → Option (List Char × List Char)
  | '!' :: ']' :: rest => (Chars.breakOn? [']'] rest).map fun (s, after) => ('!' :: ']' :: s, after)
  | ']' :: rest => (Chars.breakOn? [']'] rest).map fun (s, after) => (']' :: s, after)
  | s => Chars.breakOn? [']'] s

/-- The ranges of characters that the inside of brackets lists, the empty ones left out. -/
def rangesOf : List Char → List (Char × Char)
  | low :: '-' :: high :: rest => if low ≤ high then (low, high) :: rangesOf rest else rangesOf rest
  | c :: rest => (c, c) :: rangesOf rest
  | [] => []

/-- The part that brackets make. -/
def bracketPart (inside : List Char) : Part :=
  match inside with
  | '!' :: rest => .noneOf (rangesOf rest)
  | _ =>
    match rangesOf inside with
    | ('!', '!') :: ranges => .noneOf ranges
    | ranges => .oneOf ranges

/-- The parts of a pattern. The fuel is at least its length. -/
def partsWith : Nat → List Char → List Part
  | 0, _ => []
  | _, [] => []
  | fuel + 1, '*' :: rest => .anyText :: partsWith fuel rest
  | fuel + 1, '?' :: rest => .anyCharacter :: partsWith fuel rest
  | fuel + 1, '[' :: rest =>
    match bracketed? rest with
    | some (inside, after) => bracketPart inside :: partsWith fuel after
    | none => .exactly '[' :: partsWith fuel rest
  | fuel + 1, c :: rest => .exactly c :: partsWith fuel rest

def parts (pattern : List Char) : List Part := partsWith pattern.length pattern

def within (ranges : List (Char × Char)) (c : Char) : Bool :=
  ranges.any fun range => range.1 ≤ c && c ≤ range.2

/-- A property holds of a text or of one of its endings. -/
def anyEnding (p : List Char → Bool) : List Char → Bool
  | [] => p []
  | c :: rest => p (c :: rest) || anyEnding p rest

def partsMatch : List Part → List Char → Bool
  | [], s => s.isEmpty
  | .anyText :: rest, s => anyEnding (partsMatch rest) s
  | _ :: _, [] => false
  | .anyCharacter :: rest, _ :: s => partsMatch rest s
  | .exactly c :: rest, d :: s => c == d && partsMatch rest s
  | .oneOf ranges :: rest, d :: s => within ranges d && partsMatch rest s
  | .noneOf ranges :: rest, d :: s => !within ranges d && partsMatch rest s

/-- The name is kept from patterns that do not begin with a dot. -/
def isHidden (name : String) : Bool := name.toList.head? == some '.'

def nameMatches (pattern name : String) : Bool :=
  (isHidden pattern || !isHidden name) && partsMatch (parts pattern.toList) name.toList

end Clickpath.Wildcard

namespace Clickpath.Disk

open Wildcard

def namesMatching (d : Disk) (directory pattern : String) : List (String × DiskEntry) :=
  (d.listing directory).filter fun entry => nameMatches pattern entry.1

/-- The names of the directories in a directory that a pattern, or a plain name, matches. -/
def directoryNames (d : Disk) (directory name : String) : List String :=
  if isPattern name.toList then
    (d.namesMatching directory name).filterMap fun entry => match entry.2 with
      | .directory => some entry.1
      | .file _ => none
  else if d.holds (Path.join directory name) then [name]
  else []

/-- The directories that a path stands for, each part of which may be a pattern. The fuel is at
least the number of parts. -/
def directoriesWith : Nat → Disk → String → List String
  | 0, _, path => [path]
  | fuel + 1, d, path =>
    if !isPattern path.toList then [path]
    else
      let (above, name) := Path.split path
      if above.isEmpty then d.directoryNames "" name
      else (directoriesWith fuel d above).flatMap fun directory =>
        (d.directoryNames directory name).map (Path.join directory)

/-- The paths that a pattern for names matches in a directory, which may be a pattern itself. -/
def matching (d : Disk) (directory pattern : String) : List String :=
  let (directory, pattern) := Path.split (Path.join directory pattern)
  (directoriesWith directory.length d directory).flatMap fun found =>
    (d.namesMatching found pattern).map fun entry => Path.join found entry.1

end Clickpath.Disk
