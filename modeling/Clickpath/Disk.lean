import Clickpath.Datum.Display
import Clickpath.Disk.Path
import Clickpath.Utf8

/-! # Disks

A disk holds files and directories under locations, which are lists of names from the top. A path is
followed name by name from the current directory, so each directory on the way has to be there.
-/

namespace Clickpath

/-- What a file holds: a text, or bytes that are none. -/
inductive Content where
  | text (text : String)
  | garbled (fault : Utf8.Fault)

def Content.ofBytes (bytes : List Nat) : Content :=
  match Utf8.decode bytes with
  | .ok s => .text (String.ofList s)
  | .error fault => .garbled fault

/-- The text of a file as a reader of lines sees it: every line ends with a line feed. -/
def Content.read : Content → Except Utf8.Fault String
  | .text s => .ok (String.ofList (Chars.unifyLineEnds s.toList))
  | .garbled fault => .error fault

/-- A file, with the time of its last change in millionths of a second since 1970. -/
structure File where
  content : Content
  changed : Int

inductive DiskEntry where
  | file (file : File)
  | directory

/-- Names from the top of a disk downwards. -/
abbrev Location := List String

/-- Files and directories by location, the directory at which relative paths start, and the time
that files written now get. The top is always a directory. -/
structure Disk where
  entries : List (Location × DiskEntry)
  current : Location
  present : Int

namespace Disk

inductive Cause where
  | noSuchFile
  | alreadyThere
  | notADirectory
  | isADirectory
  | nameTooLong
  /-- The path holds the character with code zero. -/
  | zeroInPath
  deriving DecidableEq, Repr

structure Fault where
  cause : Cause
  path : String
  deriving DecidableEq, Repr

/-- The number and the words by which a cause goes; a zero has none. -/
def Cause.words? : Cause → Option (Nat × String)
  | noSuchFile => some (2, "No such file or directory")
  | alreadyThere => some (17, "File exists")
  | notADirectory => some (20, "Not a directory")
  | isADirectory => some (21, "Is a directory")
  | nameTooLong => some (36, "File name too long")
  | zeroInPath => none

def Fault.message (f : Fault) : String :=
  match f.cause.words? with
  | some (number, words) =>
    "[Errno " ++ toString number ++ "] " ++ words ++ ": " ++ Text.quoted f.path
  | none => "embedded null byte"

def maxNameSize : Nat := 255

def maxPathSize : Nat := 4095

def entryAt? (d : Disk) (place : Location) : Option DiskEntry :=
  if place.isEmpty then some .directory else d.entries.lookup place

/-- Follows parts of a path. The last part may name nothing yet. -/
def follow (d : Disk) : Location → List String → Except Cause Location
  | here, [] => .ok here
  | here, part :: rest =>
    match d.entryAt? here with
    | none => .error .noSuchFile
    | some (.file _) => .error .notADirectory
    | some .directory =>
      if part.isEmpty || part == "." then follow d here rest
      else if part == ".." then follow d here.dropLast rest
      else if part.utf8ByteSize > maxNameSize then .error .nameTooLong
      else follow d (here ++ [part]) rest

def locate (d : Disk) (path : String) : Except Cause Location :=
  if path.isEmpty then .error .noSuchFile
  else if path.toList.contains '\x00' then .error .zeroInPath
  else if path.utf8ByteSize > maxPathSize then .error .nameTooLong
  else d.follow (if Path.isAbsolute path then [] else d.current) (Path.parts path)

def find? (d : Disk) (path : String) : Option DiskEntry :=
  match d.locate path with
  | .ok place => d.entryAt? place
  | .error _ => none

def holds (d : Disk) (path : String) : Bool := (d.find? path).isSome

def holdsDirectory (d : Disk) (path : String) : Bool :=
  match d.find? path with
  | some .directory => true
  | _ => false

def file (d : Disk) (path : String) : Except Fault File :=
  match d.locate path with
  | .error cause => .error ⟨cause, path⟩
  | .ok place =>
    match d.entryAt? place with
    | some (.file file) => .ok file
    | some .directory => .error ⟨.isADirectory, path⟩
    | none => .error ⟨.noSuchFile, path⟩

def enter (place : Location) (entry : DiskEntry) :
    List (Location × DiskEntry) → List (Location × DiskEntry)
  | [] => [(place, entry)]
  | old :: rest => if old.1 = place then (place, entry) :: rest else old :: enter place entry rest

def put (d : Disk) (place : Location) (entry : DiskEntry) : Disk :=
  { d with entries := enter place entry d.entries }

/-- The location at which a file of a path is written. A path that ends with a slash names none. -/
def locateForWriting (d : Disk) (path : String) : Except Cause Location := do
  let place ← d.locate (Path.withoutEndSlashes path)
  if Path.endsWithSlash path then .error .isADirectory
  else match d.entryAt? place with
    | some .directory => .error .isADirectory
    | _ => .ok place

/-- Writes a text to a file, in the place of what the file held. -/
def write (d : Disk) (path text : String) : Except Fault Disk :=
  match d.locateForWriting path with
  | .error cause => .error ⟨cause, path⟩
  | .ok place => .ok (d.put place (.file ⟨.text text, d.present⟩))

/-- The files below a location, by their paths from there, in the order of the paths. -/
def filesBelow (d : Disk) (place : Location) : List (String × File) :=
  (d.entries.filterMap fun entry => match entry.2 with
    | .directory => none
    | .file file =>
      if place.isPrefixOf entry.1 then some ("/".intercalate (entry.1.drop place.length), file)
      else none).mergeSort fun a b => decide (a.1 ≤ b.1)

def makeDirectory (d : Disk) (path : String) : Except Fault Disk :=
  match d.locate (Path.withoutEndSlashes path) with
  | .error cause => .error ⟨cause, path⟩
  | .ok place =>
    match d.entryAt? place with
    | some _ => .error ⟨.alreadyThere, path⟩
    | none => .ok (d.put place .directory)

/-- Makes a directory. One that is there already is a fault only if that is asked for. -/
def makeLast (fresh : Bool) (d : Disk) (path : String) : Except Fault Unit × Disk :=
  match d.makeDirectory path with
  | .ok made => (.ok (), made)
  | .error fault => (if fresh || !d.holdsDirectory path then .error fault else .ok (), d)

/-- The directory around a path and the name in it; slashes at the end do not count. -/
def splitNamed (path : String) : String × String :=
  let (directory, name) := Path.split path
  if name.isEmpty then Path.split directory else (directory, name)

/-- Makes a directory and those around it that are missing, the outermost first. The fuel is at
least the number of directories. -/
def makeWith (fresh : Bool) : Nat → Disk → String → Except Fault Unit × Disk
  | 0, d, path => d.makeLast fresh path
  | fuel + 1, d, path =>
    let (directory, name) := splitNamed path
    if directory.isEmpty || name.isEmpty || d.holds directory then d.makeLast fresh path
    else
      let (made, d) := makeWith fresh fuel d directory
      match made with
      | .error ⟨.alreadyThere, _⟩ | .ok () =>
        if name == "." then (.ok (), d) else d.makeLast fresh path
      | .error fault => (.error fault, d)

def makeDirectories (d : Disk) (path : String) : Except Fault Unit × Disk :=
  makeWith true path.length d path

/-- Makes a directory and those around it, unless they are there. -/
def ensureDirectory (d : Disk) (path : String) : Except Fault Unit × Disk :=
  makeWith false path.length d path

/-- The disk with a file at a path and the directories around it, as far as they can be made. -/
def withFile (d : Disk) (path : String) (file : File) : Disk :=
  let above := (Path.split path).1
  let d := if above.isEmpty then d else (d.ensureDirectory above).2
  match d.locate path with
  | .ok place => d.put place (.file file)
  | .error _ => d

def nameIn? (directory place : Location) : Option String :=
  match place.getLast? with
  | some name => if place.dropLast = directory then some name else none
  | none => none

def listing (d : Disk) (path : String) : List (String × DiskEntry) :=
  match d.locate (if path.isEmpty then "." else path) with
  | .error _ => []
  | .ok place => d.entries.filterMap fun entry => (nameIn? place entry.1).map fun n => (n, entry.2)

end Disk

end Clickpath
