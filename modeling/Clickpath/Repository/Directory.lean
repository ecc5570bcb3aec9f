import Clickpath.Disk.Wildcard
import Clickpath.Repository
import Clickpath.Yaml.Value
import Clickpath.Yaml.Writer

/-! # Tests in a directory

Each test has a file of its own, whose name need not have to do with the test's identifier. Files
that no test can be made of are passed over. A test is saved in the file that it was found in, or in
a new one that is named after it.
-/

namespace Clickpath.Repository

/-- How a stored record is written as a text and read from one. -/
structure Format where
  write : Datum → List Char
  read : List Char → Except Yaml.Fault Datum

def Format.yaml : Format := ⟨Yaml.write, Yaml.read⟩

/-- A directory for tests, and the format of the files in it. -/
structure Directory where
  path : String
  format : Format

/-! ## Files -/

def momentOfChange (micros : Int) : Except Fault Moment :=
  match Moment.ofEpochMicros? micros with
  | some m => .ok m
  | none => .error (.noSuchYear (Moment.dateOfDays (micros / 86400000000)).1)

/-- Entries with the identifier, if they name none, that goes by the name of their file. -/
def withId (path : String) (entries : List (Datum × Datum)) : List (Datum × Datum) :=
  match Datum.lookup? entries "id" with
  | some _ => entries
  | none => Datum.insert entries (.text "id") (.text (Path.stem path))

/-- Entries with the creation time, if they name none, at which their file was changed last. -/
def withCreation (changed : Int) (entries : List (Datum × Datum)) :
    Except Fault (List (Datum × Datum)) :=
  if (Datum.lookup? entries "created_at").isSome || (Datum.lookup? entries "createdAt").isSome then
    .ok entries
  else do
    let created ← momentOfChange changed
    .ok (Datum.insert entries (.text "created_at") (.moment created))

def recordIn (format : Format) (disk : Disk) (path : String) :
    Except Fault (List (Datum × Datum)) := do
  let file ← (disk.file path).mapError .disk
  let text ← file.content.read.mapError fun fault => .notText fault.inPieces
  match ← (format.read text.toList).mapError .format with
  | .map entries => withCreation file.changed (withId path entries)
  | _ => .error (.notADefinition path)

variable {τ : Type} [Textual τ] [DecidableEq τ]

def loadFile (format : Format) (disk : Disk) (path : String) (supply : Supply) :
    Except Fault (Test τ) × Supply :=
  match recordIn format disk path with
  | .error fault => (.error fault, supply)
  | .ok entries =>
    let (test, supply) := Designer.readTest entries supply
    (test.mapError .record, supply)

/-! ## Scans -/

/-- A test and the file that it was found in. -/
structure Found (τ : Type := String) where
  test : Test τ
  path : String

/-- Enters a test with its file, in the place of the one with its identifier. -/
def Found.enter (new : Found τ) : List (Found τ) → List (Found τ)
  | [] => [new]
  | old :: rest => if old.test.id = new.test.id then new :: rest else old :: enter new rest

namespace Directory

def patterns : List String := ["*.yaml", "*.yml", "*.json"]

def files (r : Directory) (disk : Disk) : List String :=
  (patterns.flatMap fun pattern => disk.matching r.path pattern).mergeSort fun a b => decide (a ≤ b)

/-- Scans files one after the other, after those that gave the reply so far. -/
def scanFiles (r : Directory) (disk : Disk) (found : List (Found τ)) (skipped : List Datum) :
    List String → Supply → Reply (List (Found τ))
  | [], supply => ⟨.ok found, skipped, supply⟩
  | path :: rest, supply =>
    match loadFile r.format disk path supply with
    | (.ok test, supply) => r.scanFiles disk (Found.enter ⟨test, path⟩ found) skipped rest supply
    | (.error fault, supply) =>
      if fault.isOfOneTest then r.scanFiles disk found (skipped ++ [.text path]) rest supply
      else ⟨.error fault, skipped, supply⟩

/-- The tests in the directory, each identifier once, in the order in which identifiers came up. Of
two files with one identifier the later counts. -/
def scan (r : Directory) (disk : Disk) (supply : Supply) : Reply (List (Found τ)) :=
  r.scanFiles disk [] [] (r.files disk) supply

/-! ## Operations -/

def ofPath (format : Format) (path : String) (disk : Disk) : Except Fault Directory × Disk :=
  if disk.holds path then (.ok ⟨path, format⟩, disk)
  else
    let (made, disk) := disk.makeDirectories path
    ((made.mapError .disk).map fun () => ⟨path, format⟩, disk)

/-- The test with an identifier. What a scan does not find under a key is told as a missing test. -/
def get (r : Directory) (disk : Disk) (id : τ) (supply : Supply) : Reply (Test τ) :=
  ((r.scan disk supply).andThen fun found => testWithId (found.map (·.test)) id).told
    (Fault.toSeeker (Textual.shown id))

def list (r : Directory) (disk : Disk) (supply : Supply) : Reply (List (Test τ)) :=
  (r.scan disk supply).andThen fun found => inOrder (found.map (·.test))

def pathFor (r : Directory) (found : List (Found τ)) (id : τ) : String :=
  match found.find? (·.test.id == id) with
  | some there => there.path
  | none => Path.join r.path (Textual.shown id ++ ".yaml")

/-- Writes a test to the file that it was found in, or to a new one, which no torn text names. -/
def store (r : Directory) (disk : Disk) (found : List (Found τ)) (test : Test τ) :
    Except Fault Disk :=
  if (Textual.string? test.id).isNone && !found.any (·.test.id == test.id) then .error .unencodable
  else
    (disk.write (r.pathFor found test.id) (String.ofList (r.format.write test.toDatum))).mapError
      .disk

/-- Saves a test, and gives it back. -/
def save (r : Directory) (disk : Disk) (test : Test τ) (supply : Supply) :
    Reply (Test τ) × Disk :=
  let reply := r.scan disk supply
  match reply.result.bind fun found => r.store disk found test with
  | .ok disk => ({ reply with result := .ok test }, disk)
  | .error fault => ({ reply with result := .error fault }, disk)

def replaceSteps (r : Directory) (disk : Disk) (id : τ) (steps : Datum) (supply : Supply) :
    Reply (Test τ) × Disk :=
  let reply := (r.get disk id supply).andThen fun test => withSteps test steps
  match reply.result with
  | .error _ => (reply, disk)
  | .ok updated =>
    let (saved, disk) := r.save disk updated reply.supply
    ({ saved with skipped := reply.skipped ++ saved.skipped }, disk)

end Directory

end Clickpath.Repository
