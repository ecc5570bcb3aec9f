import Clickpath.Disk
import Clickpath.Record.Designer
import Clickpath.Yaml.Fault

/-! # Repositories

A repository keeps tests and finds them by their identifiers. There are three: one in memory, one in
a directory with a file for each test, and one that shows what a designer backend lists. What can go
wrong with any of them, and the order in which they list tests, is here.
-/

namespace Clickpath.Repository

inductive Fault where
  | unknownTest (id : String)
  /-- A file holds no fields. -/
  | notADefinition (path : String)
  /-- A backend answers, but not with what was asked for. -/
  | badStatus (status : Int) (url : String)
  /-- A backend does not answer, or not with data. -/
  | noAnswer (reason : String)
  | notAList (url : String)
  /-- The data of a backend holds too many lists inside each other. -/
  | tooDeep
  | readOnly (url : String)
  | record (cause : Record.Fault)
  | format (cause : Yaml.Fault)
  | notText (cause : Utf8.Fault)
  | disk (cause : Disk.Fault)
  /-- A file is to be named after a torn text. -/
  | unencodable
  /-- A file was changed in a year that no moment has. -/
  | noSuchYear (year : Int)
  /-- Creation times with and without an offset have no order. -/
  | noOrder

def Fault.message? : Fault → Option String
  | unknownTest id => some ("Test '" ++ id ++ "' not found")
  | notADefinition path => some (path ++ " does not contain a test definition")
  | badStatus status url => some ("HTTP Error " ++ toString status ++ " from " ++ url)
  | noAnswer reason => some ("Error fetching from API: " ++ reason)
  | notAList url => some ("Expected a list of tests from " ++ url)
  | readOnly url => some (url ++ " is a read-only test source")
  | _ => none

/-- The fault lies in what one test was to be made of, and not in the repository. -/
def Fault.isOfOneTest : Fault → Bool
  | notADefinition _ => true
  | disk cause => cause.cause != .zeroInPath
  | format cause => cause == .malformed
  | record cause =>
    match cause with
    | .malformedStep .. | .unknownStepKind _ | .invalid _ => true
    | .notAContainer | .notARecord | .unshowable => false
  | _ => false

/-- The fault says that something is not found under a key, whatever was looked for. -/
def Fault.isOfLookup : Fault → Bool
  | unknownTest _ | format (.notATruthValue _) => true
  | _ => false

/-- The fault as one who looks for a test is told of it. -/
def Fault.toSeeker (id : String) (fault : Fault) : Fault :=
  if fault.isOfLookup then .unknownTest id else fault

/-- The answer of a repository, what it passed over on the way, and the supply afterwards. -/
structure Reply (α : Type) where
  result : Except Fault α
  skipped : List Datum
  supply : Supply

def Reply.andThen (r : Reply α) (f : α → Except Fault β) : Reply β :=
  { r with result := r.result.bind f }

/-- The reply with its fault, if it is one, told in another way. -/
def Reply.told (r : Reply α) (f : Fault → Fault) : Reply α :=
  { r with result := r.result.mapError f }

variable {τ : Type} [Textual τ] [DecidableEq τ]

def inOrder (tests : List (Test τ)) : Except Fault (List (Test τ)) :=
  if Test.allComparable tests then .ok (Test.newestFirst tests) else .error .noOrder

/-- The first test with an identifier. -/
def testWithId (tests : List (Test τ)) (id : τ) : Except Fault (Test τ) :=
  match tests.find? (·.id == id) with
  | some test => .ok test
  | none => .error (.unknownTest (Textual.shown id))

def withSteps (test : Test τ) (steps : Datum) : Except Fault (Test τ) :=
  (test.withSteps steps).mapError .record

end Clickpath.Repository
