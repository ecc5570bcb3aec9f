import Clickpath.Command
import Clickpath.Command.World
import Clickpath.Locator.Place
import Clickpath.Scenario
import Clickpath.Script.Catalog

/-! # Carrying out commands

Every command prints what it has to say and ends with a status: zero if all went well, one if there
is a result but not the wished one, and two if there is none. Failures that a user can expect are
reported; an interruption is too, and any other failure ends the program.
-/

namespace Clickpath.Command

open Arguments

/-! ## The commands -/

def openSource (source : Source) : Task σ τ (Option Store) := do
  match source.url, source.directory with
  | some url, _ => return some (.backend (.ofUrl url Repository.Backend.defaultTimeout))
  | none, some path => return some (.directory (← openDirectory path))
  | none, none => return none

/-- The test that a user means: by identifier in a source, or else by file. -/
def loadTest (test : String) (source : Source) : Task σ τ Test := do
  match ← openSource source with
  | some store => store.get test
  | none =>
    let disk := (← get).disk
    drawing fun supply =>
      let (test, supply) := Repository.loadFile .yaml disk test supply
      (test.mapError .repository, supply)

/-- Writes a text to a file, or prints it if there is none. -/
def writeOrPrint (text : String) (output : Option String) : Task σ τ Unit := do
  match output with
  | none => print text
  | some path =>
    writeText path text
    print ("Saved to " ++ path)

def generateCommand (test : String) (source : Source) (tool platform output : Option String) :
    Task σ τ Nat := do
  let test ← loadTest test source
  writeOrPrint (Script.Catalog.standard.compile test tool platform) output
  return 0

def padded (s : String) : String := String.ofList (List.replicate (7 - s.length) ' ') ++ s

def resultLine (r : StepResult) : String :=
  let name := (Text.nonempty? r.name).getD r.kind.label
  let error := match r.error.bind Text.nonempty? with
    | some error => " -> " ++ error
    | none => ""
  "  [" ++ padded r.status.label ++ "] " ++ toString (r.index + 1) ++ ". " ++ name ++ error

def runCommand (services : Services σ τ) (test : String) (source : Source)
    (screenshots : Option String) (headed : Bool) : Task σ τ Nat := do
  let test ← loadTest test source
  let interpreter : Interpreter σ :=
    ⟨services.sessions (if headed then some false else none),
      screenshots.getD services.settings.screenshotsDirectory⟩
  let outcome ← runTest interpreter test
  outcome.results.forM fun result => print (resultLine result)
  match outcome.diagnostic with
  | some path => print ("Error screenshot saved to " ++ path)
  | none => pure ()
  print ("Test \x22" ++ test.name ++ "\x22 " ++ Text.upper outcome.status.label ++ ".")
  return if outcome.status = .passed then 0 else 1

/-- The element with a tag at a position in a file, or what is said if there are too few. -/
def findElement (path tag : String) (position : Int) :
    Task σ τ (Except String Locator.Snapshot) := do
  let text ← readText path
  let document ← orFail .markup (Markup.Document.read text)
  let places := Locator.placesWithTag document tag
  match places[(position - 1).toNat]? with
  | some place => return .ok place.snapshot
  | none => return .error ("Error: document has " ++ toString places.length ++ " <" ++ tag
      ++ "> element(s), wanted #" ++ toString position)

def pickElement (services : Services σ τ) (r : LocateRequest) :
    Task σ τ (Except String Locator.Snapshot) := do
  match r.file.bind Text.nonempty? with
  | some path => findElement path (r.tag.getD "") r.position
  | none =>
    let options := Driver.Options.ofSettings services.settings none none none
    return .ok (← captureElement services.driver options r.url r.selector)

def locateCommand (services : Services σ τ) (r : LocateRequest) : Task σ τ Nat := do
  match ← pickElement services r with
  | .error complaint =>
    print complaint
    return 2
  | .ok snapshot =>
    match snapshot.infer r.strategy r.mode with
    | some selector =>
      print selector.raw
      return 0
    | none =>
      print ("No " ++ r.strategy.label ++ " locator found for <" ++ snapshot.tag ++ ">")
      return 1

def requireKey (settings : Settings) : Task σ τ Unit := do
  if settings.usableKey?.isNone then
    Settings.missingKeyLines.forM print
    throw .missingKey

def parseText (services : Services σ τ) (r : ParseRequest) (text : String) :
    Task σ τ (Test Loose) := do
  if r.withModel then
    requireKey services.settings
    let test ← askModel services.settings text r.tool r.platform
    return { test with name := (r.name.map Loose.ofString).getD test.name }
  else
    drawing fun supply =>
      let ((_, test), supply) :=
        Scenario.toTest text (r.name.getD "Untitled Test") r.tool r.platform supply
      ((test.map (·.map Loose.ofString)).mapError .record, supply)

def parsedLine (test : Test Loose) : Loose :=
  .ofString ("Parsed " ++ toString test.steps.length ++ " steps for '")
    ++ test.name ++ .ofString "'"

def savedLine (test : Test Loose) (path : String) : Loose :=
  .ofString "Saved test " ++ test.id ++ .ofString (" to " ++ path)

/-- Stores a test in a directory or in a file, or prints it. -/
def keepTest (services : Services σ τ) (test : Test Loose) (directory output : Option String) :
    Task σ τ Unit := do
  match directory with
  | some path =>
    saveTo (← openDirectory path) test
    printLoosely services (savedLine test path)
  | none => writeOrPrint (String.ofList (Yaml.write test.toDatum)) output

def parseCommand (services : Services σ τ) (r : ParseRequest) : Task σ τ Nat := do
  let text ← readText r.file
  let test ← parseText services r text
  printLoosely services (parsedLine test)
  keepTest services test r.directory r.output
  return 0

def listLine (t : Test) : String :=
  t.id ++ "  " ++ t.created.shown ++ "  " ++ t.tool ++ "/" ++ t.platform ++ "  " ++ t.name
    ++ " (" ++ toString t.steps.length ++ " steps)"

def listCommand (source : Source) : Task σ τ Nat := do
  match ← openSource source with
  | none =>
    print "Error: --tests-dir or --api-url is required"
    return 2
  | some store =>
    let tests ← store.list
    if tests.isEmpty then print "No tests found."
    tests.forM fun test => print (listLine test)
    return 0

def perform (services : Services σ τ) : Command → Task σ τ Nat
  | .generate test source tool platform output => generateCommand test source tool platform output
  | .run test source screenshots headed => runCommand services test source screenshots headed
  | .locate request => locateCommand services request
  | .parse request => parseCommand services request
  | .list source => listCommand source

/-! ## The command line -/

inductive Exit where
  | status (code : Nat)
  /-- The command line itself is at fault, or asks for help. -/
  | usage (code : Nat)
  | failure (failure : Failure)

inductive Complaint where
  | failed (failure : Failure)
  | interrupted

def Complaint.message : Complaint → String
  | failed failure => failure.message
  | interrupted => "Interrupted by user."

/-- How a command line ended, what was reported, and from which level on reports were wanted, if it
came so far. -/
structure Result where
  exit : Exit
  complaint : Option Complaint
  logLevel : Option Nat

def levels : List (String × Nat) :=
  [("CRITICAL", 50), ("FATAL", 50), ("ERROR", 40), ("WARNING", 30), ("WARN", 30), ("INFO", 20),
   ("DEBUG", 10), ("NOTSET", 0)]

def levelFor (settings : Settings) : Nat → Nat
  | 0 => (levels.lookup (Text.upper settings.logLevel)).getD 30
  | 1 => 20
  | _ => 10

def conclude (level : Nat) : Except Failure Nat → Result
  | .ok status => ⟨.status status, none, some level⟩
  | .error .missingKey => ⟨.usage 1, none, some level⟩
  | .error failure =>
    if failure.isInterrupt then ⟨.status 130, some .interrupted, some level⟩
    else if failure.isExpected then ⟨.status 2, some (.failed failure), some level⟩
    else ⟨.failure failure, none, some level⟩

/-- Carries a command line out. -/
def execute (services : Services σ τ) (args : List String) : StateM (World σ τ) Result := do
  match Command.read args with
  | .error .wrong => return ⟨.usage 2, none, none⟩
  | .error .help =>
    modify fun w => { w with output := w.output ++ help }
    return ⟨.usage 0, none, none⟩
  | .ok ⟨verbosity, command⟩ =>
    let level := levelFor services.settings verbosity
    match command with
    | none =>
      modify fun w => { w with output := w.output ++ help }
      return ⟨.status 2, none, some level⟩
    | some command =>
      if !command.isSound then return ⟨.usage 2, none, some level⟩
      return conclude level (← (perform services command).run)

end Clickpath.Command
