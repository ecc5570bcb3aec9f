import Clickpath.Assistant
import Clickpath.Driver.Capture
import Clickpath.Driver.Page
import Clickpath.Interpreter
import Clickpath.Markup.Document
import Clickpath.Repository.Backend
import Clickpath.Repository.Directory

/-! # What commands work on

A command uses a browser, a browser driver, the web, a language model, a disk and a place to print
to. All that it changes is one value, and it can fail.
-/

namespace Clickpath.Command

inductive Failure where
  | repository (cause : Repository.Fault)
  | assistant (cause : Assistant.Fault)
  | record (cause : Record.Fault)
  | disk (cause : Disk.Fault)
  | notText (cause : Utf8.Fault)
  | markup (cause : Markup.Fault)
  | session (cause : Session.Fault)
  /-- A torn text is to be printed that the output does not take. -/
  | unprintable
  /-- The key for the language model is missing. -/
  | missingKey

/-- The failure is one that a user can expect, and is reported as such. -/
def Failure.isExpected : Failure → Bool
  | repository cause => cause.message?.isSome || cause.isOfOneTest
  | assistant (.record cause) | record cause => (Repository.Fault.record cause).isOfOneTest
  | disk cause => cause.cause != .zeroInPath
  | session cause =>
    cause.isOfStep || cause.isOfDriver || match cause.kind with
      | .system _ => true
      | _ => false
  | _ => false

def Failure.message : Failure → String
  | repository (.record cause) | assistant (.record cause) | record cause =>
    cause.message?.getD "The test is not valid."
  | repository (.format cause) => cause.message
  | repository (.notText cause) | notText cause => cause.message
  | repository (.disk cause) | disk cause => cause.message
  | repository .tooDeep => "The data are nested too deeply."
  | repository .unencodable => "No file can have this name."
  | repository cause => cause.message?.getD "The tests cannot be put in order."
  | assistant .noReply => "The language model does not reply."
  | assistant (.notJson cause) => cause.message
  | assistant .notFields => "The reply of the language model holds no fields."
  | markup cause => cause.message
  | session cause => cause.message
  | unprintable => "The text cannot be printed."
  | missingKey => "The key for the language model is missing."

def Failure.isInterrupt : Failure → Bool
  | session cause => cause.isInterrupt
  | _ => false

/-- How commands are answered: the settings, the sessions for runs, headless or not as a user may
decide, the driver for captures, and what the output shows for a torn text, if it takes it. -/
structure Services (σ τ : Type) where
  settings : Settings
  sessions : Option Bool → Session.Browser σ
  driver : Driver τ
  shows : Torn → Option String

/-- What commands change. The disk and the supply are in the surroundings of runs. -/
structure World (σ τ : Type) where
  runs : Run.Surroundings σ
  page : Driver.Client τ
  web : Web
  chat : Chat
  output : String

namespace World

def disk (w : World σ τ) : Disk := w.runs.gallery.disk

def supply (w : World σ τ) : Supply := w.runs.gallery.supply

def withDisk (w : World σ τ) (disk : Disk) : World σ τ :=
  { w with runs := { w.runs with gallery := { w.runs.gallery with disk := disk } } }

def withSupply (w : World σ τ) (supply : Supply) : World σ τ :=
  { w with runs := { w.runs with gallery := { w.runs.gallery with supply := supply } } }

/-- The world with nothing recorded of what happened in it so far. -/
def forget (w : World σ τ) : World σ τ :=
  { runs := { w.runs with events := [], reports := [] }
    page := { w.page with calls := [] }
    web := { w.web with asked := [] }
    chat := { w.chat with asked := [] }
    output := "" }

end World

/-- A part of a command. What it changed stays changed when it fails. -/
abbrev Task (σ τ α : Type) := ExceptT Failure (StateM (World σ τ)) α

def print (text : String) : Task σ τ Unit := fun w =>
  (.ok (), { w with output := w.output ++ text ++ "\n" })

def printLoosely (services : Services σ τ) (text : Loose) : Task σ τ Unit :=
  if h : text.isWhole = true then print text.shown
  else match services.shows ⟨text, Loose.torn_of_not_whole h⟩ with
    | some shown => print shown
    | none => throw .unprintable

/-- A result, its faults as failures. -/
def orFail (failure : ε → Failure) (result : Except ε α) : Task σ τ α := fun w =>
  (result.mapError failure, w)

def readText (path : String) : Task σ τ String := fun w =>
  match w.disk.file path with
  | .error fault => (.error (.disk fault), w)
  | .ok file => (file.content.read.mapError .notText, w)

def writeText (path text : String) : Task σ τ Unit := fun w =>
  match w.disk.write path text with
  | .error fault => (.error (.disk fault), w)
  | .ok disk => (.ok (), w.withDisk disk)

def drawing (draw : Supply → Except Failure α × Supply) : Task σ τ α := fun w =>
  let (result, supply) := draw w.supply
  (result, w.withSupply supply)

def askDisk (question : Disk → Supply → Repository.Reply α) : Task σ τ α := fun w =>
  let reply := question w.disk w.supply
  (reply.result.mapError .repository, w.withSupply reply.supply)

/-- A repository that commands look tests up in. -/
inductive Store where
  | directory (directory : Repository.Directory)
  | backend (backend : Repository.Backend)

def openDirectory (path : String) : Task σ τ Repository.Directory := fun w =>
  let (directory, disk) := Repository.Directory.ofPath .yaml path w.disk
  (directory.mapError .repository, w.withDisk disk)

def askBackend (question : Web → Supply → Repository.Reply α × Web) : Task σ τ α := fun w =>
  let (reply, web) := question w.web w.supply
  (reply.result.mapError .repository, { w with web := web }.withSupply reply.supply)

def Store.get : Store → String → Task σ τ Test
  | directory r, id => askDisk fun disk supply => r.get disk id supply
  | backend b, id => askBackend fun web supply => b.get web id supply

def Store.list : Store → Task σ τ (List Test)
  | directory r => askDisk fun disk supply => r.list disk supply
  | backend b => askBackend fun web supply => b.list web supply

def saveTo (r : Repository.Directory) (test : Test Loose) : Task σ τ Unit := fun w =>
  let (reply, disk) := r.save w.disk test w.supply
  ((reply.result.map fun _ => ()).mapError .repository, (w.withDisk disk).withSupply reply.supply)

def runTest (i : Interpreter σ) (test : Test) : Task σ τ RunOutcome := fun w =>
  let (outcome, runs) := i.run test w.runs
  (outcome.mapError .session, { w with runs := runs })

def captureElement (d : Driver τ) (o : Driver.Options) (url selector : Option String) :
    Task σ τ Locator.Snapshot := fun w =>
  let (captured, page) := d.captureAt o url selector w.page
  let w := { w with page := page }
  match captured with
  | .error fault => (.error (.session fault), w)
  | .ok (.error issues) => (.error (.record (.invalid issues)), w)
  | .ok (.ok snapshot) => (.ok snapshot, w)

def askModel (settings : Settings) (description tool platform : String) :
    Task σ τ (Test Loose) := fun w =>
  let (test, supply, chat) := Assistant.parse w.chat settings.model description (.text tool)
    (.text platform) w.supply
  (test.mapError .assistant, { w with chat := chat }.withSupply supply)

end Clickpath.Command
