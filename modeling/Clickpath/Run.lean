import Clickpath.Run.Outcome
import Clickpath.Run.Surroundings
import Clickpath.Selector.Native
import Clickpath.Test

/-! # Runs

A run replays a test once on a session of its own. The steps are performed one after another, and
the first that fails ends them; a screenshot is taken then. The session is closed whatever happened,
and the outcome is kept. Screenshots never decide about a step or a run. An interruption goes
through to whoever started the run, and only what has to be cleaned up is done on its way.
-/

namespace Clickpath

inductive RunState where
  | idle
  | running
  | passed
  | failed
  | closed
  deriving DecidableEq, Repr

def RunState.label : RunState → String
  | idle => "idle"
  | running => "running"
  | passed => "passed"
  | failed => "failed"
  | closed => "closed"

structure Run where
  id : String
  test : Test
  state : RunState
  outcome : Option RunOutcome

namespace Run

open Session Screenshot

/-- A run that was not executed yet. -/
def ofTest (test : Test) (supply : Supply) : Run × Supply :=
  let (id, supply) := supply.freshId
  (⟨id, test, .idle, none⟩, supply)

/-! ## Screenshots -/

/-- An occasion for screenshots: its name in reports, what generated names begin with, and what
stands for the path in reports before there is one. -/
structure Occasion where
  title : String
  label : String
  unnamed : String

def Occasion.step : Occasion := ⟨"Screenshot", "screenshot", "screenshot"⟩

def Occasion.failure : Occasion := ⟨"Error screenshot", "error", "error screenshot"⟩

def reportUnsaved (occasion : Occasion) (path : String) : Act (Surroundings σ) Unit :=
  tell .warning (occasion.title ++ " " ++ path ++ " could not be saved")

/-- Takes a screenshot, and gives its path if all went well. Only an interruption is a fault. -/
def capture (b : Browser σ) (directory : String) (occasion : Occasion) (file : Option String) :
    Act (Surroundings σ) (Option String) := do
  match ← choosePath directory occasion.label file with
  | .error _ =>
    reportUnsaved occasion (file.getD occasion.unnamed)
    return none
  | .ok path =>
    match ← attempt (ask b (.screenshot path)) with
    | .ok () =>
      tell .info ("    " ++ occasion.title ++ " saved to " ++ path)
      return some path
    | .error fault =>
      if fault.isInterrupt then throw fault
      reportUnsaved occasion path
      return none

/-! ## Steps -/

def resolve (b : Browser σ) (index : Nat) (target : Selector) : Act (Surroundings σ) Unit := do
  let count : Int ← ask b (.count target)
  if count = 0 then
    throw ⟨.unresolved, "No element matches " ++ target.strategyName ++ " selector '" ++ target.raw
      ++ "'", some index⟩

def expect (index : Nat) (target : Selector) (expected found : String) :
    Act (Surroundings σ) Unit := do
  if !Text.contains found expected then
    throw ⟨.unexpectedText, "Assertion failed! Expected text \x22" ++ expected
      ++ "\x22 not found in selector \x22" ++ target.raw ++ "\x22.", some index⟩

/-- Performs the step at a place, and gives the path of the file it made, if it made one. -/
def perform (b : Browser σ) (directory : String) (index : Nat) (step : Step) :
    Act (Surroundings σ) (Option String) := do
  match step.action with
  | .navigate url =>
    ask b (.navigate url)
    return none
  | .click target =>
    resolve b index target
    ask b (.click target)
    return none
  | .typeText target text =>
    resolve b index target
    ask b (.typeText target text)
    return none
  | .assertText target expected =>
    resolve b index target
    expect index target expected (← ask b (.readText target))
    return none
  | .screenshot file => capture b directory .step (file.bind Text.nonempty?)

/-- How the steps of a run ended. -/
inductive StepsEnd where
  | passed
  | failed
  | interrupted (fault : Fault)

def reportFailure (index : Nat) (fault : Fault) : StateM (Surroundings σ) Unit :=
  let number := toString (index + 1)
  if fault.isOfStep then report .error ("Step " ++ number ++ " failed: " ++ fault.message)
  else report .error ("Step " ++ number ++ " raised an unexpected error")

/-- Performs steps in order, the first of which has the given place. -/
def performAll (b : Browser σ) (directory : String) :
    Nat → List Step → StateM (Surroundings σ) (List StepResult × StepsEnd)
  | _, [] => return ([], .passed)
  | index, step :: rest => do
    report .info ("  - Executing step: " ++ step.name ++ " (" ++ step.kind.label ++ ")")
    match ← (perform b directory index step).run with
    | .ok artifact =>
      let (results, ending) ← performAll b directory (index + 1) rest
      return (.passed index step artifact :: results, ending)
    | .error fault =>
      if fault.isInterrupt then return ([], .interrupted fault)
      reportFailure index fault
      return (.failed index step fault.message :: StepResult.skipped (index + 1) rest, .failed)

/-! ## Execution -/

/-- What is known of a run when its session is about to be closed. -/
structure Ending where
  status : RunStatus
  results : List StepResult
  diagnostic : Option String
  interruption : Option Fault

/-- Replays the steps on the session, and takes a screenshot if one fails. -/
def replay (b : Browser σ) (directory : String) (steps : List Step) :
    StateM (Surroundings σ) Ending := do
  match ← performAll b directory 0 steps with
  | (results, .passed) => return ⟨.passed, results, none, none⟩
  | (results, .interrupted fault) => return ⟨.failed, results, none, some fault⟩
  | (results, .failed) =>
    match ← (capture b directory .failure none).run with
    | .ok diagnostic => return ⟨.failed, results, diagnostic, none⟩
    | .error fault => return ⟨.failed, results, none, some fault⟩

def enter (r : Run) (state : RunState) : StateM (Surroundings σ) Run := do
  report .debug ("Run " ++ r.id ++ ": " ++ r.state.label ++ " -> " ++ state.label)
  return { r with state := state }

/-- Closes the session of a run. Only an interruption is a fault. -/
def release (b : Browser σ) (r : Run) : Act (Surroundings σ) Unit := do
  match ← attempt (ask b .close) with
  | .ok () => return
  | .error fault =>
    if fault.isInterrupt then throw fault
    tell .warning ("Browser session for run " ++ r.id ++ " did not close cleanly")

/-- Ends a run: closes the session if there is one, keeps the outcome, and passes an interruption
on. -/
def conclude (b : Browser σ) (r : Run) (acquired : Bool) (started : Moment) (ending : Ending) :
    StateM (Surroundings σ) (Except Fault RunOutcome × Run) := do
  let r ← r.enter (if ending.status = .passed then .passed else .failed)
  match ← (if acquired then release b r else pure ()).run with
  | .error fault => return (.error fault, r)
  | .ok () =>
    let outcome : RunOutcome :=
      ⟨r.id, r.test.id, ending.status, ending.results, ending.diagnostic, started,
        (← get).gallery.supply.now⟩
    let r ← enter { r with outcome := some outcome } .closed
    match ending.interruption with
    | some fault => return (.error fault, r)
    | none =>
      match ending.status with
      | .passed => report .info ("Test \x22" ++ r.test.name ++ "\x22 PASSED.")
      | .failed => report .warning ("Test \x22" ++ r.test.name ++ "\x22 FAILED.")
      return (.ok outcome, r)

/-- The fault of a second execution. -/
def alreadyExecuted (r : Run) : Fault :=
  ⟨.other "RuntimeError", "Run " ++ r.id ++ " has already been executed", none⟩

/-- Executes a run, which can be done once. -/
def execute (b : Browser σ) (directory : String) (r : Run) :
    StateM (Surroundings σ) (Except Fault RunOutcome × Run) := do
  if r.state ≠ .idle then return (.error r.alreadyExecuted, r)
  let started := (← get).gallery.supply.now
  let r ← r.enter .running
  report .info ("Executing test: " ++ r.test.name)
  match ← (acquire b).run with
  | .ok () => conclude b r true started (← replay b directory r.test.steps)
  | .error fault =>
    if fault.isInterrupt then conclude b r false started ⟨.failed, [], none, some fault⟩
    else
      report .error ("Run " ++ r.id ++ " could not acquire a browser session")
      conclude b r false started ⟨.failed, [], none, none⟩

end Run

end Clickpath
