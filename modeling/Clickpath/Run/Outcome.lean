import Clickpath.Record.Shape

/-! # Outcomes of runs

What a run leaves behind: a result for each step that was reached or skipped, and whether all of
them passed.
-/

namespace Clickpath

inductive StepStatus where
  | passed
  | failed
  | skipped
  deriving DecidableEq, Repr

def StepStatus.label : StepStatus → String
  | passed => "passed"
  | failed => "failed"
  | skipped => "skipped"

/-- What came of a step: the reason if it failed, and the file if it made one. -/
structure StepResult where
  index : Nat
  name : String
  kind : StepKind
  status : StepStatus
  error : Option String
  artifact : Option String
  deriving DecidableEq

namespace StepResult

def passed (index : Nat) (step : Step) (artifact : Option String) : StepResult :=
  ⟨index, step.name, step.kind, .passed, none, artifact⟩

def failed (index : Nat) (step : Step) (error : String) : StepResult :=
  ⟨index, step.name, step.kind, .failed, some error, none⟩

/-- The results of steps that were not reached. -/
def skipped : Nat → List Step → List StepResult
  | _, [] => []
  | index, step :: rest =>
    ⟨index, step.name, step.kind, .skipped, none, none⟩ :: skipped (index + 1) rest

def toDatum (r : StepResult) : Datum :=
  .ofFields [("index", .int r.index), ("name", .text r.name), ("kind", .text r.kind.label),
    ("status", .text r.status.label), ("error", .ofString? r.error),
    ("artifact", .ofString? r.artifact)]

end StepResult

inductive RunStatus where
  | passed
  | failed
  deriving DecidableEq, Repr

def RunStatus.label : RunStatus → String
  | passed => "passed"
  | failed => "failed"

/-- What a run leaves behind. The diagnostic is the path of the screenshot taken after a failure. -/
structure RunOutcome where
  runId : String
  testId : String
  status : RunStatus
  results : List StepResult
  diagnostic : Option String
  started : Moment
  finished : Moment
  deriving DecidableEq

def RunOutcome.toDatum (o : RunOutcome) : Datum :=
  .ofFields [("run_id", .text o.runId), ("test_id", .text o.testId),
    ("status", .text o.status.label),
    ("results", .list (o.results.map (·.toDatum))), ("diagnostic_path", .ofString? o.diagnostic),
    ("started_at", .text o.started.stored), ("finished_at", .text o.finished.stored)]

end Clickpath
