import Clickpath.Run
import Clickpath.Proofs.Session.Conversation

/-! # Runs stage by stage

Each part of a run in closed form: what it comes to, given what the parts within it come to. The
reports on the way are named, so that the equations are exact; they matter to nothing else.
-/

namespace Clickpath.Run

open Session Screenshot

variable {σ : Type}

/-! ## Reports -/

def reported (level : Level) (text : String) (s : Surroundings σ) : Surroundings σ :=
  { s with reports := s.reports ++ [(level, text)] }

theorem report_apply (level : Level) (text : String) (s : Surroundings σ) :
    report level text s = ((), reported level text s) :=
  rfl

def reached (step : Step) (s : Surroundings σ) : Surroundings σ :=
  reported .info ("  - Executing step: " ++ step.name ++ " (" ++ step.kind.label ++ ")") s

def failureReported (index : Nat) (fault : Fault) (s : Surroundings σ) : Surroundings σ :=
  (reportFailure index fault s).2

def entered (r : Run) (state : RunState) (s : Surroundings σ) : Surroundings σ :=
  reported .debug ("Run " ++ r.id ++ ": " ++ r.state.label ++ " -> " ++ state.label) s

def begun (r : Run) (s : Surroundings σ) : Surroundings σ :=
  reported .info ("Executing test: " ++ r.test.name) (entered r .running s)

/-- Nothing but reports was added to surroundings. -/
def OnlyReports (s t : Surroundings σ) : Prop :=
  ∃ more, t = { s with reports := s.reports ++ more }

namespace OnlyReports

variable {s t u : Surroundings σ}

theorem trans (hst : OnlyReports s t) (htu : OnlyReports t u) : OnlyReports s u := by
  obtain ⟨first, rfl⟩ := hst
  obtain ⟨second, rfl⟩ := htu
  exact ⟨first ++ second, by rw [List.append_assoc]⟩

theorem events (h : OnlyReports s t) : t.events = s.events := by
  obtain ⟨more, rfl⟩ := h
  rfl

theorem browser (h : OnlyReports s t) : t.browser = s.browser := by
  obtain ⟨more, rfl⟩ := h
  rfl

theorem conversation (b : Browser σ) (h : OnlyReports s t) : Conversation b [] s t := by
  obtain ⟨more, rfl⟩ := h
  exact .silent b rfl rfl

theorem staysOpen {b : Browser σ} (h : OnlyReports s t) : StaysOpen b s t fun _ => False :=
  ⟨[], List.not_mem_nil, h.conversation b, fun _ hraised => hraised.elim⟩

end OnlyReports

theorem reported_onlyReports (level : Level) (text : String) (s : Surroundings σ) :
    OnlyReports s (reported level text s) :=
  ⟨[(level, text)], rfl⟩

theorem entered_onlyReports (r : Run) (state : RunState) (s : Surroundings σ) :
    OnlyReports s (entered r state s) :=
  reported_onlyReports _ _ s

theorem begun_onlyReports (r : Run) (s : Surroundings σ) : OnlyReports s (begun r s) :=
  (entered_onlyReports r .running s).trans (reported_onlyReports _ _ _)

theorem failureReported_onlyReports (index : Nat) (fault : Fault) (s : Surroundings σ) :
    OnlyReports s (failureReported index fault s) := by
  unfold failureReported reportFailure
  split
  next => exact reported_onlyReports _ _ s
  next => exact reported_onlyReports _ _ s

/-! ## Screenshots -/

def unsavedReported (occasion : Occasion) (path : String) (s : Surroundings σ) :
    Surroundings σ :=
  reported .warning (occasion.title ++ " " ++ path ++ " could not be saved") s

/-- A screenshot needs a path first and then the browser. Where either fails there is none, and only
an interruption of the browser goes on. -/
theorem capture_apply (b : Browser σ) (directory : String) (occasion : Occasion)
    (file : Option String) (s : Surroundings σ) :
    capture b directory occasion file s =
      let (chosen, gallery) := s.gallery.pathFor directory occasion.label file
      match chosen with
      | .error _ =>
          (.ok none, unsavedReported occasion (file.getD occasion.unnamed)
            { s with gallery := gallery })
      | .ok path =>
          match ask b (.screenshot path) { s with gallery := gallery } with
          | (.ok (), t) =>
              (.ok (some path),
                reported .info ("    " ++ occasion.title ++ " saved to " ++ path) t)
          | (.error fault, t) =>
              if fault.isInterrupt then (.error fault, t)
              else (.ok none, unsavedReported occasion path t) := by
  unfold capture
  rw [Act.bind_apply]
  simp only [choosePath]
  rcases s.gallery.pathFor directory occasion.label file with ⟨chosen, gallery⟩
  cases chosen with
  | error _ => rfl
  | ok path =>
      dsimp only
      rw [Act.attempt_bind_apply]
      rcases ask b (.screenshot path) _ with ⟨reply, t⟩
      cases reply with
      | ok => rfl
      | error fault => cases h : fault.isInterrupt <;> simp only [h] <;> rfl

/-- A capture fails for nothing but an interruption. -/
theorem capture_error_isInterrupt {b : Browser σ} {directory : String} {occasion : Occasion}
    {file : Option String} {s t : Surroundings σ} {fault : Fault}
    (herror : capture b directory occasion file s = (.error fault, t)) :
    fault.isInterrupt = true := by
  rw [capture_apply] at herror
  rcases hchosen : s.gallery.pathFor directory occasion.label file with ⟨chosen, gallery⟩
  rw [hchosen] at herror
  cases chosen with
  | error _ => cases herror
  | ok path =>
      rcases hreply : ask b (.screenshot path) { s with gallery := gallery } with ⟨reply, u⟩
      dsimp only at herror
      rw [hreply] at herror
      cases reply with
      | ok => cases herror
      | error raised =>
          dsimp only at herror
          split at herror
          next hinterrupt =>
            cases herror
            exact hinterrupt
          next => cases herror

/-! ## Steps -/

/-- A step that passes is followed by the rest. One that fails leaves the rest skipped, and an
interruption leaves no results of its own. -/
theorem performAll_cons (b : Browser σ) (directory : String) (index : Nat) (step : Step)
    (rest : List Step) (s : Surroundings σ) :
    performAll b directory index (step :: rest) s =
      match perform b directory index step (reached step s) with
      | (.ok artifact, t) =>
          let ((results, ending), u) := performAll b directory (index + 1) rest t
          ((.passed index step artifact :: results, ending), u)
      | (.error fault, t) =>
          if fault.isInterrupt then (([], .interrupted fault), t)
          else ((.failed index step fault.message :: StepResult.skipped (index + 1) rest, .failed),
            failureReported index fault t) := by
  rcases hperform : perform b directory index step (reached step s) with ⟨result, t⟩
  have hrun : ExceptT.run (perform b directory index step) (reached step s) = (result, t) :=
    hperform
  rw [performAll]
  simp only [bind, StateT.bind, report_apply]
  rw [← reached, hrun]
  cases result with
  | ok artifact => rfl
  | error fault => cases h : fault.isInterrupt <;> simp only [h] <;> rfl

/-! ## Execution -/

/-- A replay ends as its steps do, with a screenshot if they failed. -/
theorem replay_apply (b : Browser σ) (directory : String) (steps : List Step)
    (s : Surroundings σ) :
    replay b directory steps s =
      match performAll b directory 0 steps s with
      | ((results, .passed), t) => (⟨.passed, results, none, none⟩, t)
      | ((results, .interrupted fault), t) => (⟨.failed, results, none, some fault⟩, t)
      | ((results, .failed), t) =>
          match capture b directory .failure none t with
          | (.ok diagnostic, u) => (⟨.failed, results, diagnostic, none⟩, u)
          | (.error fault, u) => (⟨.failed, results, none, some fault⟩, u) := by
  simp only [replay, bind, StateT.bind]
  rcases performAll b directory 0 steps s with ⟨⟨results, ending⟩, t⟩
  cases ending with
  | passed => rfl
  | interrupted fault => rfl
  | failed =>
      simp only [StateT.bind, ExceptT.run]
      rcases capture b directory .failure none t with ⟨result, u⟩
      cases result <;> rfl

/-- A session that does not close cleanly is reported. Only an interruption goes on. -/
theorem release_apply (b : Browser σ) (r : Run) (s : Surroundings σ) :
    release b r s =
      match ask b .close s with
      | (.ok (), t) => (.ok (), t)
      | (.error fault, t) =>
          if fault.isInterrupt then (.error fault, t)
          else (.ok (), reported .warning
            ("Browser session for run " ++ r.id ++ " did not close cleanly") t) := by
  unfold release
  rw [Act.attempt_bind_apply]
  rcases ask b .close s with ⟨reply, t⟩
  cases reply with
  | ok => rfl
  | error fault => cases h : fault.isInterrupt <;> simp only [h] <;> rfl

def Ending.state (ending : Ending) : RunState :=
  if ending.status = .passed then .passed else .failed

/-- The outcome that is kept of a run that ends in these surroundings. -/
def Ending.outcome (ending : Ending) (r : Run) (started : Moment) (s : Surroundings σ) :
    RunOutcome :=
  ⟨r.id, r.test.id, ending.status, ending.results, ending.diagnostic, started,
    s.gallery.supply.now⟩

/-- What whoever started a run is given: the outcome, unless an interruption goes on to them. -/
def Ending.result (ending : Ending) (outcome : RunOutcome) : Except Fault RunOutcome :=
  match ending.interruption with
  | some fault => .error fault
  | none => .ok outcome

/-- Surroundings with the last reports of a run: that it is closed and, unless it was interrupted,
how it went. -/
def concluded (r : Run) (ending : Ending) (s : Surroundings σ) : Surroundings σ :=
  let s := entered r .closed s
  match ending.interruption, ending.status with
  | some _, _ => s
  | none, .passed => reported .info ("Test \x22" ++ r.test.name ++ "\x22 PASSED.") s
  | none, .failed => reported .warning ("Test \x22" ++ r.test.name ++ "\x22 FAILED.") s

theorem concluded_onlyReports (r : Run) (ending : Ending) (s : Surroundings σ) :
    OnlyReports s (concluded r ending s) := by
  have hclosed := entered_onlyReports r .closed s
  unfold concluded
  split
  next => exact hclosed
  next => exact hclosed.trans (reported_onlyReports _ _ _)
  next => exact hclosed.trans (reported_onlyReports _ _ _)

theorem get_apply (s : Surroundings σ) : (get : StateM (Surroundings σ) _) s = (s, s) :=
  rfl

theorem enter_apply (r : Run) (state : RunState) (s : Surroundings σ) :
    r.enter state s = ({ r with state := state }, entered r state s) :=
  rfl

/-- A run is closed with its outcome unless the end of its session is interrupted. An interruption
from before does not keep it from being closed. -/
theorem conclude_apply (b : Browser σ) (r : Run) (acquired : Bool) (started : Moment)
    (ending : Ending) (s : Surroundings σ) :
    conclude b r acquired started ending s =
      let waiting := { r with state := ending.state }
      match (if acquired then release b waiting else pure ()) (entered r ending.state s) with
      | (.error fault, t) => ((.error fault, waiting), t)
      | (.ok (), t) =>
          let outcome := ending.outcome r started t
          ((ending.result outcome, { r with state := .closed, outcome := some outcome }),
            concluded waiting ending t) := by
  simp only [conclude, bind, StateT.bind, ExceptT.run, enter_apply, Ending.state]
  generalize (if acquired = true then _ else _ : Act (Surroundings σ) Unit) _ = released
  rcases released with ⟨result, t⟩
  cases result with
  | error fault => rfl
  | ok =>
      rcases ending with ⟨status, results, diagnostic, interruption⟩
      cases interruption with
      | some fault => rfl
      | none => cases status <;> rfl

/-! ## Execution -/

/-- A later execution is refused and leaves everything as it is. -/
theorem execute_of_not_idle (b : Browser σ) (directory : String) {r : Run}
    (hstate : r.state ≠ .idle) (s : Surroundings σ) :
    execute b directory r s = ((.error r.alreadyExecuted, r), s) := by
  rw [execute, if_pos hstate]
  rfl

/-- A first execution asks for a session and replays the steps on it. -/
theorem execute_of_idle (b : Browser σ) (directory : String) {r : Run}
    (hstate : r.state = .idle) (s : Surroundings σ) :
    execute b directory r s =
      let started := s.gallery.supply.now
      let running := { r with state := .running }
      match acquire b (begun r s) with
      | (.ok (), t) =>
          let (ending, u) := replay b directory r.test.steps t
          conclude b running true started ending u
      | (.error fault, t) =>
          if fault.isInterrupt then
            conclude b running false started ⟨.failed, [], none, some fault⟩ t
          else
            conclude b running false started ⟨.failed, [], none, none⟩
              (reported .error ("Run " ++ r.id ++ " could not acquire a browser session") t) := by
  rw [execute, if_neg (not_not_intro hstate)]
  simp only [bind, StateT.bind, ExceptT.run, enter_apply, report_apply, get_apply, begun]
  rcases acquire b _ with ⟨result, t⟩
  cases result with
  | ok => rfl
  | error fault => cases h : fault.isInterrupt <;> simp only [h] <;> rfl

end Clickpath.Run
