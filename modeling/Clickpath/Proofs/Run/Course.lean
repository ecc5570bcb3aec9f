import Clickpath.Proofs.Run.Demands

/-! # Courses of steps

The paths of screenshots depend on the steps and on what there is before the first of them, so they
can be told in advance. With them it is known which calls each step makes if nothing stops it, and
what a session is asked is told step by step.
-/

namespace Clickpath.Run

open Session Screenshot

variable {σ : Type}

theorem Exchanged.thenReports {b : Browser σ} {log : List (Exchange Call.Reply)}
    {s t u : Surroundings σ} (hlog : Exchanged b log s t) (hreports : OnlyReports t u) :
    Exchanged b log s u := by
  obtain ⟨more, rfl⟩ := hreports
  exact ⟨hlog.events, hlog.browser⟩

/-! ## Plans -/

/-- A step, with the path of its screenshot if it takes one and the path can be prepared. -/
structure Planned where
  step : Step
  path : Option String

def Planned.block (planned : Planned) : List Call :=
  match planned.step.action with
  | .navigate url => [.navigate url]
  | .click target => [.count target, .click target]
  | .typeText target text => [.count target, .typeText target text]
  | .assertText target _ => [.count target, .readText target]
  | .screenshot _ => planned.path.toList.map .screenshot

/-- The path for a screenshot on an occasion, and the gallery that has given it out. -/
def prepare (directory : String) (occasion : Occasion) (file : Option String) (g : Gallery) :
    Option String × Gallery :=
  let (path, g) := g.pathFor directory occasion.label file
  (path.toOption, g)

def planStep (directory : String) (g : Gallery) (step : Step) : Planned × Gallery :=
  match step.action with
  | .screenshot file =>
    let (path, g) := prepare directory .step (file.bind Text.nonempty?) g
    (⟨step, path⟩, g)
  | _ => (⟨step, none⟩, g)

def plan (directory : String) (g : Gallery) : List Step → List Planned
  | [] => []
  | step :: rest =>
    let (planned, g) := planStep directory g step
    planned :: plan directory g rest

theorem planStep_step (directory : String) (g : Gallery) (step : Step) :
    (planStep directory g step).1.step = step := by
  unfold planStep
  split <;> rfl

theorem plan_steps (directory : String) (g : Gallery) (steps : List Step) :
    (plan directory g steps).map (·.step) = steps := by
  induction steps generalizing g with
  | nil => rfl
  | cons step rest ih => simp [plan, planStep_step, ih]

/-! ## Screenshots -/

/-- What comes of taking a screenshot, given its path: the exchanges, and the result. -/
inductive Captured : Option String → List (Exchange Call.Reply) →
    Except Fault (Option String) → Prop
  | unprepared : Captured none [] (.ok none)
  | saved (path : String) : Captured (some path) [⟨.screenshot path, .ok ()⟩] (.ok (some path))
  | unsaved (path : String) {fault : Fault} (hfault : fault.isInterrupt = false) :
      Captured (some path) [⟨.screenshot path, .error fault⟩] (.ok none)
  | interrupted (path : String) {fault : Fault} (hfault : fault.isInterrupt = true) :
      Captured (some path) [⟨.screenshot path, .error fault⟩] (.error fault)

/-- Capturing a page is one call, if there is a path for it. -/
theorem capture_captured (b : Browser σ) (directory : String) (occasion : Occasion)
    (file : Option String) (s : Surroundings σ) :
    ∃ log, Captured (prepare directory occasion file s.gallery).1 log
        (capture b directory occasion file s).1 ∧
      Exchanged b log s (capture b directory occasion file s).2 ∧
      (capture b directory occasion file s).2.gallery =
        (prepare directory occasion file s.gallery).2 := by
  rw [capture_apply, prepare]
  rcases s.gallery.pathFor directory occasion.label file with ⟨chosen, gallery⟩
  cases chosen with
  | error _ => exact ⟨[], .unprepared, .silent rfl rfl, rfl⟩
  | ok path =>
      have hask := Exchanged.ask b (.screenshot path) { s with gallery := gallery }
      have hgallery : (ask b (.screenshot path) { s with gallery := gallery }).2.gallery =
        gallery := rfl
      dsimp only
      rcases hreply : ask b (.screenshot path) { s with gallery := gallery } with ⟨reply, t⟩
      rw [hreply] at hask hgallery
      have hlog : Exchanged b [⟨.screenshot path, reply⟩] s t := ⟨hask.events, hask.browser⟩
      cases reply with
      | ok =>
          exact ⟨_, .saved path, hlog.thenReports (reported_onlyReports _ _ t), hgallery⟩
      | error fault =>
          cases hfault : fault.isInterrupt with
          | true =>
              simp only [hfault, if_true]
              exact ⟨_, .interrupted path hfault, hlog, hgallery⟩
          | false =>
              simp only [hfault, Bool.false_eq_true, if_false]
              exact ⟨_, .unsaved path hfault, hlog.thenReports (reported_onlyReports _ _ t),
                hgallery⟩

/-! ## Steps -/

/-- What comes of performing a step as planned: the exchanges, and the result. -/
inductive Performed (index : Nat) (planned : Planned) :
    List (Exchange Call.Reply) → Except Fault (Option String) → Prop
  | acted {log : List (Exchange Call.Reply)} (hkind : planned.step.kind ≠ .screenshot)
      (hmet : Met (demands index planned.step.action) log (.ok ())) :
      Performed index planned log (.ok none)
  | stopped {log : List (Exchange Call.Reply)} {fault : Fault}
      (hkind : planned.step.kind ≠ .screenshot)
      (hmet : Met (demands index planned.step.action) log (.error fault)) :
      Performed index planned log (.error fault)
  | captured {log : List (Exchange Call.Reply)} {result : Except Fault (Option String)}
      (hkind : planned.step.kind = .screenshot) (hcapture : Captured planned.path log result) :
      Performed index planned log result

/-- Performing a step is its calls as they were planned, and no other. -/
theorem perform_performed (b : Browser σ) (directory : String) (index : Nat) (step : Step)
    (s : Surroundings σ) :
    ∃ log, Performed index (planStep directory s.gallery step).1 log
        (perform b directory index step s).1 ∧
      Exchanged b log s (perform b directory index step s).2 ∧
      (perform b directory index step s).2.gallery = (planStep directory s.gallery step).2 := by
  by_cases hkind : step.kind = .screenshot
  · rcases step with ⟨name, action⟩
    cases action with
    | screenshot file =>
        obtain ⟨log, hcapture, hlog⟩ :=
          capture_captured b directory .step (file.bind Text.nonempty?) s
        exact ⟨log, .captured rfl hcapture, hlog⟩
    | _ => cases hkind
  · have hplan : planStep directory s.gallery step = (⟨step, none⟩, s.gallery) := by
      rcases step with ⟨name, action⟩
      cases action with
      | screenshot file => exact absurd rfl hkind
      | _ => rfl
    obtain ⟨log, hmet, hlog, hgallery⟩ := meet_met b (demands index step.action) s
    rw [perform_eq_meet b directory index step hkind, Act.bind_apply, hplan]
    rcases hresult : meet b (demands index step.action) s with ⟨result, t⟩
    rw [hresult] at hmet hlog hgallery
    cases result with
    | ok => exact ⟨log, .acted hkind hmet, hlog, hgallery⟩
    | error fault => exact ⟨log, .stopped hkind hmet, hlog, hgallery⟩

/-! ## Sequences of steps -/

/-- A planned step with its result and the exchanges that belong to it. -/
structure Entry where
  planned : Planned
  result : StepResult
  log : List (Exchange Call.Reply)

/-- Steps that were not reached, the first of which has the given place. -/
def Entry.unreached : Nat → List Planned → List Entry
  | _, [] => []
  | index, planned :: rest =>
    ⟨planned, ⟨index, planned.step.name, planned.step.kind, .skipped, none, none⟩, []⟩ ::
      unreached (index + 1) rest

/-- What comes of planned steps, the first of which has the given place. The first that is stopped
ends the course. -/
inductive Course : Nat → List Planned → List Entry → StepsEnd → Prop
  | done {index : Nat} : Course index [] [] .passed
  | passed {index : Nat} {planned : Planned} {rest : List Planned}
      {log : List (Exchange Call.Reply)} {artifact : Option String} {entries : List Entry}
      {ending : StepsEnd} (hstep : Performed index planned log (.ok artifact))
      (hrest : Course (index + 1) rest entries ending) :
      Course index (planned :: rest)
        (⟨planned, .passed index planned.step artifact, log⟩ :: entries) ending
  | failed {index : Nat} {planned : Planned} {rest : List Planned}
      {log : List (Exchange Call.Reply)} {fault : Fault}
      (hstep : Performed index planned log (.error fault)) (hfault : fault.isInterrupt = false) :
      Course index (planned :: rest)
        (⟨planned, .failed index planned.step fault.message, log⟩ ::
          Entry.unreached (index + 1) rest) .failed

theorem unreached_results (index : Nat) (planned : List Planned) :
    (Entry.unreached index planned).map (·.result) =
      StepResult.skipped index (planned.map (·.step)) := by
  induction planned generalizing index with
  | nil => rfl
  | cons head rest ih => simp [Entry.unreached, StepResult.skipped, ih]

theorem unreached_log (index : Nat) (planned : List Planned) :
    (Entry.unreached index planned).flatMap (·.log) = [] := by
  induction planned generalizing index with
  | nil => rfl
  | cons head rest ih => simp [Entry.unreached, ih]

/-- Unless they are interrupted, steps are performed as planned, and what the session is asked is
what is told step by step. -/
theorem performAll_course (b : Browser σ) (directory : String) (index : Nat) (steps : List Step)
    {s t : Surroundings σ} {results : List StepResult} {ending : StepsEnd}
    (hperform : performAll b directory index steps s = ((results, ending), t))
    (hending : ∀ fault, ending ≠ .interrupted fault) :
    ∃ entries, Course index (plan directory s.gallery steps) entries ending ∧
      entries.map (·.result) = results ∧ Exchanged b (entries.flatMap (·.log)) s t := by
  induction steps generalizing index s results with
  | nil =>
      cases hperform
      exact ⟨[], .done, rfl, .silent rfl rfl⟩
  | cons step rest ih =>
      obtain ⟨log, hstep, hlog, hgallery⟩ :=
        perform_performed b directory index step (reached step s)
      have hfrom : Exchanged b log s _ := ⟨hlog.events, hlog.browser⟩
      rw [performAll_cons] at hperform
      have hnamed := planStep_step directory s.gallery step
      rcases hresult : perform b directory index step (reached step s) with ⟨result, u⟩
      rw [hresult] at hperform hstep hgallery hfrom
      rw [plan]
      change u.gallery = (planStep directory s.gallery step).2 at hgallery
      change Performed index (planStep directory s.gallery step).1 log result at hstep
      generalize planStep directory s.gallery step = prepared at *
      rcases prepared with ⟨planned, gallery⟩
      obtain rfl : planned.step = step := hnamed
      cases result with
      | ok artifact =>
          dsimp only at hperform
          rcases hrest : performAll b directory (index + 1) rest u with ⟨⟨more, last⟩, v⟩
          rw [hrest] at hperform
          cases hperform
          obtain ⟨entries, hcourse, rfl, hmore⟩ := ih (index + 1) hrest
          rw [hgallery] at hcourse
          exact ⟨_, .passed hstep hcourse, rfl, hfrom.append hmore⟩
      | error fault =>
          dsimp only at hperform
          split at hperform
          next =>
            cases hperform
            exact absurd rfl (hending fault)
          next hfault =>
            cases hperform
            refine ⟨_, .failed hstep (eq_false_of_ne_true hfault), ?_, ?_⟩
            · rw [List.map_cons, unreached_results, plan_steps]
            · rw [List.flatMap_cons, unreached_log, List.append_nil]
              exact hfrom.thenReports (failureReported_onlyReports index fault u)

end Clickpath.Run
