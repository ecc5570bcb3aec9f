import Clickpath.Proofs.Run.Account

/-! # Results of runs

The results of a run line up with its steps. The first steps passed; unless these are all of them,
the one behind them was stopped by a fault, whose words its result repeats, and the rest were not
reached.
An interruption leaves the results of the steps that passed before it, and no others.
-/

namespace Clickpath.Run

open Session Screenshot

variable {σ : Type}

/-! ## Steps that pass -/

/-- Steps from a place on that pass one after another: their results, and the surroundings in front
of the first and behind the last. -/
inductive Passes (b : Browser σ) (directory : String) :
    Nat → List Step → List StepResult → Surroundings σ → Surroundings σ → Prop
  | none {index : Nat} {s : Surroundings σ} : Passes b directory index [] [] s s
  | next {index : Nat} {step : Step} {rest : List Step} {artifact : Option String}
      {results : List StepResult} {s t u : Surroundings σ}
      (hstep : perform b directory index step (reached step s) = (.ok artifact, t))
      (hrest : Passes b directory (index + 1) rest results t u) :
      Passes b directory index (step :: rest) (.passed index step artifact :: results) s u

/-- Only a screenshot makes a file. -/
theorem perform_artifact {b : Browser σ} {directory : String} {index : Nat} {step : Step}
    {s t : Surroundings σ} {path : String}
    (hstep : perform b directory index step s = (.ok (some path), t)) :
    step.kind = .screenshot := by
  by_cases hkind : step.kind = .screenshot
  · exact hkind
  · rw [perform_eq_meet b directory index step hkind, Act.bind_apply] at hstep
    rcases hmeet : meet b (demands index step.action) s with ⟨result, u⟩
    rw [hmeet] at hstep
    cases result with
    | ok => cases hstep
    | error fault => cases hstep

/-- Steps that pass are followed by the others. -/
theorem performAll_of_passes {b : Browser σ} {directory : String} {index : Nat} {front : List Step}
    {results : List StepResult} {s t : Surroundings σ}
    (hfront : Passes b directory index front results s t) (rest : List Step) :
    performAll b directory index (front ++ rest) s =
      let ((more, ending), u) := performAll b directory (index + front.length) rest t
      ((results ++ more, ending), u) := by
  induction hfront with
  | none => rfl
  | @next index step front artifact results s t u hstep _ ih =>
      rw [List.cons_append, performAll_cons, hstep, List.length_cons, Nat.add_comm front.length,
        ← Nat.add_assoc]
      dsimp only
      rw [ih]
      rcases performAll b directory (index + 1 + front.length) rest u with ⟨⟨more, ending⟩, v⟩
      rfl

/-- Either all steps pass, or the first of them do and the one behind these is stopped. -/
theorem exists_passes (b : Browser σ) (directory : String) (index : Nat) (steps : List Step)
    (s : Surroundings σ) :
    ∃ front results t, Passes b directory index front results s t ∧
      (steps = front ∨ ∃ step rest fault u, steps = front ++ step :: rest ∧
        perform b directory (index + front.length) step (reached step t) = (.error fault, u)) := by
  induction steps generalizing index s with
  | nil => exact ⟨[], [], s, .none, .inl rfl⟩
  | cons step rest ih =>
      rcases hstep : perform b directory index step (reached step s) with ⟨result, t⟩
      cases result with
      | error fault => exact ⟨[], [], s, .none, .inr ⟨step, rest, fault, t, rfl, hstep⟩⟩
      | ok artifact =>
          obtain ⟨front, results, u, hfront, hend⟩ := ih (index + 1) t
          refine ⟨step :: front, _, u, .next hstep hfront, ?_⟩
          rcases hend with rfl | ⟨stopped, after, fault, v, rfl, hstopped⟩
          · exact .inl rfl
          · refine .inr ⟨stopped, after, fault, v, rfl, ?_⟩
            rwa [List.length_cons, Nat.add_comm front.length, ← Nat.add_assoc]

/-! ## Results beside steps -/

/-- Results that stand beside steps, the first of which has the given place. -/
structure Beside (index : Nat) (steps : List Step) (results : List StepResult) : Prop where
  indexes : results.map (·.index) = List.range' index steps.length
  names : results.map (·.name) = steps.map (·.name)
  kinds : results.map (·.kind) = steps.map (·.kind)

namespace Beside

variable {index : Nat} {step : Step} {result : StepResult} {steps more : List Step}
  {results others : List StepResult}

theorem nil : Beside index [] [] := ⟨rfl, rfl, rfl⟩

theorem cons (hindex : result.index = index) (hname : result.name = step.name)
    (hkind : result.kind = step.kind) (h : Beside (index + 1) steps results) :
    Beside index (step :: steps) (result :: results) where
  indexes := by simp [hindex, h.indexes, List.range'_succ]
  names := by simp [hname, h.names]
  kinds := by simp [hkind, h.kinds]

theorem append (h : Beside index steps results) (h' : Beside (index + steps.length) more others) :
    Beside index (steps ++ more) (results ++ others) where
  indexes := by
    rw [List.map_append, h.indexes, h'.indexes, List.length_append, ← List.range'_append_1]
  names := by rw [List.map_append, h.names, h'.names, List.map_append]
  kinds := by rw [List.map_append, h.kinds, h'.kinds, List.map_append]

end Beside

/-- A result says why just when its step failed, and names a file only for a screenshot that
passed. -/
structure StepResult.Fitting (result : StepResult) : Prop where
  error_iff : result.error ≠ none ↔ result.status = .failed
  artifact : result.artifact ≠ none → result.status = .passed ∧ result.kind = .screenshot

theorem fitting_failed (index : Nat) (step : Step) (error : String) :
    StepResult.Fitting (.failed index step error) :=
  ⟨iff_of_true nofun rfl, fun h => absurd rfl h⟩

theorem beside_skipped (index : Nat) (steps : List Step) :
    Beside index steps (StepResult.skipped index steps) := by
  induction steps generalizing index with
  | nil => exact .nil
  | cons step rest ih => exact .cons rfl rfl rfl (ih (index + 1))

theorem of_mem_skipped {index : Nat} {steps : List Step} {result : StepResult}
    (h : result ∈ StepResult.skipped index steps) :
    result.status = .skipped ∧ StepResult.Fitting result := by
  induction steps generalizing index with
  | nil => cases h
  | cons step rest ih =>
      rcases List.mem_cons.mp h with rfl | hrest
      · exact ⟨rfl, iff_of_false (fun h => h rfl) nofun, fun h => absurd rfl h⟩
      · exact ih hrest

namespace Passes

variable {b : Browser σ} {directory : String} {index : Nat} {steps : List Step}
  {results : List StepResult} {s t : Surroundings σ}

theorem beside (h : Passes b directory index steps results s t) : Beside index steps results := by
  induction h with
  | none => exact .nil
  | next _ _ ih => exact .cons rfl rfl rfl ih

/-- Each result of steps that pass is that of a step that passed. -/
theorem of_mem (h : Passes b directory index steps results s t) {result : StepResult}
    (hmem : result ∈ results) : result.status = .passed ∧ StepResult.Fitting result := by
  induction h with
  | none => cases hmem
  | next hstep _ ih =>
      rcases List.mem_cons.mp hmem with rfl | hrest
      · refine ⟨rfl, iff_of_false (fun h => h rfl) nofun, fun hartifact => ⟨rfl, ?_⟩⟩
        obtain ⟨path, rfl⟩ := Option.ne_none_iff_exists'.mp hartifact
        exact perform_artifact hstep
      · exact ih hrest

end Passes

/-! ## Outcomes -/

/-- The surroundings in which the first step of a run is reached. -/
def ready (b : Browser σ) (r : Run) (s : Surroundings σ) : Surroundings σ :=
  (acquire b (begun r s)).2

/-- Behind steps that pass with these results, the first of which is reached in these surroundings,
a step is stopped by a fault. -/
def StopsBehind (b : Browser σ) (directory : String) (s : Surroundings σ) (front : List Step)
    (passed : List StepResult) (step : Step) (fault : Fault) : Prop :=
  ∃ t, Passes b directory 0 front passed s t ∧
    (perform b directory front.length step (reached step t)).1 = .error fault

/-- What the results of a run with these steps, the first of which is reached in these surroundings,
tell when the run ended with a status. -/
structure Tells (b : Browser σ) (directory : String) (steps : List Step) (s : Surroundings σ)
    (status : RunStatus) (results : List StepResult) : Prop where
  beside : Beside 0 steps results
  fitting : ∀ result ∈ results, StepResult.Fitting result
  ordered : (status = .passed ∧ ∀ result ∈ results, result.status = .passed) ∨
    status = .failed ∧ ∃ front step rest passed fault, steps = front ++ step :: rest ∧
      StopsBehind b directory s front passed step fault ∧
      results = passed ++ .failed front.length step fault.message ::
        StepResult.skipped (front.length + 1) rest ∧
      (∀ result ∈ passed, result.status = .passed) ∧
      ∀ result ∈ StepResult.skipped (front.length + 1) rest, result.status = .skipped

section

variable {b : Browser σ} {directory : String} {front rest : List Step} {step : Step}
  {passed : List StepResult} {fault : Fault} {s t : Surroundings σ}

/-- A step that is stopped ends the steps: those in front have passed, and those behind are
skipped. -/
theorem performAll_of_stops (hstops : StopsBehind b directory s front passed step fault)
    (rest : List Step) : ∃ t, performAll b directory 0 (front ++ step :: rest) s =
      if fault.isInterrupt then ((passed, .interrupted fault), t)
      else ((passed ++ .failed front.length step fault.message ::
        StepResult.skipped (front.length + 1) rest, .failed), t) := by
  obtain ⟨t, hfront, hstep⟩ := hstops
  rw [performAll_of_passes hfront, Nat.zero_add, performAll_cons]
  rcases hperform : perform b directory front.length step (reached step t) with ⟨result, u⟩
  rw [hperform] at hstep
  obtain rfl : result = .error fault := hstep
  cases hfault : fault.isInterrupt with
  | true => exact ⟨u, by simp [hfault]⟩
  | false => exact ⟨failureReported front.length fault u, by simp [hfault]⟩

theorem performAll_all (hall : Passes b directory 0 front passed s t) :
    performAll b directory 0 front s = ((passed, .passed), t) := by
  have hthen := performAll_of_passes hall []
  rw [List.append_nil] at hthen
  rw [hthen]
  exact congrArg (fun results => ((results, StepsEnd.passed), t)) (List.append_nil passed)

theorem tells_of_passes (hall : Passes b directory 0 front passed s t) :
    Tells b directory front s .passed passed where
  beside := hall.beside
  fitting _ hmem := (hall.of_mem hmem).2
  ordered := .inl ⟨rfl, fun _ hmem => (hall.of_mem hmem).1⟩

/-- The results behind a step that is stopped tell of all steps. -/
theorem tells_of_stops (hstops : StopsBehind b directory s front passed step fault)
    (rest : List Step) : Tells b directory (front ++ step :: rest) s .failed
      (passed ++ .failed front.length step fault.message ::
        StepResult.skipped (front.length + 1) rest) := by
  obtain ⟨t, hfront, hstep⟩ := hstops
  refine ⟨?_, ?_, .inr ⟨rfl, front, step, rest, passed, fault, rfl, ⟨t, hfront, hstep⟩,
    rfl, ?_, ?_⟩⟩
  · refine hfront.beside.append (.cons ?_ rfl rfl ?_) <;> rw [Nat.zero_add]
    · rfl
    · exact beside_skipped _ rest
  · intro result hmem
    rcases List.mem_append.mp hmem with hpassed | hmem
    · exact (hfront.of_mem hpassed).2
    · rcases List.mem_cons.mp hmem with rfl | hskipped
      · exact fitting_failed _ _ _
      · exact (of_mem_skipped hskipped).2
  · exact fun _ hmem => (hfront.of_mem hmem).1
  · exact fun _ hmem => (of_mem_skipped hmem).1

end

/-- The steps of a replay that is not interrupted in one of them end as its results tell. -/
theorem replay_tells (b : Browser σ) (directory : String) (steps : List Step)
    (s : Surroundings σ) :
    let ending := (replay b directory steps s).1
    (Tells b directory steps s ending.status ending.results ∧
        (ending.status = .passed → ending.diagnostic = none)) ∨
      ∃ front step rest fault, steps = front ++ step :: rest ∧ fault.isInterrupt = true ∧
        StopsBehind b directory s front ending.results step fault ∧
        ending = ⟨.failed, ending.results, none, some fault⟩ := by
  obtain ⟨front, passed, t, hfront, hend⟩ := exists_passes b directory 0 steps s
  rw [replay_apply]
  rcases hend with rfl | ⟨step, rest, fault, u, rfl, hstep⟩
  · rw [performAll_all hfront]
    exact .inl ⟨tells_of_passes hfront, fun _ => rfl⟩
  · rw [Nat.zero_add] at hstep
    have hstops : StopsBehind b directory s front passed step fault := ⟨t, hfront, by rw [hstep]⟩
    obtain ⟨v, hperform⟩ := performAll_of_stops hstops rest
    rw [hperform]
    cases hfault : fault.isInterrupt with
    | true => exact .inr ⟨front, step, rest, fault, rfl, hfault, hstops, rfl⟩
    | false =>
        left
        simp only [Bool.false_eq_true, if_false]
        rcases capture b directory .failure none v with ⟨result, w⟩
        cases result with
        | ok diagnostic => exact ⟨tells_of_stops hstops rest, nofun⟩
        | error other => exact ⟨tells_of_stops hstops rest, nofun⟩

theorem replay_of_stops {b : Browser σ} {directory : String} {front : List Step} {step : Step}
    {passed : List StepResult} {fault : Fault} {s : Surroundings σ}
    (hstops : StopsBehind b directory s front passed step fault)
    (hinterrupt : fault.isInterrupt = true) (rest : List Step) :
    (replay b directory (front ++ step :: rest) s).1 = ⟨.failed, passed, none, some fault⟩ := by
  obtain ⟨t, hperform⟩ := performAll_of_stops hstops rest
  rw [replay_apply, hperform, if_pos hinterrupt]

/-- A run keeps what its ending tells, unless the call that closes its session is interrupted. -/
theorem conclude_keeps (b : Browser σ) (r : Run) (started : Moment) (ending : Ending)
    (s : Surroundings σ) :
    let done := conclude b r true started ending s
    (done.1.2.outcome = r.outcome ∧
        ∃ state fault, (b.answer .close state).1 = .error fault ∧ fault.isInterrupt = true) ∨
      ∃ outcome, done.1.2.outcome = some outcome ∧ outcome.status = ending.status ∧
        outcome.results = ending.results ∧ outcome.diagnostic = ending.diagnostic := by
  rw [conclude_apply]
  simp only [↓reduceIte]
  rcases hreleased : release b { r with state := ending.state } (entered r ending.state s)
    with ⟨result, t⟩
  cases result with
  | error fault =>
      obtain ⟨hfault, hinterrupt⟩ := release_fault hreleased
      unfold Browser.fault? at hfault
      split at hfault
      next => cases hfault
      next hanswer =>
        cases hfault
        exact .inl ⟨rfl, _, fault, hanswer, hinterrupt⟩
  | ok => exact .inr ⟨ending.outcome r started t, rfl, rfl, rfl, rfl⟩

/-- With a session, a run is a replay of its steps between the reports of its states. -/
theorem execute_replays (b : Browser σ) (directory : String) {r : Run} (hidle : r.state = .idle)
    (s : Surroundings σ) (hgiven : (b.acquire s.browser).1 = .ok ()) :
    r.execute b directory s =
      let replayed := replay b directory r.test.steps (ready b r s)
      conclude b { r with state := .running } true s.gallery.supply.now replayed.1 replayed.2 := by
  obtain ⟨hresult, -, -⟩ := acquire_begun b r s
  rw [hgiven] at hresult
  rw [execute_of_idle b directory hidle s, ready]
  rcases hacquire : acquire b (begun r s) with ⟨given, t⟩
  rw [hacquire] at hresult
  cases hresult
  rfl

/-- The outcome of a run that was refused its session has no results. -/
theorem execute_refused_results (b : Browser σ) (directory : String) {r : Run}
    (hidle : r.state = .idle) (s : Surroundings σ) {fault : Fault}
    (hfault : (b.acquire s.browser).1 = .error fault) {outcome : RunOutcome}
    (hkept : (r.execute b directory s).1.2.outcome = some outcome) :
    outcome.results = [] ∧ outcome.status = .failed ∧ outcome.diagnostic = none := by
  obtain ⟨hresult, -, -⟩ := acquire_begun b r s
  rw [hfault] at hresult
  rw [execute_of_idle b directory hidle s] at hkept
  rcases hacquire : acquire b (begun r s) with ⟨given, t⟩
  rw [hacquire] at hresult hkept
  cases hresult
  dsimp only at hkept
  cases hinterrupt : fault.isInterrupt with
  | true =>
      rw [hinterrupt, if_pos rfl, conclude_apply] at hkept
      cases hkept
      exact ⟨rfl, rfl, rfl⟩
  | false =>
      rw [hinterrupt, if_neg Bool.false_ne_true, conclude_apply] at hkept
      cases hkept
      exact ⟨rfl, rfl, rfl⟩

section

variable (b : Browser σ) (directory : String) {r : Run} (hidle : r.state = .idle)
  (s : Surroundings σ)

include hidle

/-- Without a session there is an outcome without results. -/
theorem execute_keeps_refused {fault : Fault} (hfault : (b.acquire s.browser).1 = .error fault)
    (hplain : fault.isInterrupt = false) :
    ∃ outcome, (r.execute b directory s).1.1 = .ok outcome ∧
      (r.execute b directory s).1.2.outcome = some outcome ∧
      outcome.results = [] ∧ outcome.status = .failed ∧ outcome.diagnostic = none := by
  obtain ⟨_, outcome, hrun, hresult⟩ := execute_refused b directory hidle s hfault
  have hkept : (r.execute b directory s).1.2.outcome = some outcome := by rw [hrun]
  exact ⟨outcome, hresult hplain, hkept, execute_refused_results b directory hidle s hfault hkept⟩

/-- With a session that nothing interrupts, the outcome is that of the replayed steps. -/
theorem execute_keeps_served (hgiven : (b.acquire s.browser).1 = .ok ()) (hb : Uninterrupted b) :
    ∃ outcome, (r.execute b directory s).1.1 = .ok outcome ∧
      (r.execute b directory s).1.2.outcome = some outcome ∧
      Tells b directory r.test.steps (ready b r s) outcome.status outcome.results ∧
      (outcome.status = .passed → outcome.diagnostic = none) := by
  obtain ⟨calls, _, _, hended⟩ := execute_served b directory hidle s hgiven
  obtain ⟨outcome, hrun, hresult⟩ := hended (hb.of_fault? _ _)
  have hok := hresult (hb.of_faults _ _)
  refine ⟨outcome, hok, by rw [hrun], ?_⟩
  rw [execute_replays b directory hidle s hgiven] at hok
  obtain ⟨huninterrupted, hstatus, hresults, hdiagnostic, _⟩ :=
    conclude_exchanged b { r with state := .running } s.gallery.supply.now _ _ hok
  rw [hstatus, hresults, hdiagnostic]
  rcases replay_tells b directory r.test.steps (ready b r s) with
    htells | ⟨_, _, _, fault, _, _, _, hending⟩
  · exact htells
  · rw [hending] at huninterrupted
    cases huninterrupted

/-- Behind an interrupted step, the outcome keeps the steps before it, unless closing the session is
interrupted too. -/
theorem execute_keeps_interrupted (hgiven : (b.acquire s.browser).1 = .ok ())
    {front rest : List Step} {step : Step} {passed : List StepResult} {fault : Fault}
    (hwhole : r.test.steps = front ++ step :: rest)
    (hstops : StopsBehind b directory (ready b r s) front passed step fault)
    (hinterrupt : fault.isInterrupt = true) :
    (∃ outcome, (r.execute b directory s).1.2.outcome = some outcome ∧ outcome.results = passed ∧
        Beside 0 front passed ∧ (∀ result ∈ passed, result.status = .passed) ∧
        outcome.status = .failed) ∨
      (r.execute b directory s).1.2.outcome = r.outcome ∧
        ∃ state closing, (b.answer .close state).1 = .error closing ∧
          closing.isInterrupt = true := by
  have hreplay := replay_of_stops hstops hinterrupt rest
  rw [execute_replays b directory hidle s hgiven, hwhole]
  dsimp only
  rw [hreplay]
  obtain ⟨_, hpasses, _⟩ := hstops
  rcases conclude_keeps b { r with state := .running } s.gallery.supply.now
    ⟨.failed, passed, none, some fault⟩
    (replay b directory (front ++ step :: rest) (ready b r s)).2 with
    hclosing | ⟨outcome, hkept, hfields⟩
  · exact .inr hclosing
  · exact .inl ⟨outcome, hkept, hfields.2.1, hpasses.beside,
      fun _ hmem => (hpasses.of_mem hmem).1, hfields.1⟩

end

/-- What is kept of a run after its execution. Refused a session it failed without results. Unless
anything interrupts it, its results stand beside its steps and tell how they ended. And if a step is
interrupted the results are those of the steps that passed before it, as long as closing the session
is not interrupted as well. -/
theorem execute_tells (b : Browser σ) (directory : String) (test : Test) (supply : Supply)
    (s : Surroundings σ) :
    let run := (Run.ofTest test supply).1
    let done := run.execute b directory s
    (∀ fault, (b.acquire s.browser).1 = .error fault → fault.isInterrupt = false →
        ∃ outcome, done.1.1 = .ok outcome ∧ done.1.2.outcome = some outcome ∧
          outcome.results = [] ∧ outcome.status = .failed ∧ outcome.diagnostic = none) ∧
      ((b.acquire s.browser).1 = .ok () → Uninterrupted b →
        ∃ outcome, done.1.1 = .ok outcome ∧ done.1.2.outcome = some outcome ∧
          Tells b directory test.steps (ready b run s) outcome.status outcome.results ∧
          (outcome.status = .passed → outcome.diagnostic = none)) ∧
      ∀ front step rest passed fault, (b.acquire s.browser).1 = .ok () →
        test.steps = front ++ step :: rest →
        StopsBehind b directory (ready b run s) front passed step fault →
        fault.isInterrupt = true →
        (∃ outcome, done.1.2.outcome = some outcome ∧ outcome.results = passed ∧
            Beside 0 front passed ∧ (∀ result ∈ passed, result.status = .passed) ∧
            outcome.status = .failed) ∨
          done.1.2.outcome = none ∧
            ∃ state closing, (b.answer .close state).1 = .error closing ∧
              closing.isInterrupt = true := by
  have hidle : (Run.ofTest test supply).1.state = .idle := rfl
  refine ⟨fun fault hfault hplain => ?_, fun hgiven hb => ?_, ?_⟩
  · exact execute_keeps_refused b directory hidle s hfault hplain
  · exact execute_keeps_served b directory hidle s hgiven hb
  · intro front step rest passed fault hgiven hwhole hstops hinterrupt
    exact execute_keeps_interrupted b directory hidle s hgiven hwhole hstops hinterrupt

/-- On the covered page the link cannot be clicked, which leaves the screenshot behind it out. -/
theorem execute_tells_coveredPage :
    (coveredPage.acquire ()).1 = .ok () ∧ Uninterrupted coveredPage ∧
      ∃ outcome, ((Run.ofTest followLink freshSurroundings.gallery.supply).1.execute coveredPage
          "shots" freshSurroundings).1.1 = .ok outcome ∧
        Tells coveredPage "shots" followLink.steps
          (ready coveredPage (Run.ofTest followLink freshSurroundings.gallery.supply).1
            freshSurroundings) outcome.status outcome.results ∧
        outcome.results.map (fun result => (result.index, result.status, result.error)) =
          [(0, .passed, none), (1, .failed, some "Timeout 10000ms exceeded."),
            (2, .skipped, none)] := by
  obtain ⟨_, hserved, _⟩ := execute_tells coveredPage "shots" followLink
    freshSurroundings.gallery.supply freshSurroundings
  obtain ⟨outcome, hok, _, htells, _⟩ := hserved rfl coveredPage_uninterrupted
  have hresults : ((Run.ofTest followLink freshSurroundings.gallery.supply).1.execute coveredPage
      "shots" freshSurroundings).1.1.toOption.map (fun outcome => outcome.results.map
        fun result => (result.index, result.status, result.error)) =
      some [(0, .passed, none), (1, .failed, some "Timeout 10000ms exceeded."),
        (2, .skipped, none)] := by decide +kernel
  rw [hok] at hresults
  exact ⟨rfl, coveredPage_uninterrupted, outcome, hok, htells, Option.some.inj hresults⟩

end Clickpath.Run
