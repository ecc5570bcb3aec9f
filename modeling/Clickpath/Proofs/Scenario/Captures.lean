import Clickpath.Proofs.Run.Agreement
import Clickpath.Proofs.Run.Results
import Clickpath.Proofs.Scenario.LineByLine
import Clickpath.Proofs.Screenshot.Naming

/-! # Captures of scenarios

A screenshot to which a line gives no name is named when the line is read, after the clock. A run
takes that name as it is, whatever else has it. So two such captures are written to one file just
when their lines were read in the same millisecond.
-/

namespace Clickpath

/-! ## Runs that passed -/

namespace Run

open Session Screenshot

variable {σ : Type} {b : Browser σ} {directory : String}

/-- The results of a replay that passed are those of steps that passed one after another. -/
theorem passes_of_replay {steps : List Step} {s : Surroundings σ}
    (hpassed : (replay b directory steps s).1.status = .passed) :
    ∃ t, Passes b directory 0 steps (replay b directory steps s).1.results s t := by
  obtain ⟨front, passed, t, hfront, hend⟩ := exists_passes b directory 0 steps s
  rw [replay_apply] at hpassed ⊢
  rcases hend with rfl | ⟨step, rest, fault, u, rfl, hstep⟩
  · rw [performAll_all hfront]
    exact ⟨t, hfront⟩
  · rw [Nat.zero_add] at hstep
    obtain ⟨v, hperform⟩ := performAll_of_stops ⟨t, hfront, by rw [hstep]⟩ rest
    rw [hperform] at hpassed
    cases hfault : fault.isInterrupt with
    | true =>
        rw [hfault, if_pos rfl] at hpassed
        cases hpassed
    | false =>
        rw [hfault, if_neg Bool.false_ne_true] at hpassed
        rcases hdiagnostic : capture b directory .failure none v with ⟨result, w⟩
        dsimp only at hpassed
        rw [hdiagnostic] at hpassed
        cases result <;> cases hpassed

/-- In a run that passed, all steps passed one after another with the results that it came to. -/
theorem passes_of_passed {r : Run} (hidle : r.state = .idle) {s : Surroundings σ}
    {outcome : RunOutcome} (hresult : (r.execute b directory s).1.1 = .ok outcome)
    (hpassed : outcome.status = .passed) :
    ∃ t, Passes b directory 0 r.test.steps outcome.results (ready b r s) t := by
  have hgiven := acquired_of_passed b directory hidle s hresult hpassed
  rw [execute_replays b directory hidle s hgiven] at hresult
  obtain ⟨-, hstatus, hresults, -⟩ := conclude_exchanged b _ _ _ _ hresult
  rw [hresults]
  exact passes_of_replay (hstatus.symm.trans hpassed)

/-- Each step that passed was performed as it was planned, and its result names the file that came
of it. -/
theorem Passes.exists_perform {index position : Nat} {steps : List Step} {results : List StepResult}
    {s t : Surroundings σ} (h : Passes b directory index steps results s t) {step : Step}
    (hstep : steps[position]? = some step) :
    ∃ artifact u v, results[position]? = some (.passed (index + position) step artifact) ∧
      perform b directory (index + position) step u = (.ok artifact, v) ∧
      (plan directory s.gallery steps)[position]? = some (planStep directory u.gallery step).1 := by
  induction h generalizing position with
  | none => cases hstep
  | @next index first rest artifact results s t u hfirst _ ih =>
      cases position with
      | zero =>
          cases hstep
          exact ⟨artifact, reached step s, t, rfl, hfirst, rfl⟩
      | succ position =>
          obtain ⟨artifact, v, w, hresult, hperform, hplanned⟩ := ih hstep
          obtain ⟨_, -, -, hgallery⟩ := perform_performed b directory index first (reached first s)
          rw [hfirst] at hgallery
          rw [Nat.add_right_comm] at hresult hperform
          refine ⟨artifact, v, w, hresult, hperform, ?_⟩
          rw [← hplanned, show t.gallery = (planStep directory s.gallery first).2 from hgallery]
          rfl

/-- A browser that always captures the page. -/
def Captures (b : Browser σ) : Prop := ∀ path state, (b.answer (.screenshot path) state).1 = .ok ()

/-- A capture with a name of its own goes to the file of that name, if a path can be prepared. -/
theorem capture_named (hb : Captures b) {occasion : Occasion} {file : String} (hfile : file ≠ "")
    {artifact : Option String} {s t : Surroundings σ}
    (hcapture : capture b directory occasion (some file) s = (.ok artifact, t)) :
    artifact = (prepare directory occasion (some file) s.gallery).1 ∧
      ∀ path ∈ artifact, path = Path.join directory file := by
  rw [capture_apply, Gallery.pathFor, Option.bind_some,
    Text.nonempty?_eq_some_iff.mpr ⟨rfl, hfile⟩] at hcapture
  rw [prepare, Gallery.pathFor, Option.bind_some, Text.nonempty?_eq_some_iff.mpr ⟨rfl, hfile⟩]
  rcases hmade : s.gallery.disk.ensureDirectory directory with ⟨made, disk⟩
  rw [hmade] at hcapture
  cases made with
  | error fault =>
      cases hcapture
      refine ⟨rfl, ?_⟩
      rintro path ⟨⟩
  | ok =>
      have hsaved : ∀ u : Surroundings σ,
        (ask b (.screenshot (Path.join directory file)) u).1 = .ok () :=
        fun u => hb _ u.browser
      dsimp only at hcapture
      rcases hreply : ask b (.screenshot (Path.join directory file))
        { s with gallery := { s.gallery with disk := disk } } with ⟨reply, u⟩
      have hok := hsaved { s with gallery := { s.gallery with disk := disk } }
      rw [hreply] at hcapture hok
      cases hok
      cases hcapture
      refine ⟨rfl, ?_⟩
      rintro path ⟨⟩
      rfl

/-- A result is that of a capture, planned so, that goes to a file unless no path can be
prepared. -/
def CapturedTo (directory file : String) (planned : Planned) (result : StepResult) : Prop :=
  result.kind = .screenshot ∧
    (result.artifact = some (Path.join directory file) ∨
      result.artifact = none ∧ planned.isUnprepared = true)

/-- In a run that passed, a step that captures to a file did so. -/
theorem Passes.exists_capturedTo (hb : Captures b) {steps : List Step} {results : List StepResult}
    {s t : Surroundings σ} (h : Passes b directory 0 steps results s t) {position : Nat}
    {name file : String} (hstep : steps[position]? = some ⟨name, .screenshot (some file)⟩)
    (hfile : file ≠ "") :
    ∃ result planned, results[position]? = some result ∧
      (plan directory s.gallery steps)[position]? = some planned ∧
      CapturedTo directory file planned result := by
  obtain ⟨artifact, u, v, hat, hperform, hplanned⟩ := h.exists_perform hstep
  refine ⟨_, _, hat, hplanned, rfl, ?_⟩
  have hgiven := Text.nonempty?_eq_some_iff.mpr ⟨rfl, hfile⟩
  rw [perform] at hperform
  dsimp only at hperform
  rw [Option.bind_some, hgiven] at hperform
  obtain ⟨hprepared, hname⟩ := capture_named hb hfile hperform
  cases hartifact : artifact with
  | some path => exact .inl (congrArg some (hname path hartifact))
  | none =>
      refine .inr ⟨rfl, ?_⟩
      rw [planStep]
      dsimp only
      rw [Option.bind_some, hgiven, Planned.isUnprepared, ← hprepared, hartifact]
      rfl

end Run

/-! ## Names from the clock -/

namespace Scenario

open Record

def isStep (line : List Char) : Bool :=
  match meaning line with
  | .step _ _ => true
  | _ => false

def isUnnamed (line : List Char) : Bool :=
  match meaning line with
  | .step kind parts =>
    kind == .screenshot && (partDatum? parts.target).isNone && (partDatum? parts.value).isNone
  | _ => false

/-- The lines that are steps, trimmed. -/
def stepLines (lines : List (List Char)) : List (List Char) := (lines.map Chars.trim).filter isStep

/-- A line of steps, by its position, asks for a capture and gives it no name. -/
def IsUnnamedAt (lines : List (List Char)) (position : Nat) : Prop :=
  ∃ line, lines[position]? = some line ∧ isUnnamed line = true

/-- The clock when the name of a capture is read from it. -/
def readingAt (lines : List (List Char)) (supply : Supply) (position : Nat) : Int :=
  supply.millisAt (supply.readingsTaken + (lines.take position).countP isUnnamed)

theorem stepLines_cons (line : List Char) (rest : List (List Char)) :
    stepLines (line :: rest) =
      if isStep (Chars.trim line) then Chars.trim line :: stepLines rest else stepLines rest := by
  rw [stepLines, List.map_cons, List.filter_cons]
  rfl

/-- The clock is read for a line only if it asks for a capture without a name. -/
theorem readingAt_succ (line : List Char) (rest : List (List Char)) (supply : Supply)
    (position : Nat) : readingAt (line :: rest) supply (position + 1) =
      readingAt rest (if isUnnamed line then supply.readClock.2 else supply) position := by
  rw [readingAt, readingAt, List.take_succ_cons, List.countP_cons]
  cases isUnnamed line with
  | true =>
      show supply.millisAt (supply.readingsTaken + (_ + 1)) =
        supply.millisAt (supply.readingsTaken + 1 + _)
      rw [Nat.add_assoc, Nat.add_comm 1]
  | false => rfl

section

variable {line : List Char} {kind : StepKind} {parts : Line}

theorem isStep_of_meaning (hmeaning : meaning line = .step kind parts) : isStep line = true := by
  rw [isStep, hmeaning]

theorem isUnnamed_of_meaning (hmeaning : meaning line = .step kind parts) :
    isUnnamed line = (kind == .screenshot && (partDatum? parts.target).isNone &&
      (partDatum? parts.value).isNone) := by
  rw [isUnnamed, hmeaning]

/-- The clock is read once for a capture without a name, and else it is not read. -/
theorem stepOf_clock (hmeaning : meaning line = .step kind parts) (name : List Char)
    (supply : Supply) :
    (stepOf kind name parts supply).2 =
      if isUnnamed line then supply.readClock.2 else supply := by
  have hselector : ∀ (result : Except Fault (Option Selector)) (part : Option Datum),
      ((given result >>= fun selector =>
          given (Step.ofParts kind (.text (String.ofList name)) selector part)) supply).2 =
        supply := by
    intro result part
    cases result <;> rfl
  rw [isUnnamed_of_meaning hmeaning, stepOf]
  cases kind with
  | screenshot =>
      rw [Designer.build]
      cases partDatum? parts.value <;> cases partDatum? parts.target <;> rfl
  | navigate => rfl
  | click | typeText | assertText => exact hselector _ _

/-- A capture without a name is named after the clock. -/
theorem stepOf_unnamed (hmeaning : meaning line = .step kind parts) (hline : isUnnamed line = true)
    (name : List Char) (supply : Supply) :
    (stepOf kind name parts supply).1 = .ok ⟨String.ofList name,
      .screenshot (some (Designer.generatedName (supply.millisAt supply.readingsTaken)))⟩ := by
  simp only [isUnnamed_of_meaning hmeaning, Bool.and_eq_true, beq_iff_eq,
    Option.isNone_iff_eq_none] at hline
  obtain ⟨⟨rfl, htarget⟩, hvalue⟩ := hline
  rw [stepOf, htarget, hvalue]
  exact Designer.ofParts_screenshot _ (Designer.isBlank_generatedName _)

end

/-- Captures without a name take one reading of the clock each, in the order of their lines. -/
theorem getElem?_of_readLines (number : Nat) (lines : List (List Char)) (supply : Supply)
    {steps : List Step} (hsteps : (readLines number lines supply).1.steps = .ok steps)
    {position : Nat} {line : List Char} (hline : (stepLines lines)[position]? = some line)
    (hunnamed : isUnnamed line = true) :
    steps[position]? = some ⟨String.ofList line, .screenshot
      (some (Designer.generatedName (readingAt (stepLines lines) supply position)))⟩ := by
  induction lines generalizing number supply steps position with
  | nil => cases hline
  | cons first rest ih =>
      rw [stepLines_cons] at hline ⊢
      cases hmeaning : meaning (Chars.trim first) with
      | nothing =>
          rw [readLines_of_nothing _ _ hmeaning] at hsteps
          rw [isStep, hmeaning, if_neg Bool.false_ne_true] at hline ⊢
          exact ih _ _ hsteps hline
      | unrecognised =>
          rw [readLines_of_unrecognised _ _ hmeaning] at hsteps
          rw [isStep, hmeaning, if_neg Bool.false_ne_true] at hline ⊢
          exact ih _ _ hsteps hline
      | step kind parts =>
          rw [isStep_of_meaning hmeaning, if_pos rfl] at hline ⊢
          have hclock := stepOf_clock hmeaning (Chars.trim first) supply
          rcases hmade : stepOf kind (Chars.trim first) parts supply with ⟨_ | step, after⟩
          · rw [readLines_of_error _ _ hmeaning hmade] at hsteps
            cases hsteps
          · rw [readLines_of_ok _ _ hmeaning hmade] at hsteps
            obtain ⟨later, hlater, rfl⟩ := Reading.of_push hsteps
            cases position with
            | zero =>
                cases hline
                have hnamed := stepOf_unnamed hmeaning hunnamed (Chars.trim first) supply
                rw [hmade] at hnamed
                exact congrArg some (Except.ok.inj hnamed)
            | succ position =>
                rw [List.getElem?_cons_succ] at hline ⊢
                rw [hmade] at hclock
                dsimp only at hclock
                rw [ih _ _ hlater hline, hclock, readingAt_succ]

/-! ## Runs of scenarios -/

section

open Run Session Screenshot

/-- The steps of a test are those of the lines of its scenario. -/
theorem steps_of_toTest {text name tool platform : String} {supply : Supply} {test : Test}
    (h : (toTest text name tool platform supply).1.2 = .ok test) :
    (readLines 1 (Chars.lines text.toList) supply).1.steps = .ok test.steps := by
  rw [toTest, read_eq] at h
  dsimp only at h
  cases hsteps : (readLines 1 (Chars.lines text.toList) supply).1.steps with
  | error fault =>
      rw [hsteps] at h
      cases h
  | ok steps =>
      rw [hsteps] at h
      cases h
      rfl

/-- Names from the clock tell its reading, in whatever directory. -/
theorem join_generatedName_inj (directory : String) {millis other : Int} :
    Path.join directory (Designer.generatedName millis) =
      Path.join directory (Designer.generatedName other) ↔ millis = other := by
  have hname : ∀ millis : Int, Path.join directory (Designer.generatedName millis) =
      Request.name directory ⟨"screenshot", millis⟩ 0 := by
    intro millis
    simp [Request.name, candidate, Designer.generatedName]
  have hplain : IsPlain "screenshot" := ⟨by decide, by decide⟩
  constructor
  · intro h
    rw [hname, hname] at h
    exact congrArg Request.millis (Request.name_inj hplain hplain h).1
  · rintro rfl
    rfl

variable {σ : Type}

/-- In a run of a scenario that passed, on a browser that always captures the page, a capture
without a name goes to the file named after the clock when its line was read, unless no path can be
prepared for it. Two of them go to different files just when the readings differ. -/
theorem captures_apart_iff {b : Browser σ} (hb : Captures b) {text name tool platform : String}
    {supply : Supply} {test : Test} (hmade : (toTest text name tool platform supply).1.2 = .ok test)
    (directory : String) (later : Supply) (s : Surroundings σ) {outcome : RunOutcome}
    (hresult : ((Run.ofTest test later).1.execute b directory s).1.1 = .ok outcome)
    (hpassed : outcome.status = .passed) :
    let lines := stepLines (Chars.lines text.toList)
    (∀ i, IsUnnamedAt lines i → ∃ result planned, outcome.results[i]? = some result ∧
      (plan directory s.gallery test.steps)[i]? = some planned ∧ result.kind = .screenshot ∧
        (result.artifact =
            some (Path.join directory (Designer.generatedName (readingAt lines supply i))) ∨
          result.artifact = none ∧ planned.isUnprepared = true)) ∧
      ∀ i j p q, IsUnnamedAt lines i → IsUnnamedAt lines j →
        outcome.results[i]?.bind (·.artifact) = some p →
        outcome.results[j]?.bind (·.artifact) = some q →
        (p ≠ q ↔ readingAt lines supply i ≠ readingAt lines supply j) := by
  intro lines
  obtain ⟨t, hpasses⟩ := passes_of_passed (r := (Run.ofTest test later).1) rfl hresult hpassed
  have hcaptured : ∀ i, IsUnnamedAt lines i → ∃ result planned, outcome.results[i]? = some result ∧
      (plan directory s.gallery test.steps)[i]? = some planned ∧
      CapturedTo directory (Designer.generatedName (readingAt lines supply i)) planned result := by
    rintro i ⟨line, hline, hunnamed⟩
    have hstep := getElem?_of_readLines 1 _ supply (steps_of_toTest hmade) hline hunnamed
    apply hpasses.exists_capturedTo hb hstep
    intro hempty
    have hblank := Designer.isBlank_generatedName (readingAt lines supply i)
    rw [hempty] at hblank
    cases hblank
  refine ⟨hcaptured, ?_⟩
  have hfile : ∀ i p, IsUnnamedAt lines i → outcome.results[i]?.bind (·.artifact) = some p →
      p = Path.join directory (Designer.generatedName (readingAt lines supply i)) := by
    intro i p hi hp
    obtain ⟨result, planned, hat, -, -, hartifact⟩ := hcaptured i hi
    rw [hat, Option.bind_some] at hp
    rcases hartifact with hsaved | ⟨hnone, -⟩
    · exact Option.some.inj (hp.symm.trans hsaved)
    · rw [hnone] at hp
      cases hp
  intro i j p q hi hj hp hq
  rw [hfile i p hi hp, hfile j q hj hq]
  exact (join_generatedName_inj directory).not

/-- Two captures without names are read in one millisecond, with a comment between them, and go to
one file. -/
theorem captures_apart_iff_sameMillisecond :
    let text := "SCREENSHOT\n# again\nTAKE_SCREENSHOT"
    let lines := stepLines (Chars.lines text.toList)
    ∃ test outcome,
      (toTest text "Shots" "playwright" "javascript" (Supply.still 1000)).1.2 = .ok test ∧
      ((Run.ofTest test (Supply.still 2000)).1.execute coveredPage "shots" freshSurroundings).1.1 =
        .ok outcome ∧
      outcome.status = .passed ∧ IsUnnamedAt lines 0 ∧ IsUnnamedAt lines 1 ∧
      ∃ p q, outcome.results.map (·.artifact) = [some p, some q] ∧
        (p ≠ q ↔ readingAt lines (Supply.still 1000) 0 ≠ readingAt lines (Supply.still 1000) 1) ∧
        p = q := by
  intro text lines
  have hcaptures : Captures coveredPage := fun _ _ => rfl
  let test : Test := ⟨"", "Shots", [⟨"SCREENSHOT", .screenshot (some "screenshot-1000.png")⟩,
    ⟨"TAKE_SCREENSHOT", .screenshot (some "screenshot-1000.png")⟩], "playwright", "javascript",
    (Supply.still 1000).now⟩
  have hmade : (toTest text "Shots" "playwright" "javascript" (Supply.still 1000)).1.2 = .ok test :=
    eq_ok_of_toOption (by decide +kernel)
  have hrun : ((Run.ofTest test (Supply.still 2000)).1.execute coveredPage "shots"
      freshSurroundings).1.1.toOption.map
        (fun outcome => (outcome.status, outcome.results.map (·.artifact))) =
      some (.passed, [some "shots/screenshot-1000.png", some "shots/screenshot-1000.png"]) := by
    decide +kernel
  cases hresult : ((Run.ofTest test (Supply.still 2000)).1.execute coveredPage "shots"
      freshSurroundings).1.1 with
  | error fault =>
      rw [hresult] at hrun
      cases hrun
  | ok outcome =>
      rw [hresult] at hrun
      obtain ⟨hpassed, hartifacts⟩ := Prod.mk.inj (Option.some.inj hrun)
      have hfirst : IsUnnamedAt lines 0 :=
        ⟨"SCREENSHOT".toList, by decide +kernel, by decide +kernel⟩
      have hsecond : IsUnnamedAt lines 1 :=
        ⟨"TAKE_SCREENSHOT".toList, by decide +kernel, by decide +kernel⟩
      have hat : ∀ i : Nat, outcome.results[i]?.bind StepResult.artifact =
          (outcome.results.map StepResult.artifact)[i]?.bind id := by
        intro i
        rw [List.getElem?_map, Option.bind_map]
        rfl
      obtain ⟨-, hapart⟩ := captures_apart_iff hcaptures hmade "shots" (Supply.still 2000)
        freshSurroundings hresult hpassed
      refine ⟨test, outcome, hmade, hresult, hpassed, hfirst, hsecond, _, _, hartifacts, ?_, rfl⟩
      exact hapart 0 1 _ _ hfirst hsecond (by rw [hat, hartifacts]; rfl)
        (by rw [hat, hartifacts]; rfl)

end

end Scenario

end Clickpath
