import Clickpath.Proofs.Run.Closing
import Clickpath.Proofs.Run.Course

/-! # Accounts of runs

What a session was asked in a run is accounted for call by call: first what belongs to each step in
order, then the screenshot after a failure, and the call that closes the session last.
-/

namespace Clickpath.Run

open Session Screenshot

variable {σ : Type}

/-! ## Entries -/

theorem demands_calls (index : Nat) {planned : Planned}
    (hkind : planned.step.kind ≠ .screenshot) :
    (demands index planned.step.action).map (·.call) = planned.block := by
  unfold Planned.block
  rcases planned with ⟨⟨name, action⟩, path⟩
  cases action with
  | screenshot file => exact absurd rfl hkind
  | _ => rfl

theorem block_of_screenshot {planned : Planned} (hkind : planned.step.kind = .screenshot) :
    planned.block = planned.path.toList.map .screenshot := by
  unfold Planned.block
  rcases planned with ⟨⟨name, action⟩, path⟩
  cases action with
  | screenshot file => rfl
  | _ => cases hkind

/-- A step that works on the page makes no screenshot. -/
theorem screenshot_notMem_block {planned : Planned} (hkind : planned.step.kind ≠ .screenshot)
    (path : String) : .screenshot path ∉ planned.block := by
  rw [← demands_calls 0 hkind]
  unfold demands
  split <;> simp [Demand.someElement, Demand.someText, Demand.anyReply]

/-- What an entry tells of its step: a step that passed made its calls, one that failed made the
first of them up to an exchange that broke it, and one that was skipped made none. Screenshots do
not fail, and only one that was saved leaves a file. -/
structure Entry.Fits (entry : Entry) : Prop where
  passed : entry.result.status = .passed → entry.log.map (·.call) = entry.planned.block
  failed : entry.result.status = .failed → entry.log.map (·.call) <+: entry.planned.block
  skipped : entry.result.status = .skipped → entry.log = []
  fails_iff : entry.planned.step.kind ≠ .screenshot →
    (entry.result.status = .failed ↔
      ∃ exchange ∈ entry.log, Breaks entry.planned.step.action exchange)
  captures : entry.planned.step.kind = .screenshot → entry.result.status ≠ .failed
  artifact_iff : ∀ path, entry.result.artifact = some path ↔
    entry.log = [⟨.screenshot path, .ok ()⟩]

theorem breaks_iff_error {index : Nat} {planned : Planned} {log : List (Exchange Call.Reply)}
    {result : Except Fault Unit} (hmet : Met (demands index planned.step.action) log result) :
    (∃ fault, result = .error fault) ↔
      ∃ exchange ∈ log, Breaks planned.step.action exchange :=
  hmet.error_iff fun _ hmem reply => fault?_eq_none_iff hmem reply

/-- The calls of a step that works on the page are no screenshots. -/
theorem log_ne_screenshot {index : Nat} {planned : Planned} {log : List (Exchange Call.Reply)}
    {result : Except Fault Unit} (hkind : planned.step.kind ≠ .screenshot)
    (hmet : Met (demands index planned.step.action) log result) (path : String)
    (reply : Except Fault Unit) : log ≠ [⟨.screenshot path, reply⟩] := by
  rintro rfl
  have hfirst := hmet.calls_prefix
  rw [demands_calls index hkind] at hfirst
  exact screenshot_notMem_block hkind path (hfirst.subset List.mem_cons_self)

/-- A screenshot leaves its path just when the session saved it there. -/
theorem Captured.artifact_iff {prepared artifact : Option String}
    {log : List (Exchange Call.Reply)} (hcapture : Captured prepared log (.ok artifact))
    (path : String) : artifact = some path ↔ log = [⟨.screenshot path, .ok ()⟩] := by
  cases hcapture with
  | unprepared => exact iff_of_false nofun nofun
  | saved saved =>
      constructor
      · intro hpath
        cases hpath
        rfl
      · intro hlog
        cases hlog
        rfl
  | unsaved _ _ => exact iff_of_false nofun nofun

theorem Captured.guarded {prepared : Option String} {log : List (Exchange Call.Reply)}
    {result : Except Fault (Option String)} (hcapture : Captured prepared log result) :
    Guarded log := by
  cases hcapture with
  | unprepared => exact .nil
  | _ => exact .free rfl .nil

/-- A step that passed tells of all its calls. -/
theorem Performed.fits_passed {index : Nat} {planned : Planned}
    {log : List (Exchange Call.Reply)} {artifact : Option String}
    (hstep : Performed index planned log (.ok artifact)) :
    Entry.Fits ⟨planned, .passed index planned.step artifact, log⟩ := by
  cases hstep with
  | acted hkind hmet =>
      have hbreaks := breaks_iff_error hmet
      refine ⟨fun _ => ?_, nofun, nofun, fun _ => ?_, fun h => absurd h hkind, fun path => ?_⟩
      · exact hmet.calls_eq.trans (demands_calls index hkind)
      · rw [← hbreaks]
        exact iff_of_false nofun nofun
      · exact iff_of_false nofun (log_ne_screenshot hkind hmet path _)
  | captured hkind hcapture =>
      refine ⟨fun _ => ?_, nofun, nofun, fun h => absurd hkind h, fun _ => nofun, fun path => ?_⟩
      · rw [block_of_screenshot hkind]
        generalize hpath : planned.path = prepared at hcapture
        cases hcapture <;> simp
      · exact hcapture.artifact_iff path

/-- A step that failed tells of its calls up to the one that broke it. -/
theorem Performed.fits_failed {index : Nat} {planned : Planned}
    {log : List (Exchange Call.Reply)} {fault : Fault}
    (hstep : Performed index planned log (.error fault)) (hfault : fault.isInterrupt = false) :
    Entry.Fits ⟨planned, .failed index planned.step fault.message, log⟩ := by
  cases hstep with
  | stopped hkind hmet =>
      have hbreaks := breaks_iff_error hmet
      refine ⟨nofun, fun _ => ?_, nofun, fun _ => ?_, fun h => absurd h hkind, fun path => ?_⟩
      · rw [← demands_calls index hkind]
        exact hmet.calls_prefix
      · rw [← hbreaks]
        exact iff_of_true rfl ⟨fault, rfl⟩
      · exact iff_of_false nofun (log_ne_screenshot hkind hmet path _)
  | captured hkind hcapture =>
      -- Only an interruption ends a screenshot in a fault.
      generalize planned.path = prepared at hcapture
      cases hcapture with
      | interrupted _ hinterrupt => simp [hfault] at hinterrupt

/-- Steps that were not reached tell of no calls. -/
theorem fits_unreached (index : Nat) (plan : List Planned) :
    ∀ entry ∈ Entry.unreached index plan, entry.Fits ∧ entry.result.status = .skipped ∧
      entry.log = [] := by
  induction plan generalizing index with
  | nil => simp [Entry.unreached]
  | cons planned rest ih =>
      refine List.forall_mem_cons.mpr ⟨⟨?_, rfl, rfl⟩, ih (index + 1)⟩
      refine ⟨fun hpassed => ?_, fun hfailed => ?_, fun _ => rfl, fun _ => ?_, fun _ hfailed => ?_,
        fun path => ?_⟩
      · cases hpassed
      · cases hfailed
      · exact iff_of_false (by simp) (by simp)
      · cases hfailed
      · exact iff_of_false (by simp) (by simp)

theorem Performed.guarded {index : Nat} {planned : Planned} {log : List (Exchange Call.Reply)}
    {result : Except Fault (Option String)} (hstep : Performed index planned log result) :
    Guarded log := by
  cases hstep with
  | acted _ hmet => exact hmet.guarded
  | stopped _ hmet => exact hmet.guarded
  | captured _ hcapture => exact hcapture.guarded

namespace Course

variable {index : Nat} {plan : List Planned} {entries : List Entry} {ending : StepsEnd}

/-- The steps in a course are those that were planned. -/
theorem planned (hcourse : Course index plan entries ending) :
    entries.map (·.planned) = plan := by
  induction hcourse with
  | done => rfl
  | passed _ _ ih => rw [List.map_cons, ih]
  | @failed index _ rest _ _ _ _ =>
      rw [List.map_cons]
      congr
      generalize index + 1 = index
      induction rest generalizing index with
      | nil => rfl
      | cons head rest ih => rw [Entry.unreached, List.map_cons, ih]

/-- Every entry of a course tells the truth of its step. -/
theorem fits (hcourse : Course index plan entries ending) : ∀ entry ∈ entries, entry.Fits := by
  induction hcourse with
  | done => simp
  | passed hstep _ ih => exact List.forall_mem_cons.mpr ⟨hstep.fits_passed, ih⟩
  | failed hstep hfault =>
      exact List.forall_mem_cons.mpr
        ⟨hstep.fits_failed hfault, fun entry hmem => (fits_unreached _ _ entry hmem).1⟩

/-- In a course no element is worked on that was not counted before. -/
theorem guarded (hcourse : Course index plan entries ending) :
    Guarded (entries.flatMap (·.log)) := by
  induction hcourse with
  | done => exact .nil
  | passed hstep _ ih => exact hstep.guarded.append ih
  | failed hstep _ =>
      rw [List.flatMap_cons, unreached_log, List.append_nil]
      exact hstep.guarded

end Course

/-- Entries of a run that ended so: all of them passed, or one failed between those that passed and
those that were skipped. -/
def Ordered (status : RunStatus) (entries : List Entry) : Prop :=
  ∃ before, (∀ entry ∈ before, entry.result.status = .passed) ∧
    (status = .passed ∧ entries = before ∨
      status = .failed ∧ ∃ entry after, entries = before ++ entry :: after ∧
        entry.result.status = .failed ∧ ∀ entry ∈ after, entry.result.status = .skipped)

theorem Ordered.cons {status : RunStatus} {entry : Entry} {entries : List Entry}
    (hpassed : entry.result.status = .passed) (hordered : Ordered status entries) :
    Ordered status (entry :: entries) := by
  obtain ⟨before, hbefore, hending⟩ := hordered
  refine ⟨entry :: before, List.forall_mem_cons.mpr ⟨hpassed, hbefore⟩, ?_⟩
  rcases hending with ⟨hstatus, rfl⟩ | ⟨hstatus, stopped, after, rfl, hrest⟩
  · exact .inl ⟨hstatus, rfl⟩
  · exact .inr ⟨hstatus, stopped, after, rfl, hrest⟩

def StepsEnd.status : StepsEnd → RunStatus
  | passed => .passed
  | _ => .failed

/-- The steps in front of one that failed have passed, and those behind it are skipped. -/
theorem Course.ordered {index : Nat} {plan : List Planned} {entries : List Entry}
    {ending : StepsEnd} (hcourse : Course index plan entries ending) :
    Ordered ending.status entries := by
  induction hcourse with
  | done => exact ⟨[], by simp, .inl ⟨rfl, rfl⟩⟩
  | passed _ _ ih => exact ih.cons rfl
  | failed _ _ =>
      refine ⟨[], by simp, .inr ⟨rfl, _, _, rfl, rfl, ?_⟩⟩
      exact fun entry hmem => (fits_unreached _ _ entry hmem).2.1

/-! ## Accounts -/

/-- What was exchanged with the session of a run: for its steps, for the screenshot after a failure,
and for the call that closes it. -/
structure Account where
  entries : List Entry
  diagnostic : List (Exchange Call.Reply)
  closing : Except Fault Unit

def Account.log (account : Account) : List (Exchange Call.Reply) :=
  account.entries.flatMap (·.log) ++ account.diagnostic ++ [⟨.close, account.closing⟩]

/-- An account is that of a run with these steps, as they were planned, and this outcome. -/
structure Account.Explains (account : Account) (plan : List Planned) (outcome : RunOutcome) :
    Prop where
  planned : account.entries.map (·.planned) = plan
  results : account.entries.map (·.result) = outcome.results
  fits : ∀ entry ∈ account.entries, entry.Fits
  ordered : Ordered outcome.status account.entries
  guarded : Guarded account.log
  diagnosed : account.diagnostic = [] ∨
    outcome.status = .failed ∧ ∃ path reply, account.diagnostic = [⟨.screenshot path, reply⟩]
  diagnostic_iff : ∀ path, outcome.diagnostic = some path ↔
    outcome.status = .failed ∧ account.diagnostic = [⟨.screenshot path, .ok ()⟩]

/-- The screenshot after steps that ended so: what was exchanged for it, and its path. -/
inductive Diagnosed : StepsEnd → List (Exchange Call.Reply) → Option String → Prop
  | passed : Diagnosed .passed [] none
  | failed {prepared diagnostic : Option String} {log : List (Exchange Call.Reply)}
      (hcapture : Captured prepared log (.ok diagnostic)) : Diagnosed .failed log diagnostic

namespace Diagnosed

variable {last : StepsEnd} {log : List (Exchange Call.Reply)} {diagnostic : Option String}

/-- A screenshot behind the steps is taken only if the last of them failed. -/
theorem calls (hdiagnosed : Diagnosed last log diagnostic) :
    log = [] ∨ last.status = .failed ∧ ∃ path reply, log = [⟨.screenshot path, reply⟩] := by
  cases hdiagnosed with
  | passed => exact .inl rfl
  | failed hcapture =>
      cases hcapture with
      | unprepared => exact .inl rfl
      | saved path => exact .inr ⟨rfl, path, _, rfl⟩
      | unsaved path _ => exact .inr ⟨rfl, path, _, rfl⟩

theorem path_iff (hdiagnosed : Diagnosed last log diagnostic) (path : String) :
    diagnostic = some path ↔ last.status = .failed ∧ log = [⟨.screenshot path, .ok ()⟩] := by
  cases hdiagnosed with
  | passed => exact iff_of_false nofun nofun
  | failed hcapture => exact (hcapture.artifact_iff path).trans (and_iff_right rfl).symm

theorem guarded (hdiagnosed : Diagnosed last log diagnostic) : Guarded log := by
  cases hdiagnosed with
  | passed => exact .nil
  | failed hcapture => exact hcapture.guarded

end Diagnosed

/-- A replay that is not interrupted is the course of its steps and the screenshot after it. -/
theorem replay_course (b : Browser σ) (directory : String) (steps : List Step)
    {s t : Surroundings σ} {ending : Ending}
    (hreplay : replay b directory steps s = (ending, t)) (hending : ending.interruption = none) :
    ∃ entries last diagnostic, Course 0 (plan directory s.gallery steps) entries last ∧
      entries.map (·.result) = ending.results ∧ last.status = ending.status ∧
      Diagnosed last diagnostic ending.diagnostic ∧
      Exchanged b (entries.flatMap (·.log) ++ diagnostic) s t := by
  rw [replay_apply] at hreplay
  rcases hperform : performAll b directory 0 steps s with ⟨⟨results, last⟩, u⟩
  rw [hperform] at hreplay
  cases last with
  | interrupted fault =>
      cases hreplay
      cases hending
  | passed =>
      cases hreplay
      obtain ⟨entries, hcourse, hresults, hlog⟩ :=
        performAll_course b directory 0 steps hperform nofun
      refine ⟨entries, _, [], hcourse, hresults, rfl, .passed, ?_⟩
      rwa [List.append_nil]
  | failed =>
      obtain ⟨entries, hcourse, hresults, hlog⟩ :=
        performAll_course b directory 0 steps hperform nofun
      obtain ⟨diagnostic, hcapture, hmore, _⟩ := capture_captured b directory .failure none u
      dsimp only at hreplay
      rcases hresult : capture b directory .failure none u with ⟨result, v⟩
      rw [hresult] at hreplay hcapture hmore
      cases result with
      | error fault =>
          cases hreplay
          cases hending
      | ok path =>
          cases hreplay
          exact ⟨entries, _, diagnostic, hcourse, hresults, rfl, .failed hcapture,
            hlog.append hmore⟩

/-- Closing a session is one call and nothing else. -/
theorem release_exchanged (b : Browser σ) (r : Run) (s : Surroundings σ) :
    ∃ closing, Exchanged b [⟨.close, closing⟩] s (release b r s).2 := by
  have hask := Exchanged.ask b .close s
  rw [release_apply]
  rcases hreply : ask b .close s with ⟨reply, t⟩
  rw [hreply] at hask
  refine ⟨reply, ?_⟩
  cases reply with
  | ok => exact hask
  | error fault =>
      dsimp only
      split
      next => exact hask
      next => exact hask.thenReports (reported_onlyReports _ _ t)

/-- A run that ends with an outcome closes its session, and the outcome is that of its ending. -/
theorem conclude_exchanged (b : Browser σ) (r : Run) (started : Moment) (ending : Ending)
    (s : Surroundings σ) {outcome : RunOutcome}
    (hresult : (conclude b r true started ending s).1.1 = .ok outcome) :
    ending.interruption = none ∧ outcome.status = ending.status ∧
      outcome.results = ending.results ∧ outcome.diagnostic = ending.diagnostic ∧
      ∃ closing, Exchanged b [⟨.close, closing⟩] s (conclude b r true started ending s).2 := by
  obtain ⟨closing, hrelease⟩ :=
    release_exchanged b { r with state := ending.state } (entered r ending.state s)
  have hclosing : Exchanged b [⟨.close, closing⟩] s _ := ⟨hrelease.events, hrelease.browser⟩
  rw [conclude_apply] at hresult ⊢
  simp only [↓reduceIte] at hresult ⊢
  rcases hreleased : release b { r with state := ending.state } (entered r ending.state s)
    with ⟨result, t⟩
  rw [hreleased] at hresult hclosing
  cases result with
  | error fault => cases hresult
  | ok =>
      dsimp only [Ending.result] at hresult
      split at hresult
      next => cases hresult
      next hnone =>
        cases hresult
        exact ⟨hnone, rfl, rfl, rfl, closing,
          hclosing.thenReports (concluded_onlyReports _ ending t)⟩

/-- A run that ends with an outcome after its session was given is explained by what it exchanged
with the session. -/
theorem execute_explained (b : Browser σ) (directory : String) {r : Run} (hidle : r.state = .idle)
    (s : Surroundings σ) (hgiven : (b.acquire s.browser).1 = .ok ()) {outcome : RunOutcome}
    (hresult : (r.execute b directory s).1.1 = .ok outcome) :
    ∃ account : Account,
      (r.execute b directory s).2.events = s.events ++ .requested :: .acquired ::
        account.log.map (fun exchange => .called exchange.call) ∧
      Exchanges b.answer (b.acquire s.browser).2 account.log
        (r.execute b directory s).2.browser ∧
      account.Explains (plan directory s.gallery r.test.steps) outcome := by
  obtain ⟨hacquired, hbrowser, hbegun⟩ := acquire_begun b r s
  have hevents := acquire_events b (begun r s)
  have hgallery : (acquire b (begun r s)).2.gallery = s.gallery := rfl
  rw [hbegun] at hevents
  rw [hgiven] at hacquired
  rw [execute_of_idle b directory hidle] at hresult ⊢
  rcases hacquire : acquire b (begun r s) with ⟨given, t⟩
  rw [hacquire] at hacquired hbrowser hevents hgallery hresult
  cases hacquired
  dsimp only at hbrowser hevents hgallery hresult ⊢
  rcases hreplay : replay b directory r.test.steps t with ⟨ending, u⟩
  rw [hreplay] at hresult
  obtain ⟨hnone, hstatus, hresults, hpath, closing, hclosing⟩ :=
    conclude_exchanged b _ _ ending u hresult
  obtain ⟨entries, last, diagnostic, hcourse, hentries, hlast, hdiagnosed, hlog⟩ :=
    replay_course b directory r.test.steps hreplay hnone
  have hall := hlog.append hclosing
  refine ⟨⟨entries, diagnostic, closing⟩, ?_, hbrowser ▸ hall.browser, ?_⟩
  · rw [hall.events, hevents, List.append_assoc]
    rfl
  · rw [hgallery] at hcourse
    refine ⟨hcourse.planned, hentries.trans hresults.symm, hcourse.fits, ?_, ?_, ?_, ?_⟩
    · rw [hstatus, ← hlast]
      exact hcourse.ordered
    · exact (hcourse.guarded.append hdiagnosed.guarded).append (.free rfl .nil)
    · rw [hstatus, ← hlast]
      exact hdiagnosed.calls
    · rw [hstatus, ← hlast, hpath]
      exact hdiagnosed.path_iff

/-- A browser none of whose replies is an interruption. -/
def Uninterrupted (b : Browser σ) : Prop :=
  ∀ call state fault, (b.answer call state).1 = .error fault → fault.isInterrupt = false

namespace Uninterrupted

variable {b : Browser σ}

theorem of_fault? (hb : Uninterrupted b) (call : Call) (state : σ) :
    ∀ fault ∈ b.fault? call state, fault.isInterrupt = false := by
  intro fault hfault
  unfold Browser.fault? at hfault
  split at hfault
  next => cases hfault
  next raised herror =>
    cases hfault
    exact hb call state fault herror

theorem of_faults (hb : Uninterrupted b) (calls : List Call) (state : σ) :
    ∀ fault ∈ b.faults calls state, fault.isInterrupt = false := by
  induction calls generalizing state with
  | nil => simp [Browser.faults]
  | cons call rest ih =>
      intro fault hfault
      rcases List.mem_append.mp hfault with hhere | hlater
      · exact hb.of_fault? call state fault (Option.mem_toList.mp hhere)
      · exact ih _ fault hlater

end Uninterrupted

/-- A run whose session is never interrupted ends with an outcome, and what it exchanged with the
session is the exchanges of its steps in order, the screenshot after a failure and the closing call.
Each step makes the calls that are planned for it until one of them breaks it. -/
theorem execute_accounted (b : Browser σ) (directory : String) (test : Test) (supply : Supply)
    (s : Surroundings σ) (hgiven : (b.acquire s.browser).1 = .ok ()) (hb : Uninterrupted b) :
    let done := (Run.ofTest test supply).1.execute b directory s
    ∃ (outcome : RunOutcome) (account : Account), done.1.1 = .ok outcome ∧
      done.2.events = s.events ++ .requested :: .acquired ::
        account.log.map (fun exchange => .called exchange.call) ∧
      Exchanges b.answer (b.acquire s.browser).2 account.log done.2.browser ∧
      account.Explains (plan directory s.gallery test.steps) outcome := by
  have hidle : (Run.ofTest test supply).1.state = .idle := rfl
  obtain ⟨calls, _, _, hended⟩ := execute_served b directory hidle s hgiven
  obtain ⟨outcome, _, hresult⟩ := hended (hb.of_fault? _ _)
  have hok := hresult (hb.of_faults _ _)
  obtain ⟨account, hexplained⟩ := execute_explained b directory hidle s hgiven hok
  exact ⟨outcome, account, hok, hexplained⟩

/-- A page on which every element is there and none can be clicked. -/
def coveredPage : Browser Unit where
  acquire state := (.ok (), state)
  answer
    | .count _, state => (.ok (1 : Int), state)
    | .click _, state => (.error ⟨.timeout, "Timeout 10000ms exceeded.", none⟩, state)
    | .readText _, state => (.ok "", state)
    | .navigate _, state | .typeText _ _, state | .screenshot _, state | .close, state =>
        (.ok (), state)

theorem inRange_morning : Moment.InRange 2024 2 1 9 0 0 0 none := by decide

/-- A test that opens a page, clicks a link and captures what it leads to. -/
def followLink : Test where
  id := "1"
  name := "Follow a link"
  steps := [⟨"Open", .navigate "https://a.example"⟩,
    ⟨"Follow", .click ⟨some .linkText, "Next", by decide⟩⟩, ⟨"Capture", .screenshot none⟩]
  tool := "playwright"
  platform := "javascript"
  created := ⟨2024, 2, 1, 9, 0, 0, 0, none, inRange_morning⟩

def freshSurroundings : Surroundings Unit where
  browser := ()
  gallery := ⟨⟨[], [], 0⟩, ⟨toString, Int.ofNat, followLink.created, 0, 0⟩, .empty⟩
  events := []
  reports := []

theorem coveredPage_uninterrupted : Uninterrupted coveredPage := by
  intro call state fault hreply
  cases call with
  | click target =>
      cases hreply
      rfl
  | _ => cases hreply

/-- On a page that is covered the test fails at its second step, and its calls are accounted for. -/
theorem execute_accounted_coveredPage :
    (coveredPage.acquire ()).1 = .ok () ∧ Uninterrupted coveredPage ∧
      let done := (Run.ofTest followLink freshSurroundings.gallery.supply).1.execute coveredPage
        "shots" freshSurroundings
      ∃ (outcome : RunOutcome) (account : Account), done.1.1 = .ok outcome ∧
        done.2.events = [.requested, .acquired] ++
          account.log.map (fun exchange => .called exchange.call) ∧
        Exchanges coveredPage.answer () account.log done.2.browser ∧
        account.Explains (plan "shots" freshSurroundings.gallery followLink.steps) outcome :=
  ⟨rfl, coveredPage_uninterrupted, execute_accounted coveredPage "shots" followLink
    freshSurroundings.gallery.supply freshSurroundings rfl coveredPage_uninterrupted⟩

end Clickpath.Run
