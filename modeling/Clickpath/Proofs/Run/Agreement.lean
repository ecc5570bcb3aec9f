import Mathlib.Data.List.Forall2
import Clickpath.Proofs.Driver.Page
import Clickpath.Proofs.Run.Account
import Clickpath.Proofs.Script.Deeds

/-! # Runs and scripts agree

A run on a page of the driver does what the scripts for Playwright say, in the same order and with
the same texts. Only a screenshot without a path is left out by a run, which does not fail for it.
-/

namespace Clickpath.Run

open Session Screenshot Script

variable {σ : Type}

/-- An exchange with the driver carries a deed out: it has the same texts and, for a text that is
expected, the page answered with one that holds it. -/
inductive Carries : Exchange Driver.Call.Reply → Deed → Prop
  | goto (url : String) : Carries ⟨.goto (some url), .ok ()⟩ (.goto url)
  | click (locator : String) : Carries ⟨.click locator, .ok ()⟩ (.click locator)
  | press (locator text : String) : Carries ⟨.press text locator, .ok ()⟩ (.press locator text)
  | expectText (locator : String) {expected found : String}
      (hfound : Text.contains found expected = true) :
      Carries ⟨.innerText locator, .ok found⟩ (.expectText locator expected)
  | screenshot (path : String) (reply : Except Fault Unit) :
      Carries ⟨.screenshot path, reply⟩ .screenshot

/-- A screenshot for which no path could be prepared. -/
def Planned.isUnprepared (planned : Planned) : Bool :=
  planned.step.kind == .screenshot && planned.path.isNone

/-- The deeds of planned steps, without the screenshots that have no path. -/
def prepared : List Planned → List Deed → List Deed
  | planned :: plan, deed :: deeds =>
    if planned.isUnprepared then prepared plan deeds else deed :: prepared plan deeds
  | _, _ => []

theorem prepared_eq_self {plan : List Planned}
    (hplan : ∀ planned ∈ plan, planned.isUnprepared = false)
    (deed : Planned → Deed) : prepared plan (plan.map deed) = plan.map deed := by
  induction plan with
  | nil => rfl
  | cons planned plan ih =>
      obtain ⟨hfirst, hrest⟩ := List.forall_mem_cons.mp hplan
      simp [prepared, hfirst, ih hrest]

/-! ## Steps -/

section

variable {action : Action} {log : List (Exchange Call.Reply)}
  {done : List (Exchange Driver.Call.Reply)} {call : Call}

theorem served_single (hcalls : log.map (·.call) = [call])
    (hsound : ∀ exchange ∈ log, ¬Breaks action exchange) (hserved : Driver.ServedAll log done) :
    ∃ reply, ¬Breaks action ⟨call, reply⟩ ∧ Driver.Served ⟨call, reply⟩ done := by
  obtain ⟨⟨_, reply⟩, rfl, rfl⟩ := List.map_eq_singleton_iff.mp hcalls
  cases hserved with
  | cons hfirst hnone =>
      cases hnone
      rw [List.append_nil]
      exact ⟨reply, hsound _ List.mem_cons_self, hfirst⟩

/-- Counting leaves the page to the call that follows. -/
theorem served_counted {target : Selector} (hcalls : log.map (·.call) = [.count target, call])
    (hsound : ∀ exchange ∈ log, ¬Breaks action exchange) (hserved : Driver.ServedAll log done) :
    ∃ reply, ¬Breaks action ⟨call, reply⟩ ∧ Driver.Served ⟨call, reply⟩ done := by
  obtain ⟨⟨_, count⟩, rest, rfl, rfl, hrest⟩ := List.map_eq_cons_iff.mp hcalls
  obtain ⟨hcount, hsound⟩ := List.forall_mem_cons.mp hsound
  cases hserved with
  | cons hfirst hsecond =>
      cases hfirst with
      | counted => exact served_single hrest hsound hsecond
      | raised fault => exact absurd (.raised _ fault) hcount

end

/-- A step that passed as it was planned did to the page what it says. -/
theorem carries_of_passed {entry : Entry} (hfits : entry.Fits)
    (hpassed : entry.result.status = .passed) {done : List (Exchange Driver.Call.Reply)}
    (hserved : Driver.ServedAll entry.log done) :
    List.Forall₂ Carries done
      (prepared [entry.planned] [entry.planned.step.action.deed]) := by
  have hcalls := hfits.passed hpassed
  have hiff := hfits.fails_iff
  rcases entry with ⟨⟨⟨name, action⟩, path⟩, result, log⟩
  have hsound (hkind : action.kind ≠ .screenshot) : ∀ exchange ∈ log, ¬Breaks action exchange := by
    intro exchange hmem hbreaks
    have hfailed := (hiff hkind).mpr ⟨exchange, hmem, hbreaks⟩
    rw [hpassed] at hfailed
    cases hfailed
  cases action with
  | navigate url =>
      obtain ⟨reply, hbreaks, hreply⟩ := served_single hcalls (hsound nofun) hserved
      cases hreply with
      | navigated => exact .cons (.goto url) .nil
      | raised fault => exact absurd (.raised _ fault) hbreaks
  | click target =>
      obtain ⟨reply, hbreaks, hreply⟩ := served_counted hcalls (hsound nofun) hserved
      cases hreply with
      | clicked => exact .cons (.click target.native) .nil
      | raised fault => exact absurd (.raised _ fault) hbreaks
  | typeText target text =>
      obtain ⟨reply, hbreaks, hreply⟩ := served_counted hcalls (hsound nofun) hserved
      cases hreply with
      | typed => exact .cons (.press target.native text) .nil
      | raised fault => exact absurd (.raised _ fault) hbreaks
  | assertText target expected =>
      obtain ⟨reply, hbreaks, hreply⟩ := served_counted hcalls (hsound nofun) hserved
      cases hreply with
      | found _ found =>
          rw [breaks_readText_iff, Bool.not_eq_false] at hbreaks
          exact .cons (.expectText target.native hbreaks) .nil
      | raised fault => exact absurd (.raised _ fault) hbreaks
  | screenshot file =>
      cases path with
      | none =>
          obtain rfl := List.map_eq_nil_iff.mp hcalls
          cases hserved
          exact .nil
      | some path =>
          obtain ⟨⟨_, reply⟩, rfl, rfl⟩ := List.map_eq_singleton_iff.mp hcalls
          cases hserved with
          | cons hfirst hnone =>
              cases hnone
              cases hfirst with
              | captured => exact .cons (.screenshot path reply) .nil
              | raised _ _ hcapture _ => exact absurd rfl (hcapture path)

/-! ## Runs -/

theorem prepared_cons (planned : Planned) (plan : List Planned) (deed : Deed) (deeds : List Deed) :
    prepared (planned :: plan) (deed :: deeds) =
      prepared [planned] [deed] ++ prepared plan deeds := by
  simp only [prepared]
  split <;> rfl

/-- If all steps passed, the page was asked for the deeds of all of them but the captures that have
no path. -/
theorem carries_of_all_passed {entries : List Entry} (hfits : ∀ entry ∈ entries, entry.Fits)
    (hpassed : ∀ entry ∈ entries, entry.result.status = .passed)
    {done : List (Exchange Driver.Call.Reply)}
    (hserved : Driver.ServedAll (entries.flatMap (·.log)) done) :
    List.Forall₂ Carries done (prepared (entries.map (·.planned))
      (entries.map (·.planned.step.action.deed))) := by
  induction entries generalizing done with
  | nil =>
      cases hserved
      exact .nil
  | cons entry rest ih =>
      obtain ⟨hfit, hfits⟩ := List.forall_mem_cons.mp hfits
      obtain ⟨hpass, hpassed⟩ := List.forall_mem_cons.mp hpassed
      obtain ⟨before, behind, rfl, hbefore, hbehind⟩ := hserved.split
      rw [List.map_cons, List.map_cons, prepared_cons]
      exact List.rel_append (carries_of_passed hfit hpass hbefore) (ih hfits hpassed hbehind)

/-- In the account of a run that passed, all steps passed and nothing follows them but the end. -/
theorem Account.Explains.of_passed {account : Account} {plan : List Planned} {outcome : RunOutcome}
    (hexplains : account.Explains plan outcome) (hpassed : outcome.status = .passed) :
    (∀ entry ∈ account.entries, entry.result.status = .passed) ∧ account.diagnostic = [] := by
  constructor
  · obtain ⟨before, hbefore, ⟨_, hentries⟩ | ⟨hfailed, _⟩⟩ := hexplains.ordered
    · rwa [hentries]
    · rw [hpassed] at hfailed
      cases hfailed
  · rcases hexplains.diagnosed with hnone | ⟨hfailed, _⟩
    · exact hnone
    · rw [hpassed] at hfailed
      cases hfailed

/-- A run ends with the status of its steps, whatever becomes of its session. -/
theorem conclude_status (b : Browser σ) (r : Run) (acquired : Bool) (started : Moment)
    (ending : Ending) (s : Surroundings σ) {outcome : RunOutcome}
    (hresult : (conclude b r acquired started ending s).1.1 = .ok outcome) :
    outcome.status = ending.status := by
  rw [conclude_apply] at hresult
  dsimp only at hresult
  generalize (if acquired = true then _ else _ : Act (Surroundings σ) Unit) _ = released at hresult
  rcases released with ⟨result, t⟩
  cases result with
  | error fault => cases hresult
  | ok =>
      dsimp only [Ending.result] at hresult
      split at hresult
      next => cases hresult
      next =>
        cases hresult
        rfl

/-- A run that passed had a session. -/
theorem acquired_of_passed (b : Browser σ) (directory : String) {r : Run} (hidle : r.state = .idle)
    (s : Surroundings σ) {outcome : RunOutcome}
    (hresult : (r.execute b directory s).1.1 = .ok outcome) (hpassed : outcome.status = .passed) :
    (b.acquire s.browser).1 = .ok () := by
  obtain ⟨hacquired, _⟩ := acquire_begun b r s
  rw [← hacquired]
  rw [execute_of_idle b directory hidle] at hresult
  rcases hacquire : acquire b (begun r s) with ⟨given, t⟩
  rw [hacquire] at hresult
  cases given with
  | ok => rfl
  | error fault =>
      dsimp only at hresult
      split at hresult
      next =>
        rw [conclude_status _ _ _ _ _ _ hresult] at hpassed
        cases hpassed
      next =>
        rw [conclude_status _ _ _ _ _ _ hresult] at hpassed
        cases hpassed

/-- What the calls of a run that passed did to the page is what was planned. -/
theorem Account.Explains.carries {account : Account} {planned : List Planned}
    {outcome : RunOutcome} (hexplains : account.Explains planned outcome)
    (hpassed : outcome.status = .passed) {done : List (Exchange Driver.Call.Reply)}
    (hserved : Driver.ServedAll account.log done) :
    List.Forall₂ Carries done (prepared planned (planned.map (·.step.action.deed))) := by
  obtain ⟨hall, hnone⟩ := hexplains.of_passed hpassed
  rw [Account.log, hnone, List.append_nil] at hserved
  obtain ⟨before, behind, rfl, hbefore, hbehind⟩ := hserved.split
  have hsteps : account.entries.map (·.planned.step.action.deed) =
      planned.map (·.step.action.deed) := by
    rw [← hexplains.planned]
    simp [Function.comp_def]
  have hcarries := carries_of_all_passed hexplains.fits hall hbefore
  rw [hexplains.planned, hsteps] at hcarries
  rwa [Driver.nothing_of_close hbehind, List.append_nil]

/-- What a run that passed did to the page, in order, is what both scripts for Playwright are read
to do, but for screenshots whose path could not be prepared. If there are none, it is all of it. -/
theorem passed_carries_scripts (d : Driver σ) (o : Driver.Options) (directory : String)
    (test : Test) (supply : Supply) (s : Surroundings (Driver.Client σ)) (outcome : RunOutcome)
    (hresult : ((Run.ofTest test supply).1.execute (Driver.sessions d o) directory s).1.1 =
      .ok outcome)
    (hpassed : outcome.status = .passed) :
    ∃ log deeds,
      Driver.Exchanged d log s.browser
        ((Run.ofTest test supply).1.execute (Driver.sessions d o) directory s).2.browser ∧
      Idiom.javaScript.read?
        (Catalog.standard.compile test (some "playwright") (some "javascript")) = some deeds ∧
      Idiom.python.read?
        (Catalog.standard.compile test (some "playwright") (some "python")) = some deeds ∧
      List.Forall₂ Carries (Driver.onPage log)
        (prepared (plan directory s.gallery test.steps) deeds) ∧
      ((∀ planned ∈ plan directory s.gallery test.steps, planned.isUnprepared = false) →
        List.Forall₂ Carries (Driver.onPage log) deeds) := by
  have hidle : (Run.ofTest test supply).1.state = .idle := rfl
  have hgiven := acquired_of_passed _ directory hidle s hresult hpassed
  obtain ⟨account, _, hexchanges, hexplains⟩ :=
    execute_explained _ directory hidle s hgiven hresult
  change account.Explains (plan directory s.gallery test.steps) outcome at hexplains
  obtain ⟨opening, hopening, hquiet⟩ := Driver.Page.acquire_leavesPage d o s.browser
  obtain ⟨done, hserved, log, hlog, rfl⟩ := Driver.exchanges_served hexchanges
  obtain ⟨hjavaScript, hpython⟩ := read?_compile test
  have hwhole : Driver.onPage (opening ++ log) = Driver.onPage log := by
    rw [Driver.onPage, List.filter_append, ← Driver.onPage, hquiet]
    rfl
  have hdeeds : test.steps.map (·.action.deed) =
      (plan directory s.gallery test.steps).map (·.step.action.deed) := by
    conv_lhs => rw [← plan_steps directory s.gallery test.steps]
    simp [Function.comp_def]
  have hcarries := hexplains.carries hpassed hserved
  rw [hdeeds] at hjavaScript hpython
  refine ⟨opening ++ log, _, hopening.append hlog, hjavaScript, hpython, ?_, fun hplan => ?_⟩
  · rwa [hwhole]
  · rw [prepared_eq_self hplan] at hcarries
    rwa [hwhole]

/-- A driver that does whatever it is told, to a page on which every text is the same. -/
def obedientDriver : Driver Unit where
  answer
    | .count _, state => (.ok (1 : Int), state)
    | .innerText _, state => (.ok "Welcome", state)
    | .query _, state => (.ok true, state)
    | .address, state => (.ok "https://a.example", state)
    | .describe, state => (.ok .null, state)
    | .start, state | .find _, state | .launch _ _, state | .newContext, state
    | .newPage, state | .setTimeout _, state | .goto _, state | .locate _, state
    | .waitFor _, state | .click _, state | .press _ _, state | .screenshot _, state
    | .dispose, state | .closeBrowser, state | .stop, state => (.ok (), state)

def headlessOptions : Driver.Options := ⟨"chromium", true, 10000⟩

/-- Surroundings with one entry on the disk, where the directory of screenshots is to be. -/
def surroundingsWith (shots : DiskEntry) : Surroundings (Driver.Client Unit) where
  browser := ⟨(), []⟩
  gallery := ⟨⟨[(["shots"], shots)], [], 0⟩, freshSurroundings.gallery.supply, .empty⟩
  events := []
  reports := []

theorem exists_of_status {result : Except Fault RunOutcome} {status : RunStatus}
    (hstatus : result.toOption.map (·.status) = some status) :
    ∃ outcome, result = .ok outcome ∧ outcome.status = status := by
  cases result with
  | error fault => cases hstatus
  | ok outcome => exact ⟨outcome, rfl, Option.some.inj hstatus⟩

/-- A driver that does what it is told is told what both scripts of the test tell. -/
theorem passed_carries_scripts_followLink :
    let s := surroundingsWith .directory
    let done := (Run.ofTest followLink s.gallery.supply).1.execute
      (Driver.sessions obedientDriver headlessOptions) "shots" s
    ∃ outcome, done.1.1 = .ok outcome ∧ outcome.status = .passed ∧ ∃ log deeds,
      Driver.Exchanged obedientDriver log s.browser done.2.browser ∧
      Idiom.javaScript.read?
        (Catalog.standard.compile followLink (some "playwright") (some "javascript")) =
          some deeds ∧
      Idiom.python.read?
        (Catalog.standard.compile followLink (some "playwright") (some "python")) = some deeds ∧
      List.Forall₂ Carries (Driver.onPage log)
        (prepared (plan "shots" s.gallery followLink.steps) deeds) ∧
      ((∀ planned ∈ plan "shots" s.gallery followLink.steps, planned.isUnprepared = false) →
        List.Forall₂ Carries (Driver.onPage log) deeds) := by
  have hrun : ((Run.ofTest followLink (surroundingsWith .directory).gallery.supply).1.execute
      (Driver.sessions obedientDriver headlessOptions) "shots"
      (surroundingsWith .directory)).1.1.toOption.map (·.status) = some .passed := by
    decide +kernel
  obtain ⟨outcome, hresult, hpassed⟩ := exists_of_status hrun
  exact ⟨outcome, hresult, hpassed, passed_carries_scripts obedientDriver headlessOptions "shots"
    followLink _ (surroundingsWith .directory) outcome hresult hpassed⟩

/-- A test that only captures the page. -/
def captureOnly : Test :=
  { followLink with steps := [⟨"Capture", .screenshot (some "a.png")⟩] }

/-- With a file in the place of the directory, a run passes without the screenshot of its script. -/
theorem screenshot_left_out :
    let s := surroundingsWith (.file ⟨.text "", 0⟩)
    let done := (Run.ofTest captureOnly s.gallery.supply).1.execute
      (Driver.sessions obedientDriver headlessOptions) "shots" s
    (∃ outcome, done.1.1 = .ok outcome ∧ outcome.status = .passed) ∧
      done.2.browser.calls.filter Driver.Call.isOnPage = [] ∧
      Idiom.javaScript.read? (Catalog.standard.compile captureOnly (some "playwright")
        (some "javascript")) = some [.screenshot] ∧
      Idiom.python.read? (Catalog.standard.compile captureOnly (some "playwright")
        (some "python")) = some [.screenshot] :=
  ⟨⟨_, rfl, rfl⟩, rfl, read?_compile captureOnly⟩

end Clickpath.Run
