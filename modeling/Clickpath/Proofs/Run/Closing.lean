import Clickpath.Proofs.Run.Stages

/-! # Sessions are closed once

A run asks for one session. Whatever happens while it has one, and whichever fault ends the steps,
the session is closed once and not called again. A run that is over stays as it is, and whoever asks
for it again is refused before a session is.
-/

namespace Clickpath.Run

open Session Screenshot

variable {σ : Type}

/-- A capture leaves the session open, and only an interruption of its call goes on. -/
theorem capture_keepsOpen (b : Browser σ) (directory : String) (occasion : Occasion)
    (file : Option String) : KeepsOpen b (capture b directory occasion file) := by
  unfold capture
  apply (KeepsOpen.choosePath directory occasion.label file).bind
  intro chosen
  cases chosen with
  | error _ => exact (KeepsOpen.tell _ _).bind fun _ => .pure none
  | ok path =>
      apply (KeepsOpen.ask (by simp)).recover
      · intro _
        exact (KeepsOpen.tell _ _).bind fun _ => .pure (some path)
      · intro fault hfault
        dsimp only
        rw [hfault]
        exact (KeepsOpen.tell _ _).bind fun _ => .pure none
      · intro fault hfault
        dsimp only
        rw [hfault]
        rfl

theorem resolve_keepsOpen (b : Browser σ) (index : Nat) (target : Selector) :
    KeepsOpen b (resolve b index target) := by
  unfold resolve
  apply (KeepsOpen.ask (by simp)).bind
  intro count
  split
  next => exact .throw rfl
  next => exact .pure ()

theorem expect_keepsOpen (b : Browser σ) (index : Nat) (target : Selector)
    (expected found : String) :
    KeepsOpen b (expect index target expected found) := by
  unfold expect
  split
  next => exact .throw rfl
  next => exact .pure ()

/-- No step closes the session that it is performed on. -/
theorem perform_keepsOpen (b : Browser σ) (directory : String) (index : Nat) (step : Step) :
    KeepsOpen b (perform b directory index step) := by
  unfold perform
  cases step.action with
  | navigate url => exact (KeepsOpen.ask (by simp)).bind fun _ => .pure none
  | click target =>
      apply (resolve_keepsOpen b index target).bind
      intro _
      exact (KeepsOpen.ask (by simp)).bind fun _ => .pure none
  | typeText target text =>
      apply (resolve_keepsOpen b index target).bind
      intro _
      exact (KeepsOpen.ask (by simp)).bind fun _ => .pure none
  | assertText target expected =>
      apply (resolve_keepsOpen b index target).bind
      intro _
      apply (KeepsOpen.ask (by simp)).bind
      intro found
      exact (expect_keepsOpen b index target _ found).bind fun _ => .pure none
  | screenshot file => exact capture_keepsOpen b directory .step _

/-- The fault by which the performance of steps was interrupted. -/
def StepsEnd.interruption? : StepsEnd → Option Fault
  | interrupted fault => some fault
  | _ => none

/-- Performing steps leaves the session open, whatever becomes of them. They are interrupted only
when one of their calls is. -/
theorem performAll_staysOpen (b : Browser σ) (directory : String) (index : Nat)
    (steps : List Step) (s : Surroundings σ) :
    StaysOpen b s (performAll b directory index steps s).2
      (fun fault => (performAll b directory index steps s).1.2.interruption? = some fault) := by
  -- The steps that follow are performed on the surroundings that this one leaves.
  induction steps generalizing index s with
  | nil => exact .silent rfl rfl fun _ hraised => nomatch hraised
  | cons step rest ih =>
      have hreached : StaysOpen b s (reached step s) fun _ => False :=
        (reported_onlyReports _ _ s).staysOpen
      have hstep := hreached.followed (perform_keepsOpen b directory index step (reached step s))
      rw [performAll_cons]
      rcases hperform : perform b directory index step (reached step s) with ⟨result, t⟩
      rw [hperform] at hstep
      cases result with
      | ok artifact => exact hstep.followed (ih (index + 1) t)
      | error fault =>
          dsimp only
          split
          next hinterrupt =>
            apply hstep.mono
            intro raised hraised
            cases hraised
            exact ⟨rfl, hinterrupt⟩
          next =>
            have hreport := (failureReported_onlyReports index fault t).staysOpen (b := b)
            exact (hstep.followed hreport).mono fun _ hraised => nomatch hraised

/-- A replay leaves the session open, and is interrupted only when one of its calls is. -/
theorem replay_staysOpen (b : Browser σ) (directory : String) (steps : List Step)
    (s : Surroundings σ) :
    StaysOpen b s (replay b directory steps s).2
      (fun fault => (replay b directory steps s).1.interruption = some fault) := by
  have hsteps := performAll_staysOpen b directory 0 steps s
  rw [replay_apply]
  rcases hperform : performAll b directory 0 steps s with ⟨⟨results, ending⟩, t⟩
  rw [hperform] at hsteps
  cases ending with
  | passed => exact hsteps.mono fun _ hraised => nomatch hraised
  | interrupted fault => exact hsteps
  | failed =>
      have hcapture := hsteps.followed (capture_keepsOpen b directory .failure none t)
      rcases hresult : capture b directory .failure none t with ⟨result, u⟩
      rw [hresult] at hcapture
      dsimp only
      rw [hresult]
      cases result with
      | ok diagnostic => exact hcapture.mono fun _ hraised => nomatch hraised
      | error fault =>
          apply hcapture.mono
          intro raised hraised
          cases hraised
          exact ⟨rfl, capture_error_isInterrupt hresult⟩

/-! ## The end of a run -/

/-- Releasing a session makes one call, which closes it. -/
theorem release_conversation (b : Browser σ) (r : Run) (s : Surroundings σ) :
    Conversation b [.close] s (release b r s).2 := by
  have hask := ask_conversation b .close s
  rw [release_apply]
  rcases hreply : ask b .close s with ⟨reply, t⟩
  rw [hreply] at hask
  cases reply with
  | ok => exact hask
  | error fault =>
      dsimp only
      split
      next => exact hask
      next => exact hask.append ((reported_onlyReports _ _ t).conversation b)

/-- Only an interruption of the call that closes the session is a fault of releasing it. -/
theorem release_fault {b : Browser σ} {r : Run} {s t : Surroundings σ} {fault : Fault}
    (herror : release b r s = (.error fault, t)) :
    b.fault? .close s.browser = some fault ∧ fault.isInterrupt = true := by
  rw [release_apply] at herror
  rcases hreply : ask b .close s with ⟨reply, u⟩
  rw [hreply] at herror
  have hresult := ask_result b .close s
  rw [hreply] at hresult
  cases reply with
  | ok => cases herror
  | error raised =>
      dsimp only at herror
      split at herror
      next hinterrupt =>
        cases herror
        exact ⟨Browser.fault?_of_error hresult.symm, hinterrupt⟩
      next => cases herror

/-- The end of a run with a session makes the one call that closes it. -/
theorem conclude_conversation (b : Browser σ) (r : Run) (started : Moment) (ending : Ending)
    (s : Surroundings σ) :
    Conversation b [.close] s (conclude b r true started ending s).2 := by
  have hentered := entered_onlyReports r ending.state s
  have hrelease := (hentered.conversation b).append
    (release_conversation b { r with state := ending.state } (entered r ending.state s))
  rw [conclude_apply]
  simp only [↓reduceIte]
  rcases hreleased : release b { r with state := ending.state } (entered r ending.state s)
    with ⟨result, t⟩
  rw [hreleased] at hrelease
  cases result with
  | ok => exact hrelease.append ((concluded_onlyReports _ ending t).conversation b)
  | error fault => exact hrelease

/-- Unless the call that closes the session is interrupted, a run ends closed, with an outcome that
is its result if nothing else interrupted it. -/
theorem conclude_closed (b : Browser σ) (r : Run) (started : Moment) (ending : Ending)
    (s : Surroundings σ)
    (hclose : ∀ fault ∈ b.fault? .close s.browser, fault.isInterrupt = false) :
    ∃ outcome, (conclude b r true started ending s).1 =
      (ending.result outcome, { r with state := .closed, outcome := some outcome }) := by
  rw [conclude_apply]
  simp only [↓reduceIte]
  rcases hreleased : release b { r with state := ending.state } (entered r ending.state s)
    with ⟨result, t⟩
  cases result with
  | ok => exact ⟨ending.outcome r started t, rfl⟩
  | error fault =>
      obtain ⟨hfault, hinterrupt⟩ := release_fault hreleased
      have hnot := hclose fault hfault
      rw [hinterrupt] at hnot
      exact absurd hnot.symm Bool.false_ne_true

/-- A run that was refused a session ends closed, with an outcome, and makes no call. -/
theorem conclude_refused (b : Browser σ) (r : Run) (started : Moment) (ending : Ending)
    (s : Surroundings σ) :
    OnlyReports s (conclude b r false started ending s).2 ∧
      ∃ outcome, (conclude b r false started ending s).1 =
        (ending.result outcome, { r with state := .closed, outcome := some outcome }) := by
  have hentered := entered_onlyReports r ending.state s
  rw [conclude_apply]
  exact ⟨hentered.trans (concluded_onlyReports _ ending _), _, rfl⟩

/-- A run that was concluded cannot be executed again, not even when it could not be closed. -/
theorem conclude_state_ne_idle (b : Browser σ) (r : Run) (acquired : Bool) (started : Moment)
    (ending : Ending) (s : Surroundings σ) :
    (conclude b r acquired started ending s).1.2.state ≠ .idle := by
  rw [conclude_apply]
  rcases hreleased : (if acquired = true then release b { r with state := ending.state }
    else pure ()) (entered r ending.state s) with ⟨result, t⟩
  dsimp only
  rw [hreleased]
  cases result with
  | ok => exact RunState.noConfusion
  | error fault =>
      dsimp only [Ending.state]
      split <;> exact RunState.noConfusion

/-! ## Execution -/

/-- What an execution does with a browser: it asks for a session, and is refused one, or it makes
calls and closes the session at the end. The faults are all that the browser raised meanwhile, and
the last one is that of the closing call. -/
inductive Visit (b : Browser σ) (start : σ) : List Event → List Fault → Option Fault → Prop where
  | refused {fault : Fault} (hacquire : (b.acquire start).1 = .error fault) :
      Visit b start [.requested] [fault] none
  | served {calls : List Call} (hacquire : (b.acquire start).1 = .ok ())
      (hclose : Call.close ∉ calls) :
      Visit b start (.requested :: .acquired :: (calls ++ [Call.close]).map .called)
        (b.faults (calls ++ [Call.close]) (b.acquire start).2)
        (b.fault? .close (b.after calls (b.acquire start).2))

/-- The fault of the closing call is among those that were raised. -/
theorem Visit.closing_subset {b : Browser σ} {start : σ} {events : List Event}
    {raised : List Fault} {closing : Option Fault} (hvisit : Visit b start events raised closing)
    {fault : Fault} (hfault : fault ∈ closing) : fault ∈ raised := by
  cases hvisit with
  | refused _ => cases hfault
  | served _ _ =>
      rw [Browser.faults_append]
      apply List.mem_append_right
      exact List.mem_append_left _ (Option.mem_toList.mpr hfault)

/-- A run that was executed is never idle again. -/
theorem execute_state_ne_idle (b : Browser σ) (directory : String) (r : Run)
    (s : Surroundings σ) : (r.execute b directory s).1.2.state ≠ .idle := by
  by_cases hidle : r.state = .idle
  · rw [execute_of_idle b directory hidle]
    dsimp only
    split
    next => exact conclude_state_ne_idle _ _ _ _ _ _
    next =>
      split
      next => exact conclude_state_ne_idle _ _ _ _ _ _
      next => exact conclude_state_ne_idle _ _ _ _ _ _
  · rw [execute_of_not_idle b directory hidle]
    exact hidle

theorem acquire_events (b : Browser σ) (s : Surroundings σ) :
    (acquire b s).2.events = s.events ++ (match (acquire b s).1 with
      | .ok () => [.requested, .acquired]
      | .error _ => [.requested]) := by
  dsimp only [acquire]
  cases (b.acquire s.browser).1 <;> rfl

/-- The browser answers a starting run as it would answer at once. -/
theorem acquire_begun (b : Browser σ) (r : Run) (s : Surroundings σ) :
    (acquire b (begun r s)).1 = (b.acquire s.browser).1 ∧
      (acquire b (begun r s)).2.browser = (b.acquire s.browser).2 ∧
      (begun r s).events = s.events := by
  obtain ⟨more, hmore⟩ := begun_onlyReports r s
  rw [hmore]
  exact ⟨rfl, rfl, rfl⟩

/-- Without a session a run only reports. It ends closed, and an interruption goes on. -/
theorem execute_withoutSession (b : Browser σ) (directory : String) {r : Run}
    (hidle : r.state = .idle) (s : Surroundings σ) {fault : Fault}
    (hfault : (b.acquire s.browser).1 = .error fault) :
    OnlyReports (acquire b (begun r s)).2 (r.execute b directory s).2 ∧
      ∃ outcome, (r.execute b directory s).1.2 =
        { r with state := .closed, outcome := some outcome } ∧
      (fault.isInterrupt = false → (r.execute b directory s).1.1 = .ok outcome) := by
  obtain ⟨hresult, -, -⟩ := acquire_begun b r s
  have hexecute := execute_of_idle b directory hidle s
  rw [hfault] at hresult
  rcases hacquire : acquire b (begun r s) with ⟨given, t⟩
  rw [hacquire] at hresult hexecute
  cases hresult
  dsimp only at hexecute
  rw [hexecute]
  cases hinterrupt : fault.isInterrupt with
  | true =>
      obtain ⟨hreports, outcome, hdone⟩ := conclude_refused b { r with state := .running }
        s.gallery.supply.now ⟨.failed, [], none, some fault⟩ t
      rw [if_pos rfl, hdone]
      exact ⟨hreports, outcome, rfl, fun hnot => nomatch hnot⟩
  | false =>
      obtain ⟨hreports, outcome, hdone⟩ := conclude_refused b { r with state := .running }
        s.gallery.supply.now ⟨.failed, [], none, none⟩
        (reported .error ("Run " ++ r.id ++ " could not acquire a browser session") t)
      rw [if_neg Bool.false_ne_true, hdone]
      exact ⟨(reported_onlyReports _ _ t).trans hreports, outcome, rfl, fun _ => rfl⟩

/-- Without a session a run makes no call. It ends closed, and an interruption goes on. -/
theorem execute_refused (b : Browser σ) (directory : String) {r : Run} (hidle : r.state = .idle)
    (s : Surroundings σ) {fault : Fault} (hfault : (b.acquire s.browser).1 = .error fault) :
    (r.execute b directory s).2.events = s.events ++ [.requested] ∧
      ∃ outcome, (r.execute b directory s).1.2 =
        { r with state := .closed, outcome := some outcome } ∧
      (fault.isInterrupt = false → (r.execute b directory s).1.1 = .ok outcome) := by
  obtain ⟨hreports, hdone⟩ := execute_withoutSession b directory hidle s hfault
  obtain ⟨hresult, -, hbegun⟩ := acquire_begun b r s
  rw [hreports.events, acquire_events, hresult, hfault, hbegun]
  exact ⟨rfl, hdone⟩

/-- With a session a run replays its steps, which leaves the session open, and concludes. -/
theorem execute_concludes (b : Browser σ) (directory : String) {r : Run} (hidle : r.state = .idle)
    (s : Surroundings σ) (hgiven : (b.acquire s.browser).1 = .ok ()) :
    ∃ calls ending t, Call.close ∉ calls ∧
      r.execute b directory s =
        conclude b { r with state := .running } true s.gallery.supply.now ending t ∧
      t.events = s.events ++ .requested :: .acquired :: calls.map .called ∧
      t.browser = b.after calls (b.acquire s.browser).2 ∧
      ∀ fault, ending.interruption = some fault →
        fault ∈ b.faults calls (b.acquire s.browser).2 ∧ fault.isInterrupt = true := by
  obtain ⟨hresult, hbrowser, hbegun⟩ := acquire_begun b r s
  have hevents := acquire_events b (begun r s)
  have hexecute := execute_of_idle b directory hidle s
  rw [hbegun] at hevents
  rw [hgiven] at hresult
  rcases hacquire : acquire b (begun r s) with ⟨given, t⟩
  rw [hacquire] at hresult hbrowser hevents hexecute
  cases hresult
  dsimp only at hbrowser hevents hexecute
  obtain ⟨calls, hopen, htalk, hraised⟩ := replay_staysOpen b directory r.test.steps t
  rcases hreplay : replay b directory r.test.steps t with ⟨ending, u⟩
  rw [hreplay] at htalk hraised hexecute
  rw [hbrowser] at hraised
  refine ⟨calls, ending, u, hopen, hexecute, ?_, ?_, hraised⟩
  · rw [htalk.events, hevents, List.append_assoc]
    rfl
  · rw [htalk.browser, hbrowser]

/-- With a session a run makes calls, the last of which closes it. The run ends closed unless that
call is interrupted, and has its outcome as its result unless any call is. -/
theorem execute_served (b : Browser σ) (directory : String) {r : Run} (hidle : r.state = .idle)
    (s : Surroundings σ) (hgiven : (b.acquire s.browser).1 = .ok ()) :
    ∃ calls, Call.close ∉ calls ∧
      (r.execute b directory s).2.events =
        s.events ++ .requested :: .acquired :: (calls ++ [.close]).map .called ∧
      ((∀ fault ∈ b.fault? .close (b.after calls (b.acquire s.browser).2),
          fault.isInterrupt = false) →
        ∃ outcome, (r.execute b directory s).1.2 =
          { r with state := .closed, outcome := some outcome } ∧
        ((∀ fault ∈ b.faults calls (b.acquire s.browser).2, fault.isInterrupt = false) →
          (r.execute b directory s).1.1 = .ok outcome)) := by
  obtain ⟨calls, ending, t, hopen, hexecute, hevents, hbrowser, hraised⟩ :=
    execute_concludes b directory hidle s hgiven
  have hclosing := conclude_conversation b { r with state := .running } s.gallery.supply.now
    ending t
  rw [hexecute]
  refine ⟨calls, hopen, ?_, ?_⟩
  · rw [hclosing.events, hevents, List.append_assoc, List.map_append]
    rfl
  · intro hclose
    rw [← hbrowser] at hclose
    obtain ⟨outcome, hdone⟩ := conclude_closed b { r with state := .running }
      s.gallery.supply.now ending t hclose
    rw [hdone]
    refine ⟨outcome, rfl, ?_⟩
    intro hcalls
    -- An interruption of the steps would be that of a call, and none of the calls is interrupted.
    cases hinterruption : ending.interruption with
    | none => rw [Ending.result, hinterruption]
    | some fault =>
        obtain ⟨hfault, hinterrupt⟩ := hraised fault hinterruption
        rw [hcalls fault hfault] at hinterrupt
        exact absurd hinterrupt Bool.false_ne_true

/-- Whatever a browser answers, the first execution of a run asks it for a session once, and a
session that is given is closed by its last call and by no other. Unless that call is interrupted
the run ends closed with an outcome, and that is the result when nothing is interrupted. From then
on the run refuses to be executed, without a call and without a change. -/
theorem execute_once (b : Browser σ) (directory : String) (test : Test) (supply : Supply)
    (s : Surroundings σ) :
    let done := (Run.ofTest test supply).1.execute b directory s
    ∃ events raised closing, Visit b s.browser events raised closing ∧
      done.2.events = s.events ++ events ∧
      ((∀ fault ∈ closing, fault.isInterrupt = false) →
        done.1.2.state = .closed ∧ done.1.2.outcome.isSome) ∧
      ((∀ fault ∈ raised, fault.isInterrupt = false) →
        ∃ outcome, done.1.1 = .ok outcome ∧ done.1.2.outcome = some outcome) ∧
      ∀ later, done.1.2.alreadyExecuted.kind = .other "RuntimeError" ∧
        done.1.2.execute b directory later =
          ((.error done.1.2.alreadyExecuted, done.1.2), later) := by
  -- That the run is idle is all that matters of it here.
  have hidle : (Run.ofTest test supply).1.state = .idle := rfl
  generalize (Run.ofTest test supply).1 = r at hidle
  have hlater := execute_of_not_idle b directory (execute_state_ne_idle b directory r s)
  cases hacquire : (b.acquire s.browser).1 with
  | error fault =>
      obtain ⟨hevents, outcome, hrun, hresult⟩ := execute_refused b directory hidle s hacquire
      refine ⟨_, _, _, .refused hacquire, hevents, ?_, ?_, fun later => ⟨rfl, hlater later⟩⟩
      · intro _
        rw [hrun]
        exact ⟨rfl, rfl⟩
      · intro hraised
        exact ⟨outcome, hresult (hraised fault List.mem_cons_self), by rw [hrun]⟩
  | ok =>
      obtain ⟨calls, hopen, hevents, hended⟩ := execute_served b directory hidle s hacquire
      have hvisit : Visit b s.browser _ _ _ := .served hacquire hopen
      refine ⟨_, _, _, hvisit, hevents, ?_, ?_, fun later => ⟨rfl, hlater later⟩⟩
      · intro hclosing
        obtain ⟨outcome, hrun, _⟩ := hended hclosing
        rw [hrun]
        exact ⟨rfl, rfl⟩
      · intro hraised
        have hclosing := fun fault hfault => hraised fault (hvisit.closing_subset hfault)
        obtain ⟨outcome, hrun, hresult⟩ := hended hclosing
        refine ⟨outcome, hresult ?_, by rw [hrun]⟩
        intro fault hfault
        apply hraised
        rw [Browser.faults_append]
        exact List.mem_append_left _ hfault

end Clickpath.Run
