import Clickpath.Proofs.Run.Account

/-! # Screenshots decide nothing

Two runs of one test are compared whose sessions answer alike but for screenshots. Step by step they
ask their sessions for the same, screenshots apart, so they come to the same verdict, wherever
screenshots are to be put, whatever names are taken, and whether or not they can be made.
-/

namespace Clickpath

open Session

variable {σ τ : Type}

/-! ## All but screenshots -/

def Session.Call.isScreenshot : Call → Bool
  | screenshot _ => true
  | _ => false

def Session.otherCalls (calls : List Call) : List Call := calls.filter (!·.isScreenshot)

theorem Session.otherCalls_append (calls more : List Call) :
    otherCalls (calls ++ more) = otherCalls calls ++ otherCalls more :=
  List.filter_append calls more

/-- What happens between a run and a browser, without screenshots. -/
def Session.otherEvents (events : List Event) : List Event :=
  events.filter fun
    | .called call => !call.isScreenshot
    | _ => true

theorem Session.otherEvents_append (events more : List Event) :
    otherEvents (events ++ more) = otherEvents events ++ otherEvents more :=
  List.filter_append events more

theorem Session.otherEvents_called (calls : List Call) :
    otherEvents (calls.map .called) = (otherCalls calls).map .called := by
  rw [otherEvents, otherCalls, List.filter_map]
  rfl

/-- Open sessions of two browsers that answer alike but for screenshots: to the same calls, with
whatever screenshots in between, the same replies. A screenshot can fail on either side, without an
interruption. -/
structure Session.Agree (b : Browser σ) (state : σ) (b' : Browser τ) (state' : τ) : Prop where
  answer : ∀ calls calls', otherCalls calls = otherCalls calls' →
    ∀ call, call.isScreenshot = false →
      (b.answer call (b.after calls state)).1 = (b'.answer call (b'.after calls' state')).1
  first : ∀ calls path fault, (b.answer (.screenshot path) (b.after calls state)).1 = .error fault →
    fault.isInterrupt = false
  second : ∀ calls path fault,
    (b'.answer (.screenshot path) (b'.after calls state')).1 = .error fault →
      fault.isInterrupt = false

def StepResult.verdict (r : StepResult) : StepResult := { r with artifact := none }

/-- How a run ended, and what is known of each step apart from files. -/
def RunOutcome.verdict (o : RunOutcome) : RunStatus × List StepResult :=
  (o.status, o.results.map (·.verdict))

namespace Run

open Screenshot

/-! ## Surroundings in step -/

/-- Two surroundings whose sessions were asked for the same, screenshots apart, from two others
on. -/
def InStep (b : Browser σ) (b' : Browser τ) (start : Surroundings σ) (start' : Surroundings τ)
    (s : Surroundings σ) (s' : Surroundings τ) : Prop :=
  ∃ calls calls', Conversation b calls start s ∧ Conversation b' calls' start' s' ∧
    otherCalls calls = otherCalls calls'

section

variable {b : Browser σ} {b' : Browser τ} {start s t : Surroundings σ}
  {start' s' t' : Surroundings τ}

namespace InStep

theorem refl (b : Browser σ) (b' : Browser τ) (s : Surroundings σ) (s' : Surroundings τ) :
    InStep b b' s s' s s' :=
  ⟨[], [], .silent b rfl rfl, .silent b' rfl rfl, rfl⟩

theorem after {calls calls' : List Call} (hstep : InStep b b' start start' s s')
    (htalk : Conversation b calls s t) (htalk' : Conversation b' calls' s' t')
    (hcalls : otherCalls calls = otherCalls calls') : InStep b b' start start' t t' := by
  obtain ⟨before, before', hbefore, hbefore', hother⟩ := hstep
  refine ⟨_, _, hbefore.append htalk, hbefore'.append htalk', ?_⟩
  rw [otherCalls_append, otherCalls_append, hother, hcalls]

theorem reports (hstep : InStep b b' start start' s s') (h : OnlyReports s t)
    (h' : OnlyReports s' t') : InStep b b' start start' t t' :=
  hstep.after (h.conversation b) (h'.conversation b') rfl

theorem otherEvents (hstep : InStep b b' start start' s s') :
    ∃ events events', s.events = start.events ++ events ∧ s'.events = start'.events ++ events' ∧
      Session.otherEvents events = Session.otherEvents events' := by
  obtain ⟨calls, calls', htalk, htalk', hcalls⟩ := hstep
  refine ⟨_, _, htalk.events, htalk'.events, ?_⟩
  rw [otherEvents_called, otherEvents_called, hcalls]

end InStep

/-- Sessions that agree give the same reply to a call made in step. -/
theorem ask_inStep (hagree : Agree b start.browser b' start'.browser)
    (hstep : InStep b b' start start' s s') (call : Call) (hcall : call.isScreenshot = false) :
    (ask b call s).1 = (ask b' call s').1 ∧
      InStep b b' start start' (ask b call s).2 (ask b' call s').2 := by
  refine ⟨?_, hstep.after (ask_conversation b call s) (ask_conversation b' call s') rfl⟩
  obtain ⟨calls, calls', htalk, htalk', hother⟩ := hstep
  rw [ask_result, ask_result, htalk.browser, htalk'.browser]
  exact hagree.answer calls calls' hother call hcall

/-! ## Screenshots -/

/-- Unless it is interrupted, taking a screenshot does not fail, and asks for nothing else. -/
theorem capture_asks (b : Browser σ) (directory : String) (occasion : Occasion)
    (file : Option String) (s : Surroundings σ)
    (hcalm : ∀ path fault, (b.answer (.screenshot path) s.browser).1 = .error fault →
      fault.isInterrupt = false) :
    (∃ artifact, (capture b directory occasion file s).1 = .ok artifact) ∧
      ∃ calls, otherCalls calls = [] ∧
        Conversation b calls s (capture b directory occasion file s).2 := by
  obtain ⟨log, hcapture, hlog, -⟩ := capture_captured b directory occasion file s
  have htalk := hlog.conversation
  generalize (capture b directory occasion file s).1 = result at hcapture
  generalize (prepare directory occasion file s.gallery).1 = prepared at hcapture
  cases hcapture with
  | unprepared => exact ⟨⟨none, rfl⟩, _, rfl, htalk⟩
  | saved path => exact ⟨⟨some path, rfl⟩, _, rfl, htalk⟩
  | unsaved path _ => exact ⟨⟨none, rfl⟩, _, rfl, htalk⟩
  | interrupted path hinterrupt =>
      cases hlog.browser with
      | cons hreply _ =>
          have hfault := hcalm path _ (congrArg Prod.fst hreply)
          rw [hinterrupt] at hfault
          exact absurd hfault.symm Bool.false_ne_true

/-- A capture is no fault on either side, whatever becomes of it. -/
theorem capture_inStep (hagree : Agree b start.browser b' start'.browser)
    (hstep : InStep b b' start start' s s') (directory directory' : String) (occasion : Occasion)
    (file : Option String) :
    (∃ artifact, (capture b directory occasion file s).1 = .ok artifact) ∧
      (∃ artifact, (capture b' directory' occasion file s').1 = .ok artifact) ∧
      InStep b b' start start' (capture b directory occasion file s).2
        (capture b' directory' occasion file s').2 := by
  have ⟨before, before', htalk, htalk', _⟩ := hstep
  obtain ⟨hend, calls, hcalls, hafter⟩ := capture_asks b directory occasion file s
    (htalk.browser ▸ hagree.first before)
  obtain ⟨hend', calls', hcalls', hafter'⟩ := capture_asks b' directory' occasion file s'
    (htalk'.browser ▸ hagree.second before')
  exact ⟨hend, hend', hstep.after hafter hafter' (hcalls.trans hcalls'.symm)⟩

/-! ## Steps -/

/-- Demands are met in step, up to the same fault. -/
theorem meet_inStep (hagree : Agree b start.browser b' start'.browser) {demands : List Demand}
    (hdemands : ∀ demand ∈ demands, demand.call.isScreenshot = false)
    (hstep : InStep b b' start start' s s') :
    (meet b demands s).1 = (meet b' demands s').1 ∧
      InStep b b' start start' (meet b demands s).2 (meet b' demands s').2 := by
  induction demands generalizing s s' with
  | nil => exact ⟨rfl, hstep⟩
  | cons demand rest ih =>
      obtain ⟨hcall, hrest⟩ := List.forall_mem_cons.mp hdemands
      obtain ⟨hreply, hnext⟩ := ask_inStep hagree hstep demand.call hcall
      rw [meet, meet, Act.bind_apply, Act.bind_apply]
      rcases hask : ask b demand.call s with ⟨reply, t⟩
      rcases hask' : ask b' demand.call s' with ⟨reply', t'⟩
      rw [hask, hask'] at hreply hnext
      cases hreply
      cases reply with
      | error fault => exact ⟨rfl, hnext⟩
      | ok reply =>
          dsimp only
          cases demand.objection reply with
          | some fault => exact ⟨rfl, hnext⟩
          | none => exact ih hrest hnext

theorem isScreenshot_demands (index : Nat) (action : Action) :
    ∀ demand ∈ demands index action, demand.call.isScreenshot = false := by
  cases action <;>
    simp [demands, Demand.anyReply, Demand.someElement, Demand.someText, Call.isScreenshot]

/-- A step ends alike on both sides, but for the file that it makes. -/
theorem perform_inStep (hagree : Agree b start.browser b' start'.browser)
    (hstep : InStep b b' start start' s s') (directory directory' : String) (index : Nat)
    (step : Step) :
    (perform b directory index step s).1.map (fun _ => ()) =
        (perform b' directory' index step s').1.map (fun _ => ()) ∧
      InStep b b' start start' (perform b directory index step s).2
        (perform b' directory' index step s').2 := by
  by_cases hkind : step.kind = .screenshot
  · rcases step with ⟨name, action⟩
    cases action with
    | screenshot file =>
        obtain ⟨⟨artifact, hend⟩, ⟨artifact', hend'⟩, hnext⟩ :=
          capture_inStep hagree hstep directory directory' .step (file.bind Text.nonempty?)
        refine ⟨?_, hnext⟩
        simp only [perform, hend, hend']
        rfl
    | _ => cases hkind
  · obtain ⟨hresult, hnext⟩ := meet_inStep hagree (isScreenshot_demands index step.action) hstep
    rw [perform_eq_meet b directory index step hkind,
      perform_eq_meet b' directory' index step hkind, Act.bind_apply, Act.bind_apply]
    rcases hmeet : meet b (demands index step.action) s with ⟨result, t⟩
    rcases hmeet' : meet b' (demands index step.action) s' with ⟨result', t'⟩
    rw [hmeet, hmeet'] at hresult hnext
    cases hresult
    cases result with
    | error fault => exact ⟨rfl, hnext⟩
    | ok => exact ⟨rfl, hnext⟩

/-- Steps are performed in step, with the same verdicts and the same end. -/
theorem performAll_inStep (hagree : Agree b start.browser b' start'.browser)
    (hstep : InStep b b' start start' s s') (directory directory' : String) (index : Nat)
    (steps : List Step) :
    (performAll b directory index steps s).1.1.map (·.verdict) =
        (performAll b' directory' index steps s').1.1.map (·.verdict) ∧
      (performAll b directory index steps s).1.2 = (performAll b' directory' index steps s').1.2 ∧
      InStep b b' start start' (performAll b directory index steps s).2
        (performAll b' directory' index steps s').2 := by
  induction steps generalizing index s s' with
  | nil => exact ⟨rfl, rfl, hstep⟩
  | cons step rest ih =>
      have hreached : InStep b b' start start' (reached step s) (reached step s') :=
        hstep.reports (reported_onlyReports _ _ s) (reported_onlyReports _ _ s')
      obtain ⟨hresult, hnext⟩ := perform_inStep hagree hreached directory directory' index step
      rw [performAll_cons, performAll_cons]
      rcases hperform : perform b directory index step (reached step s) with ⟨result, t⟩
      rcases hperform' : perform b' directory' index step (reached step s') with ⟨result', t'⟩
      rw [hperform, hperform'] at hresult hnext
      cases result with
      | ok artifact =>
          cases result' with
          | error fault => cases hresult
          | ok artifact' =>
              obtain ⟨hresults, hending, hdone⟩ := ih hnext (index + 1)
              exact ⟨congrArg (List.cons _) hresults, hending, hdone⟩
      | error fault =>
          cases result' with
          | ok artifact' => cases hresult
          | error fault' =>
              cases hresult
              dsimp only
              by_cases hinterrupt : fault.isInterrupt = true
              · rw [if_pos hinterrupt, if_pos hinterrupt]
                exact ⟨rfl, rfl, hnext⟩
              · rw [if_neg hinterrupt, if_neg hinterrupt]
                exact ⟨rfl, rfl, hnext.reports (failureReported_onlyReports index fault t)
                  (failureReported_onlyReports index fault t')⟩

/-! ## Runs -/

/-- What is known of a run that is about to end, apart from files. -/
def Ending.verdict (ending : Ending) : RunStatus × List StepResult × Option Fault :=
  (ending.status, ending.results.map (·.verdict), ending.interruption)

/-- The steps of a run go alike in two browsers that agree, whatever becomes of captures. -/
theorem replay_inStep (hagree : Agree b start.browser b' start'.browser)
    (hstep : InStep b b' start start' s s') (directory directory' : String) (steps : List Step) :
    (replay b directory steps s).1.verdict = (replay b' directory' steps s').1.verdict ∧
      InStep b b' start start' (replay b directory steps s).2
        (replay b' directory' steps s').2 := by
  obtain ⟨hresults, hending, hnext⟩ :=
    performAll_inStep hagree hstep directory directory' 0 steps
  rw [replay_apply, replay_apply]
  rcases hperform : performAll b directory 0 steps s with ⟨⟨results, ending⟩, t⟩
  rcases hperform' : performAll b' directory' 0 steps s' with ⟨⟨results', ending'⟩, t'⟩
  rw [hperform, hperform'] at hresults hending hnext
  cases hending
  cases ending with
  | passed => exact ⟨by simp [Ending.verdict, hresults], hnext⟩
  | interrupted fault => exact ⟨by simp [Ending.verdict, hresults], hnext⟩
  | failed =>
      obtain ⟨⟨artifact, hend⟩, ⟨artifact', hend'⟩, hdone⟩ :=
        capture_inStep hagree hnext directory directory' .failure none
      dsimp only
      rcases hcapture : capture b directory .failure none t with ⟨result, u⟩
      rcases hcapture' : capture b' directory' .failure none t' with ⟨result', u'⟩
      rw [hcapture] at hend hdone
      rw [hcapture'] at hend' hdone
      cases hend
      cases hend'
      exact ⟨by simp [Ending.verdict, hresults], hdone⟩

/-- A session that there may be is closed with the same fault, if with any. -/
theorem release_inStep {acquired : Bool}
    (hagree : acquired = true → Agree b start.browser b' start'.browser)
    (hstep : InStep b b' start start' s s') (r r' : Run) :
    ((if acquired then release b r else pure () : Act (Surroundings σ) Unit) s).1 =
        ((if acquired then release b' r' else pure () : Act (Surroundings τ) Unit) s').1 ∧
      InStep b b' start start'
        ((if acquired then release b r else pure () : Act (Surroundings σ) Unit) s).2
        ((if acquired then release b' r' else pure () : Act (Surroundings τ) Unit) s').2 := by
  cases acquired with
  | false => exact ⟨rfl, hstep⟩
  | true =>
      obtain ⟨hreply, hnext⟩ := ask_inStep (hagree rfl) hstep .close rfl
      simp only [if_true, release_apply]
      rcases hask : ask b .close s with ⟨reply, t⟩
      rcases hask' : ask b' .close s' with ⟨reply', t'⟩
      rw [hask, hask'] at hreply hnext
      cases hreply
      cases reply with
      | ok => exact ⟨rfl, hnext⟩
      | error fault =>
          dsimp only
          by_cases hinterrupt : fault.isInterrupt = true
          · rw [if_pos hinterrupt, if_pos hinterrupt]
            exact ⟨rfl, hnext⟩
          · rw [if_neg hinterrupt, if_neg hinterrupt]
            exact ⟨rfl, hnext.reports (reported_onlyReports _ _ t) (reported_onlyReports _ _ t')⟩

/-- The state of a run, and what is known of its outcome apart from files. -/
def verdict (r : Run) : RunState × Option (RunStatus × List StepResult) :=
  (r.state, r.outcome.map (·.verdict))

/-- A run comes to the same end, with a session or without one. -/
theorem conclude_inStep {acquired : Bool}
    (hagree : acquired = true → Agree b start.browser b' start'.browser)
    (hstep : InStep b b' start start' s s') {r r' : Run} (hrun : r.verdict = r'.verdict)
    (started started' : Moment) {ending ending' : Ending}
    (hending : ending.verdict = ending'.verdict) :
    (conclude b r acquired started ending s).1.1.map (·.verdict) =
        (conclude b' r' acquired started' ending' s').1.1.map (·.verdict) ∧
      (conclude b r acquired started ending s).1.2.verdict =
        (conclude b' r' acquired started' ending' s').1.2.verdict ∧
      InStep b b' start start' (conclude b r acquired started ending s).2
        (conclude b' r' acquired started' ending' s').2 := by
  simp only [Ending.verdict, Prod.mk.injEq] at hending
  simp only [verdict, Prod.mk.injEq] at hrun
  obtain ⟨hstatus, hresults, hinterruption⟩ := hending
  have hstate : ending.state = ending'.state := by rw [Ending.state, Ending.state, hstatus]
  have hentered := hstep.reports (entered_onlyReports r ending.state s)
    (entered_onlyReports r' ending'.state s')
  have hreleased := release_inStep hagree hentered { r with state := ending.state }
    { r' with state := ending'.state }
  rw [conclude_apply, conclude_apply]
  dsimp only
  generalize (if acquired = true then release b _ else pure () : Act (Surroundings σ) Unit) _ =
    closed at hreleased ⊢
  generalize (if acquired = true then release b' _ else pure () : Act (Surroundings τ) Unit) _ =
    closed' at hreleased ⊢
  rcases closed with ⟨result, t⟩
  rcases closed' with ⟨result', t'⟩
  obtain ⟨hresult, hnext⟩ := hreleased
  cases hresult
  cases result with
  | error fault =>
      exact ⟨rfl, by simp only [verdict, hstate, hrun.2], hnext⟩
  | ok =>
      dsimp only
      refine ⟨?_, ?_, hnext.reports (concluded_onlyReports _ ending t)
        (concluded_onlyReports _ ending' t')⟩
      · rw [Ending.result, Ending.result, hinterruption]
        cases ending'.interruption with
        | some fault => rfl
        | none => simp [Except.map, RunOutcome.verdict, Ending.outcome, hstatus, hresults]
      · simp [verdict, RunOutcome.verdict, Ending.outcome, hstatus, hresults]

/-- Two runs of one test come to the same end if they are given sessions that agree, or are refused
one for the same reason. -/
theorem execute_inStep (r r' : Run) (hidle : r.state = .idle) (hrun : r.verdict = r'.verdict)
    (htest : r.test = r'.test)
    (hacquire : (b.acquire s.browser).1 = (b'.acquire s'.browser).1)
    (hagree : (b.acquire s.browser).1 = .ok () →
      Agree b (b.acquire s.browser).2 b' (b'.acquire s'.browser).2)
    (directory directory' : String) :
    (execute b directory r s).1.1.map (·.verdict) =
        (execute b' directory' r' s').1.1.map (·.verdict) ∧
      (execute b directory r s).1.2.verdict = (execute b' directory' r' s').1.2.verdict ∧
      InStep b b' (acquire b (begun r s)).2 (acquire b' (begun r' s')).2
        (execute b directory r s).2 (execute b' directory' r' s').2 := by
  obtain ⟨id, test, state, outcome⟩ := r
  obtain ⟨id', test', state', outcome'⟩ := r'
  obtain rfl : test = test' := htest
  have hidle' : state' = .idle := (congrArg Prod.fst hrun).symm.trans hidle
  have hrunning : verdict ⟨id, test, .running, outcome⟩ = verdict ⟨id', test, .running, outcome'⟩ :=
    congrArg (fun known => (RunState.running, known.2)) hrun
  obtain ⟨hresult, hbrowser, -⟩ := acquire_begun b ⟨id, test, state, outcome⟩ s
  obtain ⟨hresult', hbrowser', -⟩ := acquire_begun b' ⟨id', test, state', outcome'⟩ s'
  rw [← hbrowser, ← hbrowser', ← hresult] at hagree
  rw [← hresult, ← hresult'] at hacquire
  rw [execute_of_idle b directory hidle s, execute_of_idle b' directory' hidle' s']
  rcases hgiven : acquire b (begun _ s) with ⟨given, t⟩
  rcases hgiven' : acquire b' (begun _ s') with ⟨given', t'⟩
  rw [hgiven, hgiven'] at hacquire hagree
  cases hacquire
  have hstart := InStep.refl b b' t t'
  cases given with
  | ok =>
      have hreplay := replay_inStep (hagree rfl) hstart directory directory' test.steps
      exact conclude_inStep (fun _ => hagree rfl) hreplay.2 hrunning _ _ hreplay.1
  | error fault =>
      have hrefused : false = true → Agree b t.browser b' t'.browser := fun h => nomatch h
      dsimp only
      by_cases hinterrupt : fault.isInterrupt = true
      · rw [if_pos hinterrupt, if_pos hinterrupt]
        exact conclude_inStep hrefused hstart hrunning _ _ rfl
      · rw [if_neg hinterrupt, if_neg hinterrupt]
        refine conclude_inStep hrefused (hstart.reports ?_ ?_) hrunning _ _ rfl
        · exact reported_onlyReports _ _ t
        · exact reported_onlyReports _ _ t'

end

/-- Screenshots decide nothing. Two runs of one test, on sessions that answer alike but for
screenshots, come to the same verdict, step by step, and ask the sessions for the same but for
screenshots. The places of screenshots, the names that are taken, the clocks and the files that
there are can differ, and so can the fate of each screenshot. If only faults of a browser come up,
there is an outcome. -/
theorem screenshots_decide_nothing (b : Browser σ) (b' : Browser τ) (directory directory' : String)
    (test : Test) (supply supply' : Supply) (s : Surroundings σ) (s' : Surroundings τ)
    (hacquire : (b.acquire s.browser).1 = (b'.acquire s'.browser).1)
    (hagree : (b.acquire s.browser).1 = .ok () →
      Agree b (b.acquire s.browser).2 b' (b'.acquire s'.browser).2) :
    let done := (Run.ofTest test supply).1.execute b directory s
    let done' := (Run.ofTest test supply').1.execute b' directory' s'
    done.1.1.map (·.verdict) = done'.1.1.map (·.verdict) ∧
      done.1.2.verdict = done'.1.2.verdict ∧
      (∃ events events', done.2.events = s.events ++ events ∧
        done'.2.events = s'.events ++ events' ∧ otherEvents events = otherEvents events') ∧
      ((∀ fault, (b.acquire s.browser).1 = .error fault → fault.isInterrupt = false) →
        Uninterrupted b → ∃ outcome, done.1.1 = .ok outcome) := by
  have hidle : (Run.ofTest test supply).1.state = .idle := rfl
  obtain ⟨hresult, hrun, hstep⟩ :=
    execute_inStep _ (Run.ofTest test supply').1 hidle rfl rfl hacquire
    hagree directory directory'
  refine ⟨hresult, hrun, ?_, ?_⟩
  · obtain ⟨events, events', hevents, hevents', hother⟩ := hstep.otherEvents
    obtain ⟨hgiven, -, hbegun⟩ := acquire_begun b (Run.ofTest test supply).1 s
    obtain ⟨hgiven', -, hbegun'⟩ := acquire_begun b' (Run.ofTest test supply').1 s'
    rw [acquire_events, hgiven, hbegun, List.append_assoc] at hevents
    rw [acquire_events, hgiven', hbegun', List.append_assoc] at hevents'
    refine ⟨_, _, hevents, hevents', ?_⟩
    rw [otherEvents_append, otherEvents_append, hother, hacquire]
  · intro hrefusal hb
    cases hgiven : (b.acquire s.browser).1 with
    | ok =>
        obtain ⟨calls, -, -, hended⟩ := execute_served b directory hidle s hgiven
        obtain ⟨outcome, -, hok⟩ := hended (hb.of_fault? _ _)
        exact ⟨outcome, hok (hb.of_faults _ _)⟩
    | error fault =>
        obtain ⟨-, outcome, -, hok⟩ := execute_refused b directory hidle s hgiven
        exact ⟨outcome, hok (hrefusal fault hgiven)⟩

/-- The covered page in a browser that cannot take screenshots. -/
def blindPage : Browser Unit where
  acquire := coveredPage.acquire
  answer
    | .screenshot _, state => (.error ⟨.timeout, "Timeout 30000ms exceeded.", none⟩, state)
    | call, state => coveredPage.answer call state

theorem coveredPage_agree_blindPage : Agree coveredPage () blindPage () where
  answer _ _ _ call hcall := by
    cases call with
    | screenshot path => cases hcall
    | _ => rfl
  first _ _ _ hreply := nomatch hreply
  second _ _ _ hreply := by
    cases hreply
    rfl

/-- In a browser that takes no screenshots the run ends as in one that does, but for their files. -/
theorem screenshots_decide_nothing_blindPage :
    (coveredPage.acquire ()).1 = (blindPage.acquire ()).1 ∧ Agree coveredPage () blindPage () ∧
      let r := (Run.ofTest followLink freshSurroundings.gallery.supply).1
      let done := r.execute coveredPage "shots" freshSurroundings
      let done' := r.execute blindPage "images" freshSurroundings
      done.1.2.outcome.bind (·.diagnostic) = some "shots/error-0.png" ∧
        done'.1.2.outcome.bind (·.diagnostic) = none ∧
        done.1.1.map (·.verdict) = done'.1.1.map (·.verdict) ∧
        done.1.2.verdict = done'.1.2.verdict := by
  obtain ⟨hresult, hrun, -⟩ := screenshots_decide_nothing coveredPage blindPage "shots" "images"
    followLink freshSurroundings.gallery.supply freshSurroundings.gallery.supply freshSurroundings
    freshSurroundings rfl fun _ => coveredPage_agree_blindPage
  exact ⟨rfl, coveredPage_agree_blindPage, by decide +kernel, by decide +kernel, hresult, hrun⟩

end Run

end Clickpath
