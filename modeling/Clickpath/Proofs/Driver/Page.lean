import Clickpath.Driver.Page
import Clickpath.Proofs.Session.Exchange

/-! # What sessions do to a page

A call on a session comes to several calls on the driver behind it, and at most one of these does
something to the page. The others start and stop the browser, address elements, or wait for them
and count them.
-/

namespace Clickpath.Driver

open Session

variable {σ α β : Type} {d : Driver σ}

/-! ## Exchanges with a driver -/

/-- A call does something to the page. -/
def Call.isOnPage : Call → Bool
  | goto _ | click _ | press _ _ | innerText _ | screenshot _ => true
  | _ => false

/-- The exchanges that did something to the page. -/
def onPage (log : List (Exchange Call.Reply)) : List (Exchange Call.Reply) :=
  log.filter (·.call.isOnPage)

/-- Exactly these exchanges took place between two states of a client. -/
structure Exchanged (d : Driver σ) (log : List (Exchange Call.Reply)) (c c' : Client σ) : Prop where
  calls : c'.calls = c.calls ++ log.map (·.call)
  state : Exchanges d.answer c.state log c'.state

namespace Exchanged

variable {c c' c'' : Client σ} {first second : List (Exchange Call.Reply)}

theorem nil (d : Driver σ) (c : Client σ) : Exchanged d [] c c := ⟨by simp, .nil⟩

theorem append (hfirst : Exchanged d first c c') (hsecond : Exchanged d second c' c'') :
    Exchanged d (first ++ second) c c'' := by
  refine ⟨?_, hfirst.state.append hsecond.state⟩
  rw [hsecond.calls, hfirst.calls, List.map_append, List.append_assoc]

theorem ask (d : Driver σ) (call : Call) (c : Client σ) :
    Exchanged d [⟨call, (d.ask call c).1⟩] c (d.ask call c).2 :=
  ⟨rfl, .single call c.state⟩

end Exchanged

/-! ## Acts and their calls -/

/-- An act makes only calls of a class, however it ends. -/
def Makes (d : Driver σ) (allowed : Call → Prop) (act : Act (Client σ) α) : Prop :=
  ∀ c, ∃ log, Exchanged d log c (act c).2 ∧ ∀ exchange ∈ log, allowed exchange.call

namespace Makes

variable {allowed wider : Call → Prop}

theorem mono {act : Act (Client σ) α} (hact : Makes d allowed act)
    (hwider : ∀ call, allowed call → wider call) : Makes d wider act := by
  intro c
  obtain ⟨log, hlog, hcalls⟩ := hact c
  exact ⟨log, hlog, fun exchange hmem => hwider _ (hcalls exchange hmem)⟩

theorem pure (a : α) : Makes d allowed (Pure.pure a : Act (Client σ) α) :=
  fun c => ⟨[], .nil d c, List.forall_mem_nil _⟩

theorem throw (fault : Fault) : Makes d allowed (MonadExcept.throw fault : Act (Client σ) α) :=
  fun c => ⟨[], .nil d c, List.forall_mem_nil _⟩

theorem ask {call : Call} (hcall : allowed call) : Makes d allowed (d.ask call) :=
  fun c => ⟨_, .ask d call c, by simpa using hcall⟩

/-- Two acts one after another make the calls of both. -/
theorem bind {act : Act (Client σ) α} {next : α → Act (Client σ) β} (hact : Makes d allowed act)
    (hnext : ∀ a, Makes d allowed (next a)) : Makes d allowed (act >>= next) := by
  intro c
  obtain ⟨log, hlog, hcalls⟩ := hact c
  rw [Act.bind_apply]
  rcases hresult : act c with ⟨result, c'⟩
  rw [hresult] at hlog
  cases result with
  | error fault => exact ⟨log, hlog, hcalls⟩
  | ok a =>
      obtain ⟨more, hmore, hafter⟩ := hnext a c'
      refine ⟨log ++ more, hlog.append hmore, ?_⟩
      exact List.forall_mem_append.mpr ⟨hcalls, hafter⟩

theorem attempt {act : Act (Client σ) α} (hact : Makes d allowed act) :
    Makes d allowed (attempt act) :=
  fun c => hact c

theorem ensuring {act : Act (Client σ) α} {last : Act (Client σ) Unit} (hact : Makes d allowed act)
    (hlast : Makes d allowed last) : Makes d allowed (ensuring act last) :=
  hact.attempt.bind fun _ => hlast.bind fun _ c => ⟨[], .nil d c, List.forall_mem_nil _⟩

end Makes

namespace Page

theorem prepare_makes (d : Driver σ) (o : Options) :
    Makes d (· ∈ [.find o.browser, .launch o.browser o.headless, .newContext, .newPage,
      .setTimeout o.timeout]) (prepare d o) :=
  .bind (.ask (by simp)) fun _ => .bind (.ask (by simp)) fun _ => .bind (.ask (by simp)) fun _ =>
    .bind (.ask (by simp)) fun _ => .ask (by simp)

/-- Counting elements waits for the first of them and may give up, but makes no other call. -/
theorem count_makes (d : Driver σ) (selector : String) :
    Makes d (· ∈ [.locate selector, .waitFor selector, .count selector]) (count d selector) := by
  refine Makes.bind (.ask (by simp)) fun _ =>
    Makes.bind (.attempt (.ask (by simp))) fun result => ?_
  cases result with
  | ok => exact .ask (by simp)
  | error fault =>
      dsimp only
      split
      next => exact .pure 0
      next => exact .throw fault

theorem close_makes (d : Driver σ) : Makes d (· ∈ [.closeBrowser, .stop]) (close d) :=
  .ensuring (.ask (by simp)) (.ask (by simp))

end Page

/-! ## Acts that leave the page alone -/

/-- An act does the given things to the page, and nothing else. -/
def Does (d : Driver σ) (c c' : Client σ) (done : List (Exchange Call.Reply)) : Prop :=
  ∃ log, Exchanged d log c c' ∧ onPage log = done

theorem Does.append {c c' c'' : Client σ} {first second : List (Exchange Call.Reply)}
    (hfirst : Does d c c' first) (hsecond : Does d c' c'' second) :
    Does d c c'' (first ++ second) := by
  obtain ⟨log, hlog, rfl⟩ := hfirst
  obtain ⟨more, hmore, rfl⟩ := hsecond
  exact ⟨log ++ more, hlog.append hmore, List.filter_append _ _⟩

theorem does_ask (d : Driver σ) (call : Call) (c : Client σ) :
    Does d c (d.ask call c).2 (onPage [⟨call, (d.ask call c).1⟩]) :=
  ⟨_, .ask d call c, rfl⟩

def LeavesPage (d : Driver σ) (act : Act (Client σ) α) : Prop := ∀ c, Does d c (act c).2 []

theorem Makes.leavesPage {allowed : Call → Prop} {act : Act (Client σ) α}
    (hact : Makes d allowed act) (hallowed : ∀ call, allowed call → call.isOnPage = false) :
    LeavesPage d act := by
  intro c
  obtain ⟨log, hlog, hcalls⟩ := hact c
  refine ⟨log, hlog, List.filter_eq_nil_iff.mpr ?_⟩
  intro exchange hmem
  rw [hallowed _ (hcalls exchange hmem)]
  exact Bool.false_ne_true

namespace Page

/-- Opening a page does nothing to it. -/
theorem acquire_leavesPage (d : Driver σ) (o : Options) : LeavesPage d (acquire d o) := by
  have hprepare : Makes d (·.isOnPage = false) (prepare d o) := by
    apply (prepare_makes d o).mono
    simp [Call.isOnPage]
  have hacquire : Makes d (·.isOnPage = false) (acquire d o) := by
    refine Makes.bind (.ask rfl) fun _ => hprepare.attempt.bind fun result => ?_
    cases result with
    | ok => exact .pure ()
    | error fault =>
        cases hinterrupt : fault.isInterrupt with
        | true =>
            simp only [hinterrupt, Bool.not_true, Bool.false_eq_true, if_false]
            exact .throw fault
        | false =>
            simp only [hinterrupt, Bool.not_false, if_true]
            exact Makes.bind (.ask rfl) fun _ => .throw fault
  exact hacquire.leavesPage fun _ hcall => hcall

theorem count_leavesPage (d : Driver σ) (selector : String) : LeavesPage d (count d selector) :=
  (count_makes d selector).leavesPage (by simp [Call.isOnPage])

theorem close_leavesPage (d : Driver σ) : LeavesPage d (close d) :=
  (close_makes d).leavesPage (by simp [Call.isOnPage])

end Page

/-! ## Calls on a session -/

/-- What a call on a session with this reply does to the page. Of a call that raised nothing is
said, unless it takes a screenshot or closes the session. -/
inductive Served : Exchange Session.Call.Reply → List (Exchange Call.Reply) → Prop
  | navigated (url : String) : Served ⟨.navigate url, .ok ()⟩ [⟨.goto (some url), .ok ()⟩]
  | clicked (target : Selector) :
      Served ⟨.click target, .ok ()⟩ [⟨.click target.native, .ok ()⟩]
  | typed (target : Selector) (text : String) :
      Served ⟨.typeText target text, .ok ()⟩ [⟨.press text target.native, .ok ()⟩]
  | found (target : Selector) (text : String) :
      Served ⟨.readText target, .ok text⟩ [⟨.innerText target.native, .ok text⟩]
  | captured (path : String) (reply : Except Fault Unit) :
      Served ⟨.screenshot path, reply⟩ [⟨.screenshot path, reply⟩]
  | counted (target : Selector) (reply : Except Fault Int) : Served ⟨.count target, reply⟩ []
  | closed (reply : Except Fault Unit) : Served ⟨.close, reply⟩ []
  | raised {call : Session.Call} (fault : Fault) (done : List (Exchange Call.Reply))
      (hcapture : ∀ path, call ≠ .screenshot path) (hclose : call ≠ .close) :
      Served ⟨call, .error fault⟩ done

/-- A call on the page after something that leaves it alone. Whatever holds of faults and of that
call as the only thing that is done, holds of both together. -/
theorem LeavesPage.then_ask {act : Act (Client σ) Unit} (hact : LeavesPage d act)
    (call : Call) (served : Except Fault call.Reply → List (Exchange Call.Reply) → Prop)
    (hcall : call.isOnPage = true) (hfault : ∀ fault done, served (.error fault) done)
    (hok : ∀ reply, served (.ok reply) [⟨call, .ok reply⟩]) (c : Client σ) :
    ∃ done, served ((act >>= fun _ => d.ask call) c).1 done ∧
      Does d c ((act >>= fun _ => d.ask call) c).2 done := by
  have hfirst := hact c
  rw [Act.bind_apply]
  rcases hresult : act c with ⟨result, c'⟩
  rw [hresult] at hfirst
  cases result with
  | error fault => exact ⟨[], hfault fault [], hfirst⟩
  | ok =>
      refine ⟨_, ?_, hfirst.append (does_ask d call c')⟩
      simp only [onPage, hcall, List.filter_cons_of_pos, List.filter_nil, List.nil_append]
      cases (d.ask call c').1 with
      | ok reply => exact hok reply
      | error fault => exact hfault fault _

/-- Loading an address does just this to the page, and a failure of the driver is one of
navigation. -/
theorem navigate_served (d : Driver σ) (url : String) (c : Client σ) :
    ∃ done, Served ⟨.navigate url, (Page.navigate d url c).1⟩ done ∧
      Does d c (Page.navigate d url c).2 done := by
  have hdoes := does_ask d (.goto (some url)) c
  unfold Page.navigate
  rw [Act.attempt_bind_apply]
  rcases hresult : d.ask (.goto (some url)) c with ⟨reply, c'⟩
  rw [hresult] at hdoes
  cases reply with
  | ok => exact ⟨_, .navigated url, hdoes⟩
  | error fault =>
      -- The fault that is raised may be another one, but one is raised.
      dsimp only
      split
      next => exact ⟨_, .raised _ _ nofun nofun, hdoes⟩
      next => exact ⟨_, .raised _ _ nofun nofun, hdoes⟩

/-- Each call on a session does to the page what its reply says, and nothing else. -/
theorem answer_served (d : Driver σ) (call : Session.Call) (c : Client σ) :
    ∃ done, Served ⟨call, (Page.answer d call c).1⟩ done ∧
      Does d c (Page.answer d call c).2 done := by
  have hlocate (target : Selector) : LeavesPage d (d.ask (.locate target.native)) := by
    have hmakes : Makes d (· = .locate target.native) (d.ask (.locate target.native)) := .ask rfl
    exact hmakes.leavesPage (by simp [Call.isOnPage])
  cases call with
  | navigate url => exact navigate_served d url c
  | count target => exact ⟨[], .counted target _, Page.count_leavesPage d target.native c⟩
  | click target =>
      exact (hlocate target).then_ask (.click target.native)
        (fun reply done => Served ⟨.click target, reply⟩ done) rfl
        (fun fault done => .raised fault done nofun nofun) (fun _ => .clicked target) c
  | typeText target text =>
      exact (hlocate target).then_ask (.press text target.native)
        (fun reply done => Served ⟨.typeText target text, reply⟩ done) rfl
        (fun fault done => .raised fault done nofun nofun) (fun _ => .typed target text) c
  | readText target =>
      exact (hlocate target).then_ask (.innerText target.native)
        (fun reply done => Served ⟨.readText target, reply⟩ done) rfl
        (fun fault done => .raised fault done nofun nofun) (fun found => .found target found) c
  | screenshot path => exact ⟨_, .captured path _, does_ask d (.screenshot path) c⟩
  | close => exact ⟨[], .closed _, Page.close_leavesPage d c⟩

/-- What calls on a session with their replies do to the page, one after another. -/
inductive ServedAll : List (Exchange Session.Call.Reply) → List (Exchange Call.Reply) → Prop
  | nil : ServedAll [] []
  | cons {exchange : Exchange Session.Call.Reply} {rest : List (Exchange Session.Call.Reply)}
      {first second : List (Exchange Call.Reply)} (hfirst : Served exchange first)
      (hsecond : ServedAll rest second) : ServedAll (exchange :: rest) (first ++ second)

/-- What several calls did can be told apart with the calls. -/
theorem ServedAll.split {first second : List (Exchange Session.Call.Reply)}
    {done : List (Exchange Call.Reply)} (hserved : ServedAll (first ++ second) done) :
    ∃ before behind, done = before ++ behind ∧ ServedAll first before ∧
      ServedAll second behind := by
  induction first generalizing done with
  | nil => exact ⟨[], done, rfl, .nil, hserved⟩
  | cons exchange rest ih =>
      cases hserved with
      | cons hfirst hrest =>
          obtain ⟨before, behind, rfl, hbefore, hbehind⟩ := ih hrest
          exact ⟨_, behind, (List.append_assoc _ _ _).symm, .cons hfirst hbefore, hbehind⟩

theorem nothing_of_close {reply : Except Fault Unit} {done : List (Exchange Call.Reply)}
    (hserved : ServedAll [⟨.close, reply⟩] done) : done = [] := by
  cases hserved with
  | cons hclosing hnil =>
      cases hnil
      cases hclosing with
      | closed => rfl
      | raised _ _ _ hclose => exact absurd rfl hclose

/-- What calls on a session do to the page they do one after another. -/
theorem exchanges_served {c c' : Client σ} {log : List (Exchange Session.Call.Reply)}
    (hlog : Exchanges (Page.answer d) c log c') :
    ∃ done, ServedAll log done ∧ Does d c c' done := by
  induction hlog with
  | @nil c => exact ⟨[], .nil, [], .nil d c, rfl⟩
  | @cons c next last call reply rest hreply hrest ih =>
      obtain ⟨more, hmore, hdoes⟩ := ih
      obtain ⟨done, hserved, hdone⟩ := answer_served d call c
      rw [hreply] at hserved hdone
      exact ⟨done ++ more, .cons hserved hmore, hdone.append hdoes⟩

end Clickpath.Driver
