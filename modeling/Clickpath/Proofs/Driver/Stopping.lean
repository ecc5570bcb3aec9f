import Clickpath.Proofs.Driver.Page
import Clickpath.Proofs.Run.Closing

/-! # Drivers are stopped once

Opening a page starts a driver, and stops it again when the page cannot be prepared. Closing a
session stops the driver of a page that was opened, and a run closes every session that it was
given. Between the two, no call of a session starts or stops anything.
-/

namespace Clickpath

open Session

variable {σ α β : Type}

def Session.Exchange.IsInterrupted {C : Type} {Reply : C → Type}
    (exchange : Exchange Reply) : Prop :=
  ∃ fault, exchange.reply = .error fault ∧ fault.isInterrupt = true

namespace Driver

variable {d : Driver σ}

/-- A call that neither starts nor stops the driver. -/
def Call.IsWithin (call : Call) : Prop := call ≠ .start ∧ call ≠ .stop

/-! ## Opening a page -/

/-- An act that makes only calls of a class, and whose faults are those of its calls. -/
def Relays (d : Driver σ) (allowed : Call → Prop) (act : Act (Client σ) α) : Prop :=
  ∀ c, ∃ log, Exchanged d log c (act c).2 ∧ (∀ exchange ∈ log, allowed exchange.call) ∧
    ∀ fault, (act c).1 = .error fault → ∃ exchange ∈ log, exchange.reply = .error fault

namespace Relays

variable {allowed : Call → Prop}

theorem ask {call : Call} (hcall : allowed call) : Relays d allowed (d.ask call) := by
  intro c
  refine ⟨_, .ask d call c, by simpa using hcall, fun fault hfault => ?_⟩
  exact ⟨_, List.mem_cons_self, hfault⟩

/-- Two acts that pass on the faults of their calls do so one after another. -/
theorem bind {act : Act (Client σ) α} {next : α → Act (Client σ) β} (hact : Relays d allowed act)
    (hnext : ∀ a, Relays d allowed (next a)) : Relays d allowed (act >>= next) := by
  intro c
  obtain ⟨log, hlog, hcalls, hfaults⟩ := hact c
  rw [Act.bind_apply]
  rcases hresult : act c with ⟨result, c'⟩
  rw [hresult] at hlog hfaults
  cases result with
  | error fault =>
      refine ⟨log, hlog, hcalls, ?_⟩
      intro raised hraised
      cases hraised
      exact hfaults fault rfl
  | ok a =>
      obtain ⟨more, hmore, hafter, hlater⟩ := hnext a c'
      refine ⟨log ++ more, hlog.append hmore, List.forall_mem_append.mpr ⟨hcalls, hafter⟩, ?_⟩
      intro fault hfault
      obtain ⟨exchange, hmem, hreply⟩ := hlater fault hfault
      exact ⟨exchange, List.mem_append_right _ hmem, hreply⟩

end Relays

theorem Page.prepare_relays (d : Driver σ) (o : Options) :
    Relays d Call.IsWithin (Page.prepare d o) :=
  .bind (.ask ⟨nofun, nofun⟩) fun _ => .bind (.ask ⟨nofun, nofun⟩) fun _ =>
    .bind (.ask ⟨nofun, nofun⟩) fun _ => .bind (.ask ⟨nofun, nofun⟩) fun _ => .ask ⟨nofun, nofun⟩

/-- What becomes of a driver while a page is opened. It is left running for the page, and otherwise
only when an interruption falls into the preparation. -/
inductive Opening : List (Exchange Call.Reply) → Except Fault Unit → Prop
  | unstarted (fault : Fault) : Opening [⟨.start, .error fault⟩] (.error fault)
  | opened {log : List (Exchange Call.Reply)} (hwithin : ∀ exchange ∈ log, exchange.call.IsWithin) :
      Opening (⟨.start, .ok ()⟩ :: log) (.ok ())
  | stopped {log : List (Exchange Call.Reply)} (hwithin : ∀ exchange ∈ log, exchange.call.IsWithin)
      (reply : Except Fault Unit) (fault : Fault) :
      Opening (⟨.start, .ok ()⟩ :: (log ++ [⟨.stop, reply⟩])) (.error fault)
  | interrupted {log : List (Exchange Call.Reply)} (fault : Fault)
      (hinterrupt : ∃ exchange ∈ log, exchange.IsInterrupted) :
      Opening (⟨.start, .ok ()⟩ :: log) (.error fault)

/-- A page that could not be opened leaves no driver running, but for an interruption. -/
theorem Opening.ended {log : List (Exchange Call.Reply)} {fault : Fault}
    (h : Opening log (.error fault)) (hcalm : ∀ exchange ∈ log, ¬exchange.IsInterrupted) :
    (∃ fault, log = [⟨.start, .error fault⟩]) ∨
      ∃ between reply, log = ⟨.start, .ok ()⟩ :: (between ++ [⟨.stop, reply⟩]) ∧
        ∀ exchange ∈ between, exchange.call.IsWithin := by
  cases h with
  | unstarted => exact .inl ⟨fault, rfl⟩
  | stopped hwithin reply => exact .inr ⟨_, reply, rfl, hwithin⟩
  | interrupted _ hinterrupt =>
      obtain ⟨exchange, hmem, hraised⟩ := hinterrupt
      exact absurd hraised (hcalm exchange (List.mem_cons_of_mem _ hmem))

/-- What happens from the opening of a page to the end of its session, if that is closed last. -/
theorem Opening.closed {log during : List (Exchange Call.Reply)} (h : Opening log (.ok ()))
    (hduring : ∀ exchange ∈ during, exchange.call.IsWithin) (closed stopped : Except Fault Unit) :
    ∃ between, log ++ during ++ [⟨.closeBrowser, closed⟩, ⟨.stop, stopped⟩] =
        ⟨.start, .ok ()⟩ :: (between ++ [⟨.stop, stopped⟩]) ∧
      ∀ exchange ∈ between, exchange.call.IsWithin := by
  cases h with
  | @opened before hbefore =>
      refine ⟨before ++ during ++ [⟨.closeBrowser, closed⟩], by simp, ?_⟩
      simp only [List.forall_mem_append, List.forall_mem_singleton]
      exact ⟨⟨hbefore, hduring⟩, nofun, nofun⟩

/-- A driver is left running only when its page is ready, or when it was interrupted. -/
theorem Page.acquire_apply (d : Driver σ) (o : Options) (c : Client σ) :
    Page.acquire d o c =
      match d.ask .start c with
      | (.error fault, c) => (.error fault, c)
      | (.ok (), c) =>
          match Page.prepare d o c with
          | (.ok (), c) => (.ok (), c)
          | (.error fault, c) =>
              if fault.isInterrupt then (.error fault, c)
              else
                match d.ask .stop c with
                | (.ok (), c) => (.error fault, c)
                | (.error raised, c) => (.error raised, c) := by
  refine (Act.bind_apply (d.ask .start) _ c).trans ?_
  rcases d.ask .start c with ⟨⟨fault⟩ | ⟨⟨⟩⟩, c⟩
  · rfl
  · refine (Act.attempt_bind_apply (Page.prepare d o) _ c).trans ?_
    dsimp only
    rcases Page.prepare d o c with ⟨⟨fault⟩ | ⟨⟨⟩⟩, c⟩
    · dsimp only
      cases fault.isInterrupt with
      | true => rfl
      | false =>
          refine (Act.bind_apply (d.ask .stop) _ c).trans ?_
          rcases d.ask .stop c with ⟨⟨raised⟩ | ⟨⟨⟩⟩, c⟩ <;> rfl
    · rfl

/-- A driver is left running exactly for a page that was opened, or by an interruption. -/
theorem Page.acquire_opening (d : Driver σ) (o : Options) (c : Client σ) :
    ∃ log, Exchanged d log c (Page.acquire d o c).2 ∧ Opening log (Page.acquire d o c).1 := by
  have hstart := Exchanged.ask d .start c
  rw [Page.acquire_apply]
  rcases hstarted : d.ask .start c with ⟨⟨fault⟩ | ⟨⟨⟩⟩, c₁⟩ <;> rw [hstarted] at hstart
  · exact ⟨_, hstart, .unstarted fault⟩
  · obtain ⟨log, hlog, hwithin, hfaults⟩ := Page.prepare_relays d o c₁
    have hprepare := hstart.append hlog
    dsimp only
    rcases hprepared : Page.prepare d o c₁ with ⟨⟨fault⟩ | ⟨⟨⟩⟩, c₂⟩ <;>
      rw [hprepared] at hprepare hfaults
    · dsimp only
      split
      next hinterrupt =>
        obtain ⟨exchange, hmem, hreply⟩ := hfaults fault rfl
        exact ⟨_, hprepare, .interrupted fault ⟨exchange, hmem, fault, hreply, hinterrupt⟩⟩
      next =>
        -- Whether stopping fails too decides only which fault goes on.
        have hstop := hprepare.append (Exchanged.ask d .stop c₂)
        rcases hstopped : d.ask .stop c₂ with ⟨⟨raised⟩ | ⟨⟨⟩⟩, c₃⟩ <;> rw [hstopped] at hstop
        · exact ⟨_, hstop, .stopped hwithin _ raised⟩
        · exact ⟨_, hstop, .stopped hwithin _ fault⟩
    · exact ⟨_, hprepare, .opened hwithin⟩

/-! ## Calls on a session -/

/-- Only the call that closes a session stops its driver. -/
theorem Page.answer_makes (d : Driver σ) {call : Session.Call} (hcall : call ≠ .close) :
    Makes d Call.IsWithin (Page.answer d call) := by
  cases call with
  | navigate url =>
      refine Makes.bind (.attempt (.ask ⟨nofun, nofun⟩)) fun result => ?_
      cases result with
      | ok => exact .pure ()
      | error fault =>
          dsimp only
          split
          next => exact .throw _
          next => exact .throw fault
  | count target =>
      apply (Page.count_makes d target.native).mono
      simp [Call.IsWithin]
  | click target | typeText target text | readText target =>
      exact .bind (.ask ⟨nofun, nofun⟩) fun _ => .ask ⟨nofun, nofun⟩
  | screenshot path => exact .ask ⟨nofun, nofun⟩
  | close => exact absurd rfl hcall

/-- Calls that leave a session open neither start nor stop the driver. -/
theorem after_makes (d : Driver σ) (o : Options) {calls : List Session.Call}
    (hopen : .close ∉ calls) (c : Client σ) :
    ∃ log, Exchanged d log c ((sessions d o).after calls c) ∧
      ∀ exchange ∈ log, exchange.call.IsWithin := by
  induction calls generalizing c with
  | nil => exact ⟨[], .nil d c, List.forall_mem_nil _⟩
  | cons call rest ih =>
      rw [List.mem_cons, not_or] at hopen
      obtain ⟨log, hlog, hwithin⟩ := Page.answer_makes d (Ne.symm hopen.1) c
      obtain ⟨more, hmore, hafter⟩ := ih hopen.2 _
      exact ⟨log ++ more, hlog.append hmore, List.forall_mem_append.mpr ⟨hwithin, hafter⟩⟩

/-- Closing a session stops the driver last, also when the browser does not close. -/
theorem Page.close_exchanged (d : Driver σ) (c : Client σ) :
    ∃ closed stopped,
      Exchanged d [⟨.closeBrowser, closed⟩, ⟨.stop, stopped⟩] c (Page.close d c).2 := by
  have hboth := (Exchanged.ask d .closeBrowser c).append (.ask d .stop _)
  have hclose : (Page.close d c).2 = (d.ask .stop (d.ask .closeBrowser c).2).2 :=
    Act.ensuring_state _ _ c
  rw [hclose]
  exact ⟨_, _, hboth⟩

end Driver

namespace Run

open Driver

/-- Whatever a driver answers, a run on one of its pages starts it once. Unless an interruption
comes in between, a driver that was started is stopped once, after all other calls, and one that
could not be started is not called again. -/
theorem driver_stopped_once (d : Driver σ) (o : Driver.Options) (directory : String) (test : Test)
    (supply : Supply) (s : Surroundings (Driver.Client σ)) :
    let done := (Run.ofTest test supply).1.execute (Driver.sessions d o) directory s
    ∃ log, Driver.Exchanged d log s.browser done.2.browser ∧
      ((∀ exchange ∈ log, ¬exchange.IsInterrupted) →
        (∃ fault, log = [⟨.start, .error fault⟩]) ∨
        ∃ between reply, log = ⟨.start, .ok ()⟩ :: (between ++ [⟨.stop, reply⟩]) ∧
          ∀ exchange ∈ between, exchange.call ≠ .start ∧ exchange.call ≠ .stop) := by
  have hidle : (Run.ofTest test supply).1.state = .idle := rfl
  generalize (Run.ofTest test supply).1 = r at hidle
  obtain ⟨log, hlog, hopening⟩ := Page.acquire_opening d o s.browser
  cases hgiven : (Page.acquire d o s.browser).1 with
  | error fault =>
      have hgiven' : ((Driver.sessions d o).acquire s.browser).1 = .error fault := hgiven
      obtain ⟨hreports, -⟩ := execute_withoutSession _ directory hidle s hgiven'
      obtain ⟨-, hbrowser, -⟩ := acquire_begun (Driver.sessions d o) r s
      rw [hgiven] at hopening
      refine ⟨log, ?_, hopening.ended⟩
      rw [hreports.browser, hbrowser]
      exact hlog
  | ok =>
      have hgiven' : ((Driver.sessions d o).acquire s.browser).1 = .ok () := hgiven
      obtain ⟨calls, ending, t, hopen, hexecute, -, hbrowser, -⟩ :=
        execute_concludes _ directory hidle s hgiven'
      have hclosing := conclude_conversation (Driver.sessions d o) { r with state := .running }
        s.gallery.supply.now ending t
      obtain ⟨during, hduring, hwithin⟩ := after_makes d o hopen (Page.acquire d o s.browser).2
      obtain ⟨closed, stopped, hclose⟩ := Page.close_exchanged d t.browser
      rw [hbrowser] at hclose
      have hwhole := (hlog.append hduring).append hclose
      rw [hgiven] at hopening
      obtain ⟨between, hbetween, hcalls⟩ := hopening.closed hwithin closed stopped
      rw [hbetween] at hwhole
      refine ⟨_, ?_, fun _ => .inr ⟨between, stopped, rfl, hcalls⟩⟩
      rw [hexecute, hclosing.browser, hbrowser]
      exact hwhole

end Run

end Clickpath
