import Clickpath.Run.Surroundings

/-! # Conversations with a browser

A conversation is the list of calls made on an open session. A browser answers each call in the
state that the calls before it left, so the calls alone tell how it stands afterwards and which of
them failed. What an act does to a session is stated by its conversation.
-/

namespace Clickpath

variable {σ α β : Type}

namespace Session

namespace Act

/-- A sequence ends with the fault of its first act, or goes on with what that gives. -/
theorem bind_apply {S : Type} (act : Act S α) (next : α → Act S β) (s : S) :
    (act >>= next) s = match act s with
      | (.ok a, t) => next a t
      | (.error fault, t) => (.error fault, t) := by
  rcases hresult : act s with ⟨result, t⟩
  simp only [bind, ExceptT.bind, ExceptT.mk, StateT.bind, hresult]
  cases result <;> rfl

theorem attempt_bind_apply {S : Type} (act : Act S α) (next : Except Fault α → Act S β) (s : S) :
    (attempt act >>= next) s = next (act s).1 (act s).2 := by
  rw [bind_apply]
  rfl

/-- The last act is done in the state that the first one leaves, however that ends. -/
theorem ensuring_state {S : Type} (act : Act S α) (last : Act S Unit) (s : S) :
    (ensuring act last s).2 = (last (act s).2).2 := by
  rw [ensuring, attempt_bind_apply, bind_apply]
  rcases last (act s).2 with ⟨result, t⟩
  cases result <;> rfl

end Act

namespace Browser

def after (b : Browser σ) : List Call → σ → σ
  | [], state => state
  | call :: rest, state => b.after rest (b.answer call state).2

/-- The fault in which a call ends, if it ends in one. -/
def fault? (b : Browser σ) (call : Call) (state : σ) : Option Fault :=
  match (b.answer call state).1 with
  | .ok _ => none
  | .error fault => some fault

def faults (b : Browser σ) : List Call → σ → List Fault
  | [], _ => []
  | call :: rest, state =>
      (b.fault? call state).toList ++ b.faults rest (b.answer call state).2

theorem fault?_of_error {b : Browser σ} {call : Call} {state : σ} {fault : Fault}
    (herror : (b.answer call state).1 = .error fault) : b.fault? call state = some fault := by
  rw [fault?, herror]

theorem after_append (b : Browser σ) (first second : List Call) (state : σ) :
    b.after (first ++ second) state = b.after second (b.after first state) := by
  induction first generalizing state with
  | nil => rfl
  | cons call rest ih => exact ih _

theorem faults_append (b : Browser σ) (first second : List Call) (state : σ) :
    b.faults (first ++ second) state =
      b.faults first state ++ b.faults second (b.after first state) := by
  induction first generalizing state with
  | nil => rfl
  | cons call rest ih =>
      rw [List.cons_append, faults, ih, faults, List.append_assoc]
      rfl

end Browser

end Session

namespace Run

open Session

/-- Exactly these calls were made between two surroundings. Reports and names for screenshots are
left open. -/
structure Conversation (b : Browser σ) (calls : List Call) (s t : Surroundings σ) : Prop where
  events : t.events = s.events ++ calls.map .called
  browser : t.browser = b.after calls s.browser

namespace Conversation

theorem silent (b : Browser σ) {s t : Surroundings σ} (hevents : t.events = s.events)
    (hbrowser : t.browser = s.browser) : Conversation b [] s t :=
  ⟨by rw [hevents, List.map_nil, List.append_nil], hbrowser⟩

theorem append {b : Browser σ} {first second : List Call} {s t u : Surroundings σ}
    (hfirst : Conversation b first s t) (hsecond : Conversation b second t u) :
    Conversation b (first ++ second) s u := by
  constructor
  · rw [hsecond.events, hfirst.events, List.map_append, List.append_assoc]
  · rw [hsecond.browser, hfirst.browser, Browser.after_append]

end Conversation

/-- Every call that is made is answered by the browser in its present state. -/
theorem ask_conversation (b : Browser σ) (call : Call) (s : Surroundings σ) :
    Conversation b [call] s (ask b call s).2 :=
  ⟨rfl, rfl⟩

theorem ask_result (b : Browser σ) (call : Call) (s : Surroundings σ) :
    (ask b call s).1 = (b.answer call s.browser).1 :=
  rfl

/-- Calls that close nothing lead from one surroundings to others, and every fault of the given sort
is an interruption in which one of these calls ended. -/
def StaysOpen (b : Browser σ) (s t : Surroundings σ) (raised : Fault → Prop) : Prop :=
  ∃ calls, .close ∉ calls ∧ Conversation b calls s t ∧
    ∀ fault, raised fault → fault ∈ b.faults calls s.browser ∧ fault.isInterrupt = true

namespace StaysOpen

variable {b : Browser σ} {s t u : Surroundings σ} {raised later : Fault → Prop}

theorem silent (hevents : t.events = s.events) (hbrowser : t.browser = s.browser)
    (hraised : ∀ fault, ¬raised fault) : StaysOpen b s t raised :=
  ⟨[], List.not_mem_nil, .silent b hevents hbrowser,
    fun fault hfault => absurd hfault (hraised fault)⟩

theorem mono (hopen : StaysOpen b s t raised) (himp : ∀ fault, later fault → raised fault) :
    StaysOpen b s t later := by
  obtain ⟨calls, hclose, htalk, hfaults⟩ := hopen
  exact ⟨calls, hclose, htalk, fun fault hfault => hfaults fault (himp fault hfault)⟩

/-- Calls one after another that leave the session open do so together. -/
theorem append (hfirst : StaysOpen b s t raised) (hsecond : StaysOpen b t u later) :
    StaysOpen b s u (fun fault => raised fault ∨ later fault) := by
  obtain ⟨first, hclose, htalk, hfaults⟩ := hfirst
  obtain ⟨second, hclose', htalk', hfaults'⟩ := hsecond
  refine ⟨first ++ second, ?_, htalk.append htalk', ?_⟩
  · rw [List.mem_append, not_or]
    exact ⟨hclose, hclose'⟩
  · intro fault hfault
    rw [Browser.faults_append, ← htalk.browser, List.mem_append]
    cases hfault with
    | inl hraised => exact ⟨Or.inl (hfaults fault hraised).1, (hfaults fault hraised).2⟩
    | inr hlater => exact ⟨Or.inr (hfaults' fault hlater).1, (hfaults' fault hlater).2⟩

/-- What comes after counts alone when the first part raised nothing that matters. -/
theorem followed (hfirst : StaysOpen b s t raised) (hsecond : StaysOpen b t u later) :
    StaysOpen b s u later :=
  (hfirst.append hsecond).mono fun _ hfault => Or.inr hfault

end StaysOpen

/-- The interruption in which an act ended, if it ended in one. -/
def Interrupts (result : Except Fault α) (fault : Fault) : Prop :=
  result = .error fault ∧ fault.isInterrupt = true

/-- An act that leaves the session open, and is interrupted only when a call of its own is. -/
def KeepsOpen (b : Browser σ) (act : Act (Surroundings σ) α) : Prop :=
  ∀ s, StaysOpen b s (act s).2 (Interrupts (act s).1)

namespace KeepsOpen

variable {b : Browser σ}

theorem pure (a : α) : KeepsOpen b (pure a : Act (Surroundings σ) α) :=
  fun _ => .silent rfl rfl fun _ hraised => nomatch hraised.1

theorem throw {fault : Fault} (hfault : fault.isInterrupt = false) :
    KeepsOpen b (throw fault : Act (Surroundings σ) α) := by
  intro s
  apply StaysOpen.silent rfl rfl
  rintro raised ⟨herror, hinterrupt⟩
  cases herror
  rw [hfault] at hinterrupt
  exact absurd hinterrupt Bool.false_ne_true

theorem tell (level : Level) (text : String) :
    KeepsOpen b (tell level text : Act (Surroundings σ) Unit) :=
  fun _ => .silent rfl rfl fun _ hraised => nomatch hraised.1

theorem choosePath (directory label : String) (file : Option String) :
    KeepsOpen b (choosePath directory label file : Act (Surroundings σ) _) :=
  fun _ => .silent rfl rfl fun _ hraised => nomatch hraised.1

/-- Each call but the closing one leaves the session open. -/
theorem ask {call : Call} (hcall : call ≠ .close) : KeepsOpen b (ask b call) := by
  intro s
  refine ⟨[call], ?_, ask_conversation b call s, ?_⟩
  · rw [List.mem_singleton]
    exact hcall.symm
  · rintro fault ⟨herror, hinterrupt⟩
    rw [ask_result] at herror
    rw [Browser.faults, Browser.fault?_of_error herror]
    exact ⟨List.mem_cons_self, hinterrupt⟩

/-- Acts one after another that leave the session open do so together. -/
theorem bind {act : Act (Surroundings σ) α} {next : α → Act (Surroundings σ) β}
    (hact : KeepsOpen b act) (hnext : ∀ a, KeepsOpen b (next a)) :
    KeepsOpen b (act >>= next) := by
  intro s
  have hfirst := hact s
  rw [Act.bind_apply]
  rcases hresult : act s with ⟨result, t⟩
  rw [hresult] at hfirst
  cases result with
  | ok a => exact hfirst.followed (hnext a t)
  | error fault =>
      apply hfirst.mono
      rintro raised ⟨herror, hinterrupt⟩
      cases herror
      exact ⟨rfl, hinterrupt⟩

/-- An act whose failure is looked at. What follows has to pass an interruption on, and may do
anything about another fault. -/
theorem recover {act : Act (Surroundings σ) α} {next : Except Fault α → Act (Surroundings σ) β}
    (hact : KeepsOpen b act) (hok : ∀ a, KeepsOpen b (next (.ok a)))
    (hfault : ∀ fault, fault.isInterrupt = false → KeepsOpen b (next (.error fault)))
    (hinterrupt : ∀ fault, fault.isInterrupt = true →
      next (.error fault) = MonadExcept.throw fault) :
    KeepsOpen b (attempt act >>= next) := by
  intro s
  have hfirst := hact s
  rw [Act.attempt_bind_apply]
  rcases hresult : act s with ⟨result, t⟩
  rw [hresult] at hfirst
  cases result with
  | ok a => exact hfirst.followed (hok a t)
  | error fault =>
      cases hraised : fault.isInterrupt with
      | false => exact hfirst.followed (hfault fault hraised t)
      | true =>
          -- The interruption goes on, so it is still that of the act that was looked at.
          rw [hinterrupt fault hraised]
          apply hfirst.mono
          rintro raised ⟨herror, _⟩
          cases herror
          exact ⟨rfl, hraised⟩

end KeepsOpen

end Run

end Clickpath
