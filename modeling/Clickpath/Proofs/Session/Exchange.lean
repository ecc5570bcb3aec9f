import Clickpath.Proofs.Session.Conversation

/-! # Exchanges

A conversation with the replies: calls, and what was answered to each in the state that the ones
before it left. Sessions and the drivers behind them answer alike, so neither is named here.
-/

namespace Clickpath

variable {σ C : Type} {Reply : C → Type}

namespace Session

structure Exchange (Reply : C → Type) where
  call : C
  reply : Except Fault (Reply call)

/-- Exchanges that take place one after another and lead from one state to another. -/
inductive Exchanges (answer : (call : C) → σ → Except Fault (Reply call) × σ) :
    σ → List (Exchange Reply) → σ → Prop
  | nil {state : σ} : Exchanges answer state [] state
  | cons {state next last : σ} {call : C} {reply : Except Fault (Reply call)}
      {rest : List (Exchange Reply)} (hreply : answer call state = (reply, next))
      (hrest : Exchanges answer next rest last) :
      Exchanges answer state (⟨call, reply⟩ :: rest) last

namespace Exchanges

variable {answer : (call : C) → σ → Except Fault (Reply call) × σ} {state next last : σ}
  {first second : List (Exchange Reply)}

theorem single (call : C) (state : σ) :
    Exchanges answer state [⟨call, (answer call state).1⟩] (answer call state).2 :=
  .cons rfl .nil

theorem append (hfirst : Exchanges answer state first next)
    (hsecond : Exchanges answer next second last) :
    Exchanges answer state (first ++ second) last := by
  induction hfirst with
  | nil => exact hsecond
  | cons hreply _ ih => exact .cons hreply (ih hsecond)

end Exchanges

/-- What was exchanged with a browser leaves it in the state after these calls. -/
theorem Exchanges.eq_after {b : Browser σ} {state last : σ} {log : List (Exchange Call.Reply)}
    (hlog : Exchanges b.answer state log last) : last = b.after (log.map (·.call)) state := by
  induction hlog with
  | nil => rfl
  | cons hreply _ ih => rw [ih, List.map_cons, Browser.after, hreply]

/-- The element that a call works on, if it works on one. -/
def Call.worksOn? : Call → Option Selector
  | click target | typeText target _ | readText target => some target
  | _ => none

/-- Logs in which every call that works on an element comes directly behind a count of that element
which was not zero. -/
inductive Guarded : List (Exchange Call.Reply) → Prop
  | nil : Guarded []
  | free {call : Call} {reply : Except Fault call.Reply} {rest : List (Exchange Call.Reply)}
      (hcall : call.worksOn? = none) (hrest : Guarded rest) : Guarded (⟨call, reply⟩ :: rest)
  | counted {target : Selector} {count : Int} {call : Call} {reply : Except Fault call.Reply}
      {rest : List (Exchange Call.Reply)} (hcount : count ≠ 0)
      (hcall : call.worksOn? = some target) (hrest : Guarded rest) :
      Guarded (⟨.count target, .ok count⟩ :: ⟨call, reply⟩ :: rest)

theorem Guarded.append {first second : List (Exchange Call.Reply)} (hfirst : Guarded first)
    (hsecond : Guarded second) : Guarded (first ++ second) := by
  induction hfirst with
  | nil => exact hsecond
  | free hcall _ ih => exact .free hcall ih
  | counted hcount hcall _ ih => exact .counted hcount hcall ih

end Session

namespace Run

open Session

/-- Exactly these exchanges took place between two surroundings. -/
structure Exchanged (b : Browser σ) (log : List (Exchange Call.Reply)) (s t : Surroundings σ) :
    Prop where
  events : t.events = s.events ++ log.map fun exchange => .called exchange.call
  browser : Exchanges b.answer s.browser log t.browser

namespace Exchanged

variable {b : Browser σ} {s t u : Surroundings σ} {first second : List (Exchange Call.Reply)}

theorem silent (hevents : t.events = s.events) (hbrowser : t.browser = s.browser) :
    Exchanged b [] s t :=
  ⟨by simpa using hevents, hbrowser ▸ .nil⟩

theorem append (hfirst : Exchanged b first s t) (hsecond : Exchanged b second t u) :
    Exchanged b (first ++ second) s u := by
  refine ⟨?_, hfirst.browser.append hsecond.browser⟩
  rw [hsecond.events, hfirst.events, List.map_append, List.append_assoc]

theorem conversation (hlog : Exchanged b first s t) :
    Conversation b (first.map (·.call)) s t :=
  ⟨by rw [hlog.events, List.map_map]; rfl, hlog.browser.eq_after⟩

theorem ask (b : Browser σ) (call : Call) (s : Surroundings σ) :
    Exchanged b [⟨call, (Run.ask b call s).1⟩] s (Run.ask b call s).2 :=
  ⟨rfl, .single call s.browser⟩

end Exchanged

end Run

end Clickpath
