import Clickpath.Step

/-! # Browser sessions

A session is one live page that belongs to one run. It is asked for, called a number of times and
closed. Every call can fail, and a user can interrupt the program during any of them. How sessions
answer is left open: whatever remembers between calls is the state of the browser.
-/

namespace Clickpath.Session

inductive FaultKind where
  /-- A user wants the program to end. -/
  | interrupt
  /-- A step failed. -/
  | step
  /-- No element is there for a step. -/
  | unresolved
  /-- A text is not what a step expects. -/
  | unexpectedText
  /-- A page did not load. -/
  | navigation
  /-- The browser driver failed. -/
  | browser
  /-- The browser driver gave up waiting. -/
  | timeout
  /-- There is no browser of this name. -/
  | noSuchBrowser
  /-- The operating system failed, with a number if it gave one. -/
  | system (number : Option Nat)
  /-- Anything else, by the name of its sort. -/
  | other (name : String)
  deriving DecidableEq, Repr

/-- A failure, what is said of it, and the place of the step that it belongs to, if that is
known. -/
structure Fault where
  kind : FaultKind
  message : String
  stepIndex : Option Int
  deriving DecidableEq, Repr

def Fault.isInterrupt (f : Fault) : Bool := f.kind == .interrupt

/-- A failure of a step, as opposed to one that a step ran into. -/
def Fault.isOfStep (f : Fault) : Bool :=
  match f.kind with
  | .step | .unresolved | .unexpectedText | .navigation => true
  | _ => false

def Fault.isOfDriver (f : Fault) : Bool :=
  match f.kind with
  | .browser | .timeout => true
  | _ => false

/-- A part of a program that changes a state and can fail. What it changed stays changed. -/
abbrev Act (S α : Type) := ExceptT Fault (StateM S) α

/-- Does an act to learn how it ends, so that its fault can be looked at. -/
def attempt (act : Act S α) : Act S (Except Fault α) := fun s =>
  let (result, s) := act s
  (.ok result, s)

/-- Does an act and then a last one, however the first ends. A fault of the last one counts more. -/
def ensuring (act : Act S α) (last : Act S Unit) : Act S α := do
  let result ← attempt act
  last
  result

inductive Call where
  | navigate (url : String)
  /-- Counts the elements that match, after waiting for the first. -/
  | count (target : Selector)
  | click (target : Selector)
  | typeText (target : Selector) (text : String)
  | readText (target : Selector)
  | screenshot (path : String)
  | close
  deriving DecidableEq

def Call.Reply : Call → Type
  | count _ => Int
  | readText _ => String
  | _ => Unit

/-- A source of sessions, at most one of which is open at a time: what becomes of a request for one,
and of a call on the one that is open. -/
structure Browser (σ : Type) where
  acquire : σ → Except Fault Unit × σ
  answer : (call : Call) → σ → Except Fault call.Reply × σ

inductive Event where
  | requested
  | acquired
  | called (call : Call)
  deriving DecidableEq

/-- The calls on each session that was acquired, in order, given those on the one that is open. -/
def callsFrom (current : Option (List Call)) : List Event → List (List Call)
  | [] => current.toList
  | .requested :: rest => callsFrom current rest
  | .acquired :: rest => current.toList ++ callsFrom (some []) rest
  | .called call :: rest => callsFrom (some (current.getD [] ++ [call])) rest

/-- The calls on each session that was acquired, in order. -/
def callsBySession (events : List Event) : List (List Call) := callsFrom none events

end Clickpath.Session
