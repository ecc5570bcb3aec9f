import Clickpath.Screenshot
import Clickpath.Session

/-! # Surroundings of a run

A run calls a browser, takes screenshots and reports what it does. All that it changes beside itself
is in its surroundings.
-/

namespace Clickpath.Run

open Session Screenshot

inductive Level where
  | debug
  | info
  | warning
  | error
  deriving DecidableEq, Repr

/-- What a run works on: the browser, the place of screenshots, what happened between runs and the
browser, and the reports, both in order. -/
structure Surroundings (σ : Type) where
  browser : σ
  gallery : Gallery
  events : List Event
  reports : List (Level × String)

def report (level : Level) (text : String) : StateM (Surroundings σ) Unit :=
  modify fun s => { s with reports := s.reports ++ [(level, text)] }

def tell (level : Level) (text : String) : Act (Surroundings σ) Unit :=
  ExceptT.lift (report level text)

def acquire (b : Browser σ) : Act (Surroundings σ) Unit := fun s =>
  let (given, browser) := b.acquire s.browser
  let events := match given with
    | .ok () => s.events ++ [.requested, .acquired]
    | .error _ => s.events ++ [.requested]
  (given, { s with browser := browser, events := events })

def ask (b : Browser σ) (call : Call) : Act (Surroundings σ) call.Reply := fun s =>
  let (reply, browser) := b.answer call s.browser
  (reply, { s with browser := browser, events := s.events ++ [.called call] })

def choosePath (directory label : String) (file : Option String) :
    Act (Surroundings σ) (Except Disk.Fault String) := fun s =>
  let (path, gallery) := s.gallery.pathFor directory label file
  (.ok path, { s with gallery := gallery })

end Clickpath.Run
