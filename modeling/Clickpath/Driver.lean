import Clickpath.Datum
import Clickpath.Session

/-! # Browser drivers

A browser driver is a program that is started and stopped, launches a browser in between and works
on its page. Elements of the page go by a selector in the driver's own language. How a driver
answers is left open; the calls on it are kept in order.
-/

namespace Clickpath.Driver

open Session

inductive Call where
  | start
  /-- Looks a browser up by its name. -/
  | find (browser : String)
  | launch (browser : String) (headless : Bool)
  | newContext
  | newPage
  | setTimeout (millis : Int)
  /-- Loads the page at an address, which a user may have left out. -/
  | goto (url : Option String)
  /-- Addresses the elements that match a selector. -/
  | locate (selector : String)
  /-- Waits until an element is attached to the page. -/
  | waitFor (selector : String)
  | count (selector : String)
  | click (selector : String)
  | press (text selector : String)
  | innerText (selector : String)
  | screenshot (path : String)
  /-- Takes hold of the first element that matches what a user gave, and tells whether there is
  one. -/
  | query (selector : Option String)
  /-- The address of the page. -/
  | address
  /-- Describes the element that was taken hold of. -/
  | describe
  /-- Lets go of the element. -/
  | dispose
  | closeBrowser
  | stop
  deriving DecidableEq

def Call.Reply : Call → Type
  | count _ => Int
  | innerText _ => String
  | query _ => Bool
  | address => String
  | describe => Datum
  | _ => Unit

end Driver

/-- What becomes of a call on a driver. -/
structure Driver (σ : Type) where
  answer : (call : Driver.Call) → σ → Except Session.Fault call.Reply × σ

namespace Driver

open Session

structure Client (σ : Type) where
  state : σ
  calls : List Call

def ask (d : Driver σ) (call : Call) : Act (Client σ) call.Reply := fun c =>
  let (reply, state) := d.answer call c.state
  (reply, ⟨state, c.calls ++ [call]⟩)

/-- How a page is opened: in which browser, visibly or not, and with which patience in
milliseconds. -/
structure Options where
  browser : String
  headless : Bool
  timeout : Int

end Driver

end Clickpath
