import Clickpath.Driver
import Clickpath.Locator.Record

/-! # Capturing elements

An element of a live page is described by the driver, and its snapshot is made of the description.
-/

namespace Clickpath.Driver

open Session

/-- A snapshot, or the rules that a description breaks. -/
abbrev Captured := Record.Checked Locator.Snapshot

def noElement (selector : Option String) (address : String) : Fault :=
  ⟨.unresolved, "No element matches '" ++ selector.getD "None" ++ "' on " ++ address, none⟩

def capture (d : Driver σ) (selector : Option String) : Act (Client σ) Captured := do
  let found : Bool ← d.ask (.query selector)
  if !found then throw (noElement selector (← d.ask .address))
  let description : Datum ← ensuring (d.ask .describe) (d.ask .dispose)
  return Locator.Snapshot.ofDatum description

/-- Captures an element of the page at an address, with a driver and a browser only for that. -/
def captureAt (d : Driver σ) (o : Options) (url selector : Option String) :
    Act (Client σ) Captured := do
  d.ask .start
  ensuring (do
    d.ask (.find o.browser)
    d.ask (.launch o.browser o.headless)
    ensuring (do
      d.ask .newPage
      d.ask (.goto url)
      capture d selector) (d.ask .closeBrowser)) (d.ask .stop)

end Clickpath.Driver
