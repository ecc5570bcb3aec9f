import Clickpath.Driver
import Clickpath.Selector.Native
import Clickpath.Settings

/-! # Pages of a driver

A page of a browser driver serves as a session. Opening it starts the driver, and closing it stops
the driver, also when something fails in between.
-/

namespace Clickpath.Driver

open Session

/-- The options that a user leaves or changes; an empty name and a timeout of zero change
nothing. -/
def Options.ofSettings (settings : Settings) (browser : Option String) (headless : Option Bool)
    (timeout : Option Int) : Options where
  browser := (browser.bind Text.nonempty?).getD settings.browser
  headless := headless.getD settings.headless
  timeout := match timeout with
    | none | some 0 => settings.stepTimeout
    | some millis => millis

namespace Page

def prepare (d : Driver σ) (o : Options) : Act (Client σ) Unit := do
  d.ask (.find o.browser)
  d.ask (.launch o.browser o.headless)
  d.ask .newContext
  d.ask .newPage
  d.ask (.setTimeout o.timeout)

/-- Opens a page. The driver is stopped again if that fails. -/
def acquire (d : Driver σ) (o : Options) : Act (Client σ) Unit := do
  d.ask .start
  match ← attempt (prepare d o) with
  | .ok () => return
  | .error fault =>
    if !fault.isInterrupt then d.ask .stop
    throw fault

def navigate (d : Driver σ) (url : String) : Act (Client σ) Unit := do
  match ← attempt (d.ask (.goto (some url))) with
  | .ok () => return
  | .error fault =>
    if fault.isOfDriver then
      throw ⟨.navigation, "Could not load " ++ url ++ ": " ++ fault.message, none⟩
    throw fault

/-- Counts the elements that match, none if the wait for the first one is given up. -/
def count (d : Driver σ) (selector : String) : Act (Client σ) Int := do
  d.ask (.locate selector)
  match ← attempt (d.ask (.waitFor selector)) with
  | .ok () => d.ask (.count selector)
  | .error fault =>
    if fault.kind = .timeout then return 0
    throw fault

def close (d : Driver σ) : Act (Client σ) Unit := ensuring (d.ask .closeBrowser) (d.ask .stop)

def answer (d : Driver σ) : (call : Session.Call) → Act (Client σ) call.Reply
  | .navigate url => navigate d url
  | .count target => count d target.native
  | .click target => do
    d.ask (.locate target.native)
    d.ask (.click target.native)
  | .typeText target text => do
    d.ask (.locate target.native)
    d.ask (.press text target.native)
  | .readText target => do
    d.ask (.locate target.native)
    d.ask (.innerText target.native)
  | .screenshot path => d.ask (.screenshot path)
  | .close => close d

end Page

/-- The pages of a driver as sessions. -/
def sessions (d : Driver σ) (o : Options) : Browser (Client σ) where
  acquire := Page.acquire d o
  answer := Page.answer d

end Clickpath.Driver
