import Clickpath.Moment
import Clickpath.Step

/-! # Tests

A test is a named sequence of steps, with the script target that it is meant for.
-/

namespace Clickpath

structure Test (τ : Type := String) where
  id : τ
  name : τ
  steps : List (Step τ)
  tool : τ
  platform : τ
  created : Moment
  deriving DecidableEq

namespace Test

def defaultTool : String := "playwright"

def defaultPlatform : String := "javascript"

def map (f : α → β) (t : Test α) : Test β :=
  ⟨f t.id, f t.name, t.steps.map (·.map f), f t.tool, f t.platform, t.created⟩

def allComparable : List (Test τ) → Bool
  | [] => true
  | test :: rest => rest.all fun other => test.created.comparable other.created

/-- The tests from the newest to the oldest; tests of one moment keep their order. -/
def newestFirst (tests : List (Test τ)) : List (Test τ) :=
  tests.mergeSort fun a b => b.created.orderKey ≤ a.created.orderKey

end Test

end Clickpath
