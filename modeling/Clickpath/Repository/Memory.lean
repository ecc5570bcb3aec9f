import Clickpath.Repository

/-! # Tests in memory

The tests of a program that keeps them nowhere else. A test that is saved again keeps its place.
-/

namespace Clickpath.Repository

/-- Tests in the order in which their identifiers were first saved; an identifier occurs once. -/
structure Memory (τ : Type := String) where
  tests : List (Test τ)

namespace Memory

variable {τ : Type} [Textual τ] [DecidableEq τ]

def empty : Memory τ := ⟨[]⟩

/-- Enters a test, in the place of the one with its identifier. -/
def enter (test : Test τ) : List (Test τ) → List (Test τ)
  | [] => [test]
  | old :: rest => if old.id = test.id then test :: rest else old :: enter test rest

def save (m : Memory τ) (test : Test τ) : Memory τ := ⟨enter test m.tests⟩

def get (m : Memory τ) (id : τ) : Except Fault (Test τ) := testWithId m.tests id

def list (m : Memory τ) : Except Fault (List (Test τ)) := inOrder m.tests

def replaceSteps (m : Memory τ) (id : τ) (steps : Datum) : Except Fault (Test τ × Memory τ) := do
  let test ← m.get id
  let updated ← withSteps test steps
  .ok (updated, m.save updated)

end Memory

end Clickpath.Repository
