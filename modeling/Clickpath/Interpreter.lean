import Clickpath.Run

/-! # Interpreters

An interpreter makes runs of tests, all with sessions of one browser and with screenshots in one
directory.
-/

namespace Clickpath

structure Interpreter (σ : Type) where
  browser : Session.Browser σ
  directory : String

structure RunHandle where
  run : Run
  result : Except Session.Fault RunOutcome

namespace Interpreter

open Run Session

def start (i : Interpreter σ) (test : Test) : StateM (Surroundings σ) RunHandle := fun s =>
  let (run, supply) := Run.ofTest test s.gallery.supply
  let ((result, run), s) :=
    run.execute i.browser i.directory { s with gallery := { s.gallery with supply := supply } }
  (⟨run, result⟩, s)

def run (i : Interpreter σ) (test : Test) : Act (Surroundings σ) RunOutcome := do
  let handle ← i.start test
  handle.result

end Interpreter

end Clickpath
