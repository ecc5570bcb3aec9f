import Clickpath.Script.Java
import Clickpath.Script.JavaScript
import Clickpath.Script.Python

/-! # Script targets

Emitters are entered in a catalog under a tool and a platform, which letter case and blanks at the
ends do not tell apart. A test for a target without an emitter is answered with a comment.
-/

namespace Clickpath.Script

/-- A tool and a platform in the spelling of the catalog. -/
structure Target where
  tool : String
  platform : String
  deriving DecidableEq, Repr

/-- The target that a tool and a platform name in any spelling. -/
def Target.ofNames (tool platform : String) : Target :=
  ⟨Text.lower (Text.trim tool), Text.lower (Text.trim platform)⟩

/-- Targets are listed by tool, and those of one tool by platform. -/
def Target.le (a b : Target) : Bool :=
  if a.tool == b.tool then decide (a.platform ≤ b.platform) else decide (a.tool ≤ b.tool)

/-- The emitters by target; a target occurs once. -/
structure Catalog where
  entries : List (Target × Emitter)

structure Unsupported where
  tool : String
  platform : String
  deriving DecidableEq, Repr

def Unsupported.message (u : Unsupported) : String :=
  "Script generation for " ++ u.tool ++ " with " ++ u.platform ++ " is not implemented yet."

namespace Catalog

def enter (entries : List (Target × Emitter)) (target : Target) (e : Emitter) :
    List (Target × Emitter) :=
  match entries with
  | [] => [(target, e)]
  | entry :: rest =>
    if entry.1 = target then (target, e) :: rest else entry :: enter rest target e

def register (c : Catalog) (tool platform : String) (e : Emitter) : Catalog :=
  ⟨enter c.entries (.ofNames tool platform) e⟩

/-- The catalog of the four targets that are always there. -/
def standard : Catalog :=
  (((Catalog.mk []).register "selenium" "java" Java.selenium
    |>.register "selenium" "python" Python.selenium)
    |>.register "playwright" "javascript" JavaScript.playwright)
    |>.register "playwright" "python" Python.playwright

def targets (c : Catalog) : List Target := (c.entries.map (·.1)).mergeSort Target.le

def emitterFor (c : Catalog) (tool platform : String) : Except Unsupported Emitter :=
  match c.entries.lookup (.ofNames tool platform) with
  | some e => .ok e
  | none => .error ⟨tool, platform⟩

/-- The script for a test. A tool or platform that is not given is the test's own. -/
def compile (c : Catalog) (test : Test) (tool platform : Option String) : String :=
  let tool := (tool.bind Text.nonempty?).getD test.tool
  let platform := (platform.bind Text.nonempty?).getD test.platform
  match c.emitterFor tool platform with
  | .ok e => e.emit test
  | .error unsupported => "// " ++ unsupported.message

end Catalog

end Clickpath.Script
