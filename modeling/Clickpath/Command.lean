import Clickpath.Arguments
import Clickpath.Decimal.Reader
import Clickpath.Locator.Inference

/-! # Commands

The command line has five commands: to generate a script for a test, to run a test, to locate an
element, to parse a scenario, and to list tests. Each has options of its own.
-/

namespace Clickpath

open Arguments

/-- Where tests are looked up by their identifiers; an address counts more than a directory. -/
structure Source where
  directory : Option String
  url : Option String
  deriving DecidableEq

/-- An element to locate: one with a tag in a file, or one that a selector matches on a page. What
was left out and what was left empty are not the same. -/
structure LocateRequest where
  url : Option String
  file : Option String
  selector : Option String
  tag : Option String
  position : Int
  strategy : SelectorKind
  mode : Locator.PathMode
  deriving DecidableEq

/-- A scenario to parse, or a description if a language model is to help, and where the test
goes. -/
structure ParseRequest where
  file : String
  name : Option String
  tool : String
  platform : String
  withModel : Bool
  directory : Option String
  output : Option String
  deriving DecidableEq

inductive Command where
  | generate (test : String) (source : Source) (tool platform output : Option String)
  | run (test : String) (source : Source) (screenshots : Option String) (headed : Bool)
  | locate (request : LocateRequest)
  | parse (request : ParseRequest)
  | list (source : Source)
  deriving DecidableEq

namespace Command

/-- A command, or none, and how much is to be reported. -/
structure Invocation where
  verbosity : Nat
  command : Option Command
  deriving DecidableEq

/-! ## Grammars -/

def leadingSpecs : List Spec := helpSpecs ++ [.flag "-v", .flag "--verbose"]

def sourceSpecs : List Spec := [.value "--tests-dir", .value "--api-url"]

def generateGrammar : Grammar :=
  ⟨helpSpecs ++ sourceSpecs ++ [.value "--tool", .value "--platform", .value "--output"], true, []⟩

def runGrammar : Grammar :=
  ⟨helpSpecs ++ sourceSpecs ++ [.value "--screenshots-dir", .flag "--headed"], true, []⟩

/-- A whole number, as far as the command line can tell. -/
def isWhole (s : String) : Bool := (Decimal.readWhole? 10 s.toList).isSome

def locateGrammar : Grammar :=
  ⟨helpSpecs ++
    [⟨"--url", true, fun _ => true, ["--html"]⟩, ⟨"--html", true, fun _ => true, ["--url"]⟩,
     .value "--selector", .value "--tag", ⟨"--nth", true, isWhole, []⟩,
     ⟨"--kind", true, (SelectorKind.all.map (·.label)).contains, []⟩,
     ⟨"--xpath-mode", true, (Locator.PathMode.all.map (·.label)).contains, []⟩],
   false, ["--url", "--html"]⟩

def parseGrammar : Grammar :=
  ⟨helpSpecs ++ [.value "--name", .value "--tool", .value "--platform", .flag "--llm",
    .value "--tests-dir", .value "--output"], true, []⟩

def listGrammar : Grammar := ⟨helpSpecs ++ sourceSpecs, false, []⟩

/-! ## Reading -/

/-- The source of tests that was given; an empty one is none. -/
def sourceOf (g : Given) : Source :=
  ⟨(g.value? "--tests-dir").bind Text.nonempty?, (g.value? "--api-url").bind Text.nonempty?⟩

def locateRequestOf (g : Given) : LocateRequest where
  url := g.value? "--url"
  file := g.value? "--html"
  selector := g.value? "--selector"
  tag := g.value? "--tag"
  position := ((g.value? "--nth").bind fun s => Decimal.readWhole? 10 s.toList).getD 1
  strategy := ((g.value? "--kind").bind SelectorKind.ofLabel?).getD .css
  mode := ((g.value? "--xpath-mode").bind Locator.PathMode.ofLabel?).getD .relative

def parseRequestOf (g : Given) : ParseRequest where
  file := g.operand.getD ""
  name := (g.value? "--name").bind Text.nonempty?
  tool := (g.value? "--tool").getD "playwright"
  platform := (g.value? "--platform").getD "javascript"
  withModel := g.has "--llm"
  directory := (g.value? "--tests-dir").bind Text.nonempty?
  output := (g.value? "--output").bind Text.nonempty?

/-- The commands by name: their options, and what they make of what was given. -/
def table : List (String × Grammar × (Given → Command)) :=
  [("generate", generateGrammar, fun g => .generate (g.operand.getD "") (sourceOf g)
      (g.value? "--tool") (g.value? "--platform") ((g.value? "--output").bind Text.nonempty?)),
   ("run", runGrammar, fun g => .run (g.operand.getD "") (sourceOf g)
      ((g.value? "--screenshots-dir").bind Text.nonempty?) (g.has "--headed")),
   ("locate", locateGrammar, fun g => .locate (locateRequestOf g)),
   ("parse", parseGrammar, fun g => .parse (parseRequestOf g)),
   ("list", listGrammar, fun g => .list (sourceOf g))]

def read (args : List String) : Except Refusal Invocation := do
  let (leading, rest) ← readLeading leadingSpecs args
  match rest with
  | [] => if leading.surplus then .error .wrong else .ok ⟨leading.options.length, none⟩
  | name :: args =>
    match table.lookup name with
    | none => .error .wrong
    | some (grammar, make) => do
      let g ← Arguments.read grammar args
      if g.surplus || leading.surplus then .error .wrong
      else .ok ⟨leading.options.length, some (make g)⟩

def isFilled (s : Option String) : Bool := (s.bind Text.nonempty?).isSome

/-- The element to locate is said in a way that makes sense. -/
def LocateRequest.isSound (r : LocateRequest) : Bool :=
  !(isFilled r.url && !isFilled r.selector) && !(isFilled r.file && !isFilled r.tag)
    && 1 ≤ r.position

def isSound : Command → Bool
  | locate request => LocateRequest.isSound request
  | _ => true

def helpLines : List String :=
  ["usage: stepflow [-h] [-v] \x7bgenerate,run,locate,parse,list\x7d ...",
   "",
   "Replay UI tests or compile them to automation scripts",
   "",
   "positional arguments:",
   "  \x7bgenerate,run,locate,parse,list\x7d",
   "                        Available commands",
   "    generate            Generate an automation script for a test",
   "    run                 Replay a test in a live browser",
   "    locate              Infer a locator for an element",
   "    parse               Build a test from scenario text",
   "    list                List stored tests",
   "",
   "options:",
   "  -h, --help            show this help message and exit",
   "  -v, --verbose         Increase log output (-v, -vv)"]

def help : String := "\n".intercalate helpLines ++ "\n"

end Command

end Clickpath
