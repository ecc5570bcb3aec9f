import Clickpath.Record.Designer
import Clickpath.Scenario.Line

/-! # Scenarios

A scenario is a text with one step to a line. Blank lines and comments are passed over, and lines
that no step can be read from are reported and left out. Each step goes by the name of its line.
-/

namespace Clickpath.Scenario

open Record

/-- A line that no step could be read from. -/
structure Warning where
  number : Nat
  line : String
  deriving DecidableEq, Repr

def Warning.message (w : Warning) : String :=
  "Skipping unrecognised scenario line " ++ toString w.number ++ ": " ++ w.line

/-- What the lines of a scenario give: the warnings in order, and the steps unless a line made a
faulty one. -/
structure Reading where
  warnings : List Warning
  steps : Except Fault (List Step)

def Reading.warn (warning : Warning) (r : Reading) : Reading :=
  { r with warnings := warning :: r.warnings }

def Reading.push (step : Step) (r : Reading) : Reading :=
  { r with steps := r.steps.map (step :: ·) }

inductive LineMeaning where
  | nothing
  | unrecognised
  | step (kind : StepKind) (line : Line)

def meaning (line : List Char) : LineMeaning :=
  match line with
  | [] => .nothing
  | '#' :: _ => .nothing
  | _ =>
    match Line.read? line with
    | none => .unrecognised
    | some parts =>
      match Designer.kindOfKeyword? (String.ofList (Chars.upper parts.keyword)) with
      | none => .unrecognised
      | some kind => .step kind parts

/-- A part of a line as a datum, if it stands for anything. -/
def partDatum? (token : Option (List Char)) : Option Datum :=
  (token.bind unquote?).map fun s => .text (String.ofList s)

/-- The step that the parts of a line make, under the name of the line. -/
def stepOf (kind : StepKind) (name : List Char) (parts : Line) : Supplied Step :=
  Designer.build kind (.text (String.ofList name)) (partDatum? parts.target)
    (parts.strategy.map fun s => .text (String.ofList s)) (partDatum? parts.value)

/-- Reads lines in order, the first of which has the given number. -/
def readLines : Nat → List (List Char) → Supply → Reading × Supply
  | _, [], supply => (⟨[], .ok []⟩, supply)
  | number, line :: rest, supply =>
    let line := Chars.trim line
    match meaning line with
    | .nothing => readLines (number + 1) rest supply
    | .unrecognised =>
      let (reading, supply) := readLines (number + 1) rest supply
      (reading.warn ⟨number, String.ofList line⟩, supply)
    | .step kind parts =>
      match stepOf kind line parts supply with
      | (.error fault, supply) => (⟨[], .error fault⟩, supply)
      | (.ok step, supply) =>
        let (reading, supply) := readLines (number + 1) rest supply
        (reading.push step, supply)

def read (text : String) (supply : Supply) : Reading × Supply :=
  readLines 1 (Chars.lines text.toList) supply

/-- The test that a scenario text makes under a name, for a script target. -/
def toTest (text name tool platform : String) (supply : Supply) :
    (List Warning × Except Fault Test) × Supply :=
  let (reading, supply) := read text supply
  match reading.steps with
  | .error fault => ((reading.warnings, .error fault), supply)
  | .ok steps =>
    let (id, supply) := supply.freshId
    ((reading.warnings, .ok ⟨id, name, steps, tool, platform, supply.now⟩), supply)

end Clickpath.Scenario
