import Clickpath.Json.Literal
import Clickpath.Selector.Native
import Clickpath.Test

/-! # Scripts

A script plays a test in an automation tool: a preamble, a block for each step and a postamble. A
block is a comment that names the step and the statements for its action. What a test brings into a
statement stands in string literals only, so a statement is kept as code and literals apart until it
is written.
-/

namespace Clickpath.Script

inductive Piece where
  | code (text : String)
  | literal (text : String)
  deriving DecidableEq, Repr

abbrev Statement := List Piece

/-- The text of a part. Literals are limited to ASCII where the target asks for it. -/
def Piece.write (ascii : Bool) : Piece → String
  | code text => text
  | literal text => Json.literal ascii text

def Statement.write (ascii : Bool) (s : Statement) : String :=
  String.join (s.map (Piece.write ascii))

structure Emitter where
  /-- The tool and the language, as in `selenium/java`. -/
  name : String
  commentMark : String
  indent : String
  asciiLiterals : Bool
  /-- The statement of a script without steps, if it needs one. -/
  emptyBody : Option String
  preamble : Test → List String
  postamble : Test → List String
  /-- The expression that finds an element. -/
  locator : Selector → Statement
  /-- The statements for an action. -/
  statements : Action → List Statement

/-- The label of a step: its name without backslashes and with single spaces between its words, or
else its kind. A backslash could open a letter code even inside a comment. -/
def stepLabel (step : Step) : String :=
  let kept := step.name.toList.filter (· != '\\')
  match Chars.words Chars.isBlank kept with
  | [] => step.kind.label
  | words => " ".intercalate (words.map String.ofList)

namespace Emitter

def comment (e : Emitter) (number : Nat) (step : Step) : String :=
  e.indent ++ e.commentMark ++ " Step " ++ toString number ++ ": " ++ stepLabel step

def statementLines (e : Emitter) (step : Step) : List String :=
  (e.statements step.action).map fun s => e.indent ++ Statement.write e.asciiLiterals s

def block (e : Emitter) (number : Nat) (step : Step) : List String :=
  e.comment number step :: e.statementLines step

def blocks (e : Emitter) : Nat → List Step → List String
  | _, [] => []
  | number, step :: rest => e.block number step ++ e.blocks (number + 1) rest

def body (e : Emitter) (steps : List Step) : List String :=
  match steps, e.emptyBody with
  | [], some statement => [e.indent ++ statement]
  | steps, _ => e.blocks 1 steps

def lines (e : Emitter) (test : Test) : List String :=
  e.preamble test ++ e.body test.steps ++ e.postamble test

def emit (e : Emitter) (test : Test) : String := "\n".intercalate (e.lines test) ++ "\n"

def locatorText (e : Emitter) (s : Selector) : String :=
  Statement.write e.asciiLiterals (e.locator s)

end Emitter

end Clickpath.Script
