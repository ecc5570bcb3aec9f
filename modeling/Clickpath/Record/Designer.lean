import Clickpath.Record.Tests

/-! # Designer records

A designer stores steps in a shape of its own: a keyword for the kind, and the target and its
strategy as two texts. Such a step is turned into a step of one of the five kinds; a step record
that names its kind is taken as it is.
-/

namespace Clickpath.Designer

open Record

variable {τ : Type} [Textual τ]

def keywords : List (String × StepKind) :=
  [("GOTO", .navigate), ("NAVIGATE", .navigate), ("OPEN", .navigate), ("CLICK", .click),
   ("TYPE", .typeText), ("TYPE_TEXT", .typeText), ("FILL", .typeText), ("ASSERT", .assertText),
   ("ASSERT_TEXT", .assertText), ("VERIFY_TEXT", .assertText), ("SCREENSHOT", .screenshot),
   ("TAKE_SCREENSHOT", .screenshot)]

def kindOfKeyword? (keyword : String) : Option StepKind := keywords.lookup keyword

def storedSelector (kind raw : Datum) : Except Fault (Option Selector) :=
  ((Selector.ofDatum (.ofFields [("kind", kind), ("raw", raw)])).map some).mapError .invalid

/-- The selector of a recorded strategy and value. A strategy that is not known stays part of the
value, which is then in the driver's own language. Bytes name no strategy. -/
def selectorOf (raw strategy : Option Datum) : Except Fault (Option Selector) :=
  match raw.bind Datum.truthy?, strategy.bind Datum.truthy? with
  | none, _ => .ok none
  | some raw, none => storedSelector .null raw
  | some raw, some strategy =>
    match strategy with
    | .text _ | .torn _ | .binary _ =>
      match strategy.string?.bind SelectorKind.ofLabelAnyCase? with
      | some kind => storedSelector (.text kind.label) raw
      | none =>
        if raw.isShowable then
          storedSelector .null (.ofLoose (strategy.displayed ++ .ofString "=" ++ raw.displayed))
        else .error .unshowable
    | _ => .error .notARecord

/-- The name of a capture that was given none: the reading of the clock makes it distinct. -/
def generatedName (millis : Int) : String := "screenshot-" ++ toString millis ++ ".png"

/-- The step of a kind from the parts that a designer records. Pages and captures are given in the
place of the target. -/
def build (kind : StepKind) (name : Datum) (target strategy value : Option Datum) :
    Supplied (Step τ) := do
  match kind with
  | .navigate => given (Step.ofParts kind name none (value.orElse fun _ => target))
  | .screenshot =>
    match value.orElse fun _ => target with
    | some file => given (Step.ofParts kind name none (some file))
    | none =>
      let millis ← readClock
      given (Step.ofParts kind name none (some (.text (generatedName millis))))
  | _ =>
    let selector ← given (selectorOf target strategy)
    given (Step.ofParts kind name selector value)

/-- Whether a datum holds a key or item of this name; a text holds the names that occur in it. -/
def holds (d : Datum) (name : String) : Except Fault Bool :=
  match d with
  | .map entries => .ok (Datum.lookup? entries name).isSome
  | .text s => .ok (Text.contains s name)
  | .torn t => .ok (Text.contains t.val.shown name)
  | .list items | .set items => .ok (items.any fun item => item.string? == some name)
  | _ => .error .notAContainer

/-- The value of a field, unless there is none or it counts as absent. -/
def part? (entries : List (Datum × Datum)) (field : String) : Option Datum :=
  (Datum.lookup? entries field).bind Datum.truthy?

/-- The step that a stored record holds, in either shape. -/
def readStep (record : Datum) : Supplied (Step τ) := do
  if ← given (holds record "kind") then given (Step.ofDatum record)
  else match record with
    | .map entries =>
      let type := (Datum.lookup? entries "type").getD (.text "")
      if !type.isShowable then given (.error .unshowable)
      else
        let keyword := Text.upper type.display
        match kindOfKeyword? keyword with
        | none => given (.error (.unknownStepKind keyword))
        | some kind =>
          build kind ((part? entries "name").getD (.text "")) (part? entries "selector")
            (part? entries "selectorType") (part? entries "value")
    | _ => given (.error .notARecord)

def readSteps (entries : List (Datum × Datum)) : Supplied (List (Step τ)) := do
  match part? entries "steps" with
  | none => return []
  | some steps => (← given (itemsOf steps)).mapM readStep

/-- The test that a stored record holds, with its steps in either shape. They are not checked a
second time. -/
def readTest (entries : List (Datum × Datum)) : Supplied (Test τ) := do
  let steps ← readSteps entries
  Test.ofEntriesWith (.ok (.ok steps)) entries

end Clickpath.Designer
