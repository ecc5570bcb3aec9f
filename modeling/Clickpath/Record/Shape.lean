import Clickpath.Datum.Textual
import Clickpath.Record.Issue
import Clickpath.Utf8

/-! # Reading and storing steps

The stored form of selectors and steps, and its check. Whether a step may, must or must not hold a
selector and a value depends on its kind alone and is decided first; a blank counts as nothing. A
torn text is taken wherever any string is, and refused where a string has to have a form.
-/

namespace Clickpath

open Record

variable {τ : Type} [Textual τ]

def Datum.ofString? (s : Option τ) : Datum := (s.map Textual.toDatum).getD .null

/-- The string that a datum is taken for: a text, or bytes that encode one. -/
def Datum.asString? : Datum → Option String
  | .text s => some s
  | .binary bytes => (Utf8.decode bytes).toOption.map String.ofList
  | _ => none

/-- The rule that is broken where a string is needed. -/
def Datum.unfit : Datum → Rule
  | .binary _ | .torn _ => .aUnicodeText
  | _ => .aString

/-- The text that a datum is taken for, which may be torn. -/
def Datum.asText : Datum → Checked τ
  | .torn t => .ok (Textual.ofTorn t)
  | d =>
    match d.asString? with
    | some s => .ok (Textual.ofString s)
    | none => .broken d.unfit

namespace Selector

def toDatum (s : Selector) : Datum :=
  .ofFields [("kind", .ofString? (s.kind.map (·.label))), ("raw", .text s.raw)]

def kindOfDatum : Option Datum → Checked (Option SelectorKind)
  | none | some .null => .ok none
  | some (.torn _) => .broken .aUnicodeText
  | some d =>
    match d.asString?.bind SelectorKind.ofLabel? with
    | some kind => .ok (some kind)
    | none => .broken .aSelectorKind

/-- The value that a stored selector holds, which must be neither empty nor torn. -/
def rawOfDatum : Option Datum → Checked { raw : String // raw ≠ "" }
  | none => .broken .required
  | some d =>
    match d.asString? with
    | some raw => if h : raw = "" then .broken .nonempty else .ok ⟨raw, h⟩
    | none => .broken d.unfit

def ofDatum : Datum → Checked Selector
  | .map entries =>
    (Checked.both
      (Checked.under (.field "kind") (kindOfDatum (Datum.lookup? entries "kind")))
      (Checked.under (.field "raw") (rawOfDatum (Datum.lookup? entries "raw")))).map
        fun (kind, raw) => ⟨kind, raw.val, raw.property⟩
  | _ => .broken (.aRecordOf "Selector")

end Selector

namespace Record

/-- Whether a field must, may or must not be there. -/
inductive Presence where
  | required
  | optional
  | refused
  deriving DecidableEq, Repr

def selectorPresence : StepKind → Presence
  | .click | .typeText | .assertText => .required
  | .navigate | .screenshot => .refused

def valuePresence : StepKind → Presence
  | .navigate | .typeText | .assertText => .required
  | .screenshot => .optional
  | .click => .refused

/-- The value of a field, unless there is none or it is blank. -/
def filled? (entries : List (Datum × Datum)) (field : String) : Option Datum :=
  (Datum.lookup? entries field).filter (!·.isBlank)

/-- A field is there if it must be, and not if it must not. -/
def checkPresence (kind : Datum) (field : String) (presence : Presence) (value : Option Datum) :
    Except Fault Unit :=
  match presence, value with
  | .required, none => .error (.malformedStep kind field false)
  | .refused, some _ => .error (.malformedStep kind field true)
  | _, _ => .ok ()

/-- A field that holds a text, with a default if it is absent. -/
def stringField (entries : List (Datum × Datum)) (field : String) (default : Option String) :
    Checked τ :=
  Checked.under (.field field) <|
    match Datum.lookup? entries field, default with
    | some d, _ => d.asText
    | none, some s => .ok (Textual.ofString s)
    | none, none => .broken .required

def filledField (field : String) (value : Option Datum) : Checked τ :=
  Checked.under (.field field) <|
    match value with
    | some d => d.asText
    | none => .broken .required

def optionalField (field : String) (value : Option Datum) : Checked (Option τ) :=
  match value with
  | none => .ok none
  | some _ => (filledField field value).map some

def selectorField (field : String) (value : Option Datum) : Checked Selector :=
  Checked.under (.field field) <|
    match value with
    | some d => Selector.ofDatum d
    | none => .broken .required

/-- The kind that a step record may repeat. -/
def repeatedKind (kind : StepKind) (entries : List (Datum × Datum)) : Checked Unit :=
  Checked.under (.field "kind") <|
    match Datum.lookup? entries "kind" with
    | none => .ok ()
    | some (.text label) => if label == kind.label then .ok () else .broken (.exactly kind)
    | some (.torn _) => .broken .aUnicodeText
    | some _ => .broken (.exactly kind)

/-- The fields that a step may hold. Of a selector or value that its kind refuses, at most a blank
is left here, and a blank counts as nothing. -/
def stepFields : List String := ["name", "kind", "selector", "value"]

def keyPlace : Datum → Place
  | .text field => .field field
  | .int (.ofNat position) => .index position
  | key => .field key.quoted

/-- The issue of an entry that no step knows. -/
def furtherIssue? (key : Datum) : Option Issue :=
  match key with
  | .text field =>
    if stepFields.contains field then none else some ⟨.noFurtherFields, [.field field]⟩
  | .torn _ => some ⟨.aUnicodeText, [keyPlace key]⟩
  | _ => some ⟨.textKeys, [keyPlace key]⟩

def noFurtherFields (entries : List (Datum × Datum)) : Checked Unit :=
  match entries.filterMap fun entry => furtherIssue? entry.1 with
  | [] => .ok ()
  | issues => .error issues

/-- The action of a step of a kind, from its selector and value. -/
def actionOf (kind : StepKind) (selector value : Option Datum) : Checked (Action τ) :=
  match kind with
  | .navigate => (filledField "value" value).map .navigate
  | .click => (selectorField "selector" selector).map .click
  | .typeText =>
    (Checked.both (selectorField "selector" selector) (filledField "value" value)).map
      fun (target, text) => .typeText target text
  | .assertText =>
    (Checked.both (selectorField "selector" selector) (filledField "value" value)).map
      fun (target, expected) => .assertText target expected
  | .screenshot => (optionalField "value" value).map .screenshot

/-- The step of a kind that entries of the right shape store. -/
def stepFields? (kind : StepKind) (entries : List (Datum × Datum)) : Checked (Step τ) :=
  let name := stringField entries "name" (some "")
  let head := Checked.both name (repeatedKind kind entries)
  let action := actionOf kind (filled? entries "selector") (filled? entries "value")
  (Checked.both (Checked.both head action) (noFurtherFields entries)).map
    fun (((name, _), action), _) => ⟨name, action⟩

/-- The step of a given kind that entries store. Messages name the kind that the entries give. -/
def stepOfKind (kind : StepKind) (entries : List (Datum × Datum)) :
    Except Fault (Checked (Step τ)) := do
  let shown := ((Datum.lookup? entries "kind").bind Datum.truthy?).getD (.text kind.label)
  checkPresence shown "selector" (selectorPresence kind) (filled? entries "selector")
  checkPresence shown "value" (valuePresence kind) (filled? entries "value")
  .ok (stepFields? kind entries)

def Checked.orFault (part : Checked α) : Except Fault α := part.mapError .invalid

end Record

namespace Step

def toDatum (s : Step τ) : Datum :=
  let head : List (String × Datum) :=
    [("name", Textual.toDatum s.name), ("kind", .text s.kind.label)]
  .ofFields (head ++ match s.action with
    | .navigate url => [("value", Textual.toDatum url)]
    | .click target => [("selector", target.toDatum)]
    | .typeText target text => [("selector", target.toDatum), ("value", Textual.toDatum text)]
    | .assertText target expected =>
      [("selector", target.toDatum), ("value", Textual.toDatum expected)]
    | .screenshot file => [("value", .ofString? file)])

def ofDatumAs (kind : StepKind) : Datum → Except Fault (Step τ)
  | .map entries => do
    let step ← stepOfKind kind entries
    Checked.orFault step
  | _ => .error (.invalid [⟨.aRecordOf kind.recordName, []⟩])

def ofDatum : Datum → Except Fault (Step τ)
  | .map entries =>
    match Datum.lookup? entries "kind" with
    | none => .error (.invalid [⟨.tagged, []⟩])
    | some (.torn _) => .error (.invalid [⟨.aUnicodeText, []⟩])
    | some tag =>
      match tag.string?.bind StepKind.ofLabel? with
      | none => .error (.invalid [⟨.knownTag tag.display, []⟩])
      | some kind => do
        let step ← stepOfKind kind entries
        Checked.orFault (Checked.under (.field kind.label) step)
  | _ => .error (.invalid [⟨.someRecord, []⟩])

/-- The step with these parts; what is not given is absent from its stored form. -/
def ofParts (kind : StepKind) (name : Datum) (selector : Option Selector) (value : Option Datum) :
    Except Fault (Step τ) :=
  ofDatum (.ofFields ([("kind", .text kind.label), ("name", name)]
    ++ (selector.map fun s => [("selector", s.toDatum)]).getD []
    ++ (value.map fun v => [("value", v)]).getD []))

def make (kind name : Datum) (selector : Option Selector) (value : Option Datum) :
    Except Fault (Step τ) :=
  match kind.string?.bind StepKind.ofLabel? with
  | none => .error (.unknownStepKind kind.display)
  | some kind => ofParts kind name selector value

end Step

end Clickpath
