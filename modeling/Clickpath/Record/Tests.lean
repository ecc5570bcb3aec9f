import Clickpath.Moment.Reader
import Clickpath.Record.Shape
import Clickpath.Supply
import Clickpath.Test

/-! # Reading and storing tests

The stored form of tests, and its check. Some fields go by more than one name; the first of the
names that the record holds is the one that counts. A record that names no identifier or no creation
time takes them from the supply.
-/

namespace Clickpath

open Record

variable {τ : Type} [Textual τ]

namespace Record

/-- A computation that draws on the supply and may end with a fault; what it drew stays drawn. -/
abbrev Supplied (α : Type) := ExceptT Fault (StateM Supply) α

def freshId : Supplied String := fun supply =>
  let (id, supply) := supply.freshId
  (.ok id, supply)

def readClock : Supplied Int := fun supply =>
  let (millis, supply) := supply.readClock
  (.ok millis, supply)

def presentMoment : Supplied Moment := fun supply => (.ok supply.now, supply)

def given (result : Except Fault α) : Supplied α := fun supply => (result, supply)

/-- The first of several names for a field under which entries hold it; the first name of all when
they hold none. -/
def nameInUse (entries : List (Datum × Datum)) (names : List String) : String :=
  match names.find? fun name => (Datum.lookup? entries name).isSome with
  | some name => name
  | none => names.headD ""

def toolNames : List String := ["automation_tool", "automationTool"]

def platformNames : List String := ["target_platform", "targetPlatform", "programmingLanguage"]

def createdNames : List String := ["created_at", "createdAt"]

def sequence? : Datum → Option (List Datum)
  | .list items => some items
  | .set items => some items
  | _ => none

/-- What a sequence of stored steps runs over: items, the keys of a map, or the characters of a
text. -/
def itemsOf : Datum → Except Fault (List Datum)
  | .list items | .set items => .ok items
  | .map entries => .ok (entries.map (·.1))
  | .text s => .ok (s.toList.map fun c => .text (String.singleton c))
  | .torn t => .ok (t.val.glyphs.map fun g => .ofLoose ⟨[g]⟩)
  | .binary bytes => .ok (bytes.map fun byte => .int (Int.ofNat byte))
  | _ => .error .notAContainer

/-- The steps of a sequence. Issues carry the place of their step; any other fault ends the
check. -/
def checkSteps : Nat → List Datum → Except Fault (Checked (List (Step τ)))
  | _, [] => .ok (.ok [])
  | position, item :: rest => do
    let step : Checked (Step τ) ← match Step.ofDatum item with
      | .ok step => .ok (.ok step)
      | .error (.invalid issues) => .ok (.error issues)
      | .error fault => .error fault
    let steps ← checkSteps (position + 1) rest
    .ok ((Checked.both (Checked.under (.index position) step) steps).map fun (x, xs) => x :: xs)

def stepsField (entries : List (Datum × Datum)) : Except Fault (Checked (List (Step τ))) :=
  match Datum.lookup? entries "steps" with
  | none => .ok (.ok [])
  | some d =>
    match sequence? d with
    | none => .ok (Checked.under (.field "steps") (.broken .aSequence))
    | some items => do
      let steps ← checkSteps 0 items
      .ok (Checked.under (.field "steps") steps)

def momentOfText (s : List Char) : Checked Moment :=
  match Moment.read s with
  | .ok m => .ok m
  | .error .outOfRange => .broken .aTimeInRange
  | .error _ => .broken .aDate

/-- The moment that a datum denotes. Numbers count seconds, and a date stands for its midnight. -/
def momentOfDatum : Datum → Checked Moment
  | .moment m => .ok m
  | .date year month day =>
    match Moment.ofFields? year month day 0 0 0 0 none with
    | some m => .ok m
    | none => .broken .aTimeInRange
  | .text s => momentOfText s.toList
  | .torn _ => .broken .aUnicodeText
  | .binary bytes =>
    match Utf8.decode bytes with
    | .ok s => momentOfText s
    | .error _ => .broken .aDate
  | .int count =>
    match Moment.ofCount? count 0 with
    | some m => .ok m
    | none => .broken .aTimeInRange
  | .float x =>
    match Moment.ofBinary64? x with
    | some m => .ok m
    | none => .broken .aTimeInRange
  | _ => .broken .aTime

/-- The field that holds the creation time; the present moment stands in for it. -/
def createdField (entries : List (Datum × Datum)) (now : Moment) : Checked Moment :=
  let name := nameInUse entries createdNames
  match Datum.lookup? entries name with
  | none => .ok now
  | some d => Checked.under (.field name) (momentOfDatum d)

/-- The field that holds the identifier; a fresh one stands in for it. -/
def idField (entries : List (Datum × Datum)) : Supplied (Checked τ) := do
  match Datum.lookup? entries "id" with
  | none => return .ok (Textual.ofString (← freshId))
  | some _ => return stringField entries "id" none

def assembleTest (id name : Checked τ) (steps : Checked (List (Step τ)))
    (tool platform : Checked τ) (created : Checked Moment) : Checked (Test τ) :=
  (Checked.both id (Checked.both name (Checked.both steps
    (Checked.both tool (Checked.both platform created))))).map
      fun (id, name, steps, tool, platform, created) => ⟨id, name, steps, tool, platform, created⟩

end Record

namespace Test

def toDatum (t : Test τ) : Datum :=
  .ofFields [("id", Textual.toDatum t.id), ("name", Textual.toDatum t.name),
    ("steps", .list (t.steps.map (·.toDatum))), ("automation_tool", Textual.toDatum t.tool),
    ("target_platform", Textual.toDatum t.platform), ("created_at", .text t.created.stored)]

/-- The test that entries store, with steps that were checked apart from them. -/
def ofEntriesWith (steps : Except Fault (Checked (List (Step τ))))
    (entries : List (Datum × Datum)) : Supplied (Test τ) := do
  let id ← idField entries
  let steps ← given steps
  let now ← presentMoment
  given (assembleTest id (stringField entries "name" none) steps
    (stringField entries (nameInUse entries toolNames) (some defaultTool))
    (stringField entries (nameInUse entries platformNames) (some defaultPlatform))
    (createdField entries now)).orFault

def ofEntries (entries : List (Datum × Datum)) : Supplied (Test τ) :=
  ofEntriesWith (stepsField entries) entries

/-- The test that a datum stores; fields of other names are passed over. -/
def ofDatum : Datum → Supplied (Test τ)
  | .map entries => ofEntries entries
  | _ => given (.error (.invalid [⟨.aRecordOf "Test", []⟩]))

def withSteps (t : Test τ) (steps : Datum) : Except Fault (Test τ) := do
  let items ← itemsOf steps
  let steps ← items.mapM Step.ofDatum
  .ok { t with steps := steps }

end Test

end Clickpath
