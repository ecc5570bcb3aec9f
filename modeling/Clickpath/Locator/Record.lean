import Clickpath.Locator.Attempt
import Clickpath.Record.Tests

/-! # Reading and storing snapshots

The stored form of snapshots and its check, and requests for selectors that name their strategy and
mode by data.
-/

namespace Clickpath.Locator

open Record

variable {τ : Type} [Textual τ]

def optionalText (entries : List (Datum × Datum)) (field : String) : Checked (Option τ) :=
  Checked.under (.field field) <|
    match Datum.lookup? entries field with
    | none | some .null => .ok none
    | some d => d.asText.map some

/-- Checks of the items of a list, each issue with the position of its item. -/
def checkItems (check : Datum → Checked α) : Nat → List Datum → List (Checked α)
  | _, [] => []
  | position, item :: rest =>
    Checked.under (.index position) (check item) :: checkItems check (position + 1) rest

def sequenceField (entries : List (Datum × Datum)) (field : String)
    (default : Checked (List Datum)) : Checked (List Datum) :=
  match Datum.lookup? entries field with
  | none => default
  | some d => match sequence? d with
    | some items => .ok items
    | none => .broken .aSequence

namespace PathNode

def toDatum (n : PathNode τ) : Datum :=
  .ofFields [("tag", Textual.toDatum n.tag),
    ("preceding_sibling_tags", .list (n.preceding.map Textual.toDatum))]

def precedingField (entries : List (Datum × Datum)) : Checked (List τ) :=
  Checked.under (.field "preceding_sibling_tags") <|
    match sequenceField entries "preceding_sibling_tags" (.ok []) with
    | .ok items => Checked.all (checkItems Datum.asText 0 items)
    | .error issues => .error issues

def ofDatum : Datum → Checked (PathNode τ)
  | .map entries =>
    (Checked.both (stringField entries "tag" none) (precedingField entries)).map
      fun (tag, preceding) => ⟨tag, preceding⟩
  | _ => .broken (.aRecordOf "PathNode")

end PathNode

abbrev Path (τ : Type) := { path : List (PathNode τ) // path ≠ [] }

/-- The path with these nodes. A path of which no node is sound is also too short. -/
def pathOf (nodes : List (Checked (PathNode τ))) : Checked (Path τ) :=
  match Checked.all nodes with
  | .ok [] => .broken .atLeastOneItem
  | .ok (node :: rest) => .ok ⟨node :: rest, by simp⟩
  | .error issues =>
    if nodes.any (·.isOk) then .error issues else .error (issues ++ [⟨.atLeastOneItem, []⟩])

def pathField (entries : List (Datum × Datum)) : Checked (Path τ) :=
  Checked.under (.field "path") <|
    match sequenceField entries "path" (.broken .required) with
    | .ok items => pathOf (checkItems PathNode.ofDatum 0 items)
    | .error issues => .error issues

def attributesField (entries : List (Datum × Datum)) : Checked (List (τ × τ)) :=
  Checked.under (.field "attributes") <|
    match Datum.lookup? entries "attributes" with
    | none => .ok []
    | some (.map attributes) => Checked.all (attributes.map fun entry =>
        (Checked.both
          (Checked.under (keyPlace entry.1) (Checked.under (.field "[key]") entry.1.asText))
          (Checked.under (keyPlace entry.1) entry.2.asText)))
    | some _ => .broken .aMap

namespace Snapshot

def toDatum (s : Snapshot τ) : Datum :=
  .ofFields [("tag", Textual.toDatum s.tag), ("id", .ofString? s.id), ("name", .ofString? s.name),
    ("text", Textual.toDatum s.text),
    ("attributes", .map (s.attributes.map fun a => (Textual.toDatum a.1, Textual.toDatum a.2))),
    ("path", .list (s.path.map (·.toDatum)))]

def ofDatum : Datum → Checked (Snapshot τ)
  | .map entries =>
    (Checked.both (stringField entries "tag" none) (Checked.both (optionalText entries "id")
      (Checked.both (optionalText entries "name") (Checked.both
        (stringField entries "text" (some "")) (Checked.both (attributesField entries)
          (pathField entries)))))).map
            fun (tag, id, name, text, attributes, path) =>
              ⟨tag, id, name, text, attributes, path.val, path.property⟩
  | _ => .broken (.aRecordOf "ElementSnapshot")

end Snapshot

inductive UnknownChoice where
  | kind (given : Datum)
  | mode (given : Datum)

def UnknownChoice.message : UnknownChoice → String
  | kind given => given.quoted ++ " is not a valid SelectorKind"
  | mode given => given.quoted ++ " is not a valid XPathMode"

/-- The selector of a strategy and a mode, both given by data, for an element. -/
def Snapshot.inferAs (s : Snapshot Loose) (kind mode : Datum) :
    Except UnknownChoice (Except Gap (Option Selector)) :=
  match kind.string?.bind SelectorKind.ofLabel? with
  | none => .error (.kind kind)
  | some strategy =>
    match mode.string?.bind PathMode.ofLabel? with
    | none => .error (.mode mode)
    | some way => .ok (Attempt.infer s strategy way)

end Clickpath.Locator
