import Clickpath.Datum.Display
import Clickpath.Step

/-! # Issues of stored records

A stored record is held against the rules for its kind, and everything that breaks a rule is
reported with the path to it. Two things end the check at once: a step that lacks what its kind
needs or holds what its kind must not, and data that is no record at all.
-/

namespace Clickpath.Record

inductive Place where
  | field (name : String)
  | index (position : Nat)
  deriving DecidableEq, Repr

inductive Rule where
  | required
  | aString
  | aUnicodeText
  | nonempty
  | aSelectorKind
  | aRecordOf (model : String)
  | someRecord
  | noFurtherFields
  | textKeys
  | exactly (kind : StepKind)
  | aSequence
  | atLeastOneItem
  | aMap
  | tagged
  | knownTag (shown : String)
  | aTime
  | aTimeInRange
  | aDate
  deriving DecidableEq, Repr

def alternatives : List String → String
  | [] => ""
  | [name] => "'" ++ name ++ "'"
  | [name, last] => "'" ++ name ++ "' or '" ++ last ++ "'"
  | name :: rest => "'" ++ name ++ "', " ++ alternatives rest

def Rule.message : Rule → String
  | required => "Field required"
  | aString => "Input should be a valid string"
  | aUnicodeText =>
    "Input should be a valid string, unable to parse raw data as a unicode string"
  | nonempty => "String should have at least 1 character"
  | aSelectorKind => "Input should be " ++ alternatives (SelectorKind.all.map (·.label))
  | aRecordOf model => "Input should be a valid dictionary or instance of " ++ model
  | someRecord => "Input should be a valid dictionary or object to extract fields from"
  | noFurtherFields => "Extra inputs are not permitted"
  | textKeys => "Keys should be strings"
  | exactly kind => "Input should be '" ++ kind.label ++ "'"
  | aSequence => "Input should be a valid tuple"
  | atLeastOneItem => "Tuple should have at least 1 item after validation, not 0"
  | aMap => "Input should be a valid dictionary"
  | tagged => "Unable to extract tag using discriminator 'kind'"
  | knownTag shown => "Input tag '" ++ shown
      ++ "' found using 'kind' does not match any of the expected tags: "
      ++ ", ".intercalate (StepKind.all.map fun kind => "'" ++ kind.label ++ "'")
  | aTime => "Input should be a valid datetime"
  | aTimeInRange => "Input should be a valid datetime in range"
  | aDate => "Input should be a valid datetime or date"

/-- A broken rule, and the path to where it is broken. -/
structure Issue where
  rule : Rule
  path : List Place
  deriving DecidableEq, Repr

def Issue.under (place : Place) (issue : Issue) : Issue :=
  { issue with path := place :: issue.path }

/-- A part of a record that keeps the rules, or all the issues in it. -/
abbrev Checked (α : Type) := Except (List Issue) α

namespace Checked

def broken (rule : Rule) : Checked α := .error [⟨rule, []⟩]

def under (place : Place) (part : Checked α) : Checked α := part.mapError (·.map (·.under place))

/-- Two parts together; the issues of the first come before those of the second. -/
def both (a : Checked α) (b : Checked β) : Checked (α × β) :=
  match a, b with
  | .ok x, .ok y => .ok (x, y)
  | .error issues, .ok _ => .error issues
  | .ok _, .error issues => .error issues
  | .error issues, .error more => .error (issues ++ more)

def all : List (Checked α) → Checked (List α)
  | [] => .ok []
  | part :: rest => (both part (all rest)).map fun (x, xs) => x :: xs

end Checked

/-- Why no step or test was made of a record. -/
inductive Fault where
  /-- A step lacks a field that its kind needs, or holds one that its kind must not hold. -/
  | malformedStep (kind : Datum) (field : String) (unexpected : Bool)
  /-- The kind of a step is none of the five. -/
  | unknownStepKind (kind : String)
  /-- Rules are broken. -/
  | invalid (issues : List Issue)
  /-- The data cannot hold fields or items. -/
  | notAContainer
  /-- The data holds items, or is a text or number, where a record or text is needed. -/
  | notARecord
  /-- A whole number is to be shown that has too many digits. -/
  | unshowable

/-- What is said of a step that is no step of its kind, or of no kind. -/
def Fault.message? : Fault → Option String
  | malformedStep kind field unexpected =>
    some ("Step of kind '" ++ kind.display ++ "'" ++
      (if unexpected then " does not accept a '" else " is missing required field '") ++
        field ++ "'")
  | unknownStepKind kind => some ("Unknown step kind '" ++ kind ++ "'")
  | unshowable =>
    some ("Exceeds the limit (" ++ toString Decimal.digitLimit
      ++ " digits) for integer string conversion; "
      ++ "use sys.set_int_max_str_digits() to increase the limit")
  | _ => none

end Clickpath.Record
