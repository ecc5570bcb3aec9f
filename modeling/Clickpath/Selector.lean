import Clickpath.Text

/-! # Selectors

A selector says how to find an element of a page: by a recorded strategy and its value, or, without
a strategy, by a text in the selector language of the browser driver itself.
-/

namespace Clickpath

inductive SelectorKind where
  | id
  | name
  | linkText
  | partialLinkText
  | css
  | xpath
  | text
  deriving DecidableEq, Repr

namespace SelectorKind

def all : List SelectorKind := [id, name, linkText, partialLinkText, css, xpath, text]

def label : SelectorKind → String
  | id => "id"
  | name => "name"
  | linkText => "linkText"
  | partialLinkText => "partialLinkText"
  | css => "css"
  | xpath => "xpath"
  | text => "text"

def ofLabel? (s : String) : Option SelectorKind := all.find? (·.label == s)

/-- The strategy with this stored name in any letter case. -/
def ofLabelAnyCase? (s : String) : Option SelectorKind :=
  all.find? fun kind => Text.lower kind.label == Text.lower s

theorem mem_all (kind : SelectorKind) : kind ∈ all := by cases kind <;> decide

theorem ofLabel?_label (kind : SelectorKind) : ofLabel? kind.label = some kind := by
  cases kind <;> decide

end SelectorKind

/-- How to find an element; without a strategy the value is in the driver's own language. -/
structure Selector where
  kind : Option SelectorKind
  raw : String
  raw_ne_empty : raw ≠ ""
  deriving DecidableEq

/-- The selector with this strategy and value, unless the value is empty. -/
def Selector.ofRaw? (kind : Option SelectorKind) (raw : String) : Option Selector :=
  if h : raw = "" then none else some ⟨kind, raw, h⟩

theorem Selector.ofRaw?_raw (s : Selector) : Selector.ofRaw? s.kind s.raw = some s := by
  simp [Selector.ofRaw?, s.raw_ne_empty]

end Clickpath
