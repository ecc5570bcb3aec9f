import Clickpath.Selector

/-! # Steps

A step is one thing that a test does to a page, under a name that reports and scripts show. What a
step needs is part of its action, so a step without its target or its text cannot be written down.
The text may be blank: a record that gives it as bytes is not asked whether it is. Texts are strings
unless another type for them is given; what finds an element is always a string.
-/

namespace Clickpath

inductive StepKind where
  | navigate
  | click
  | typeText
  | assertText
  | screenshot
  deriving DecidableEq, Repr

namespace StepKind

def all : List StepKind := [navigate, click, typeText, assertText, screenshot]

def label : StepKind → String
  | navigate => "navigate"
  | click => "click"
  | typeText => "type_text"
  | assertText => "assert_text"
  | screenshot => "screenshot"

/-- The name of a kind as a sort of record. -/
def recordName : StepKind → String
  | navigate => "NavigateStep"
  | click => "ClickStep"
  | typeText => "TypeTextStep"
  | assertText => "AssertTextStep"
  | screenshot => "ScreenshotStep"

def ofLabel? (s : String) : Option StepKind := all.find? (·.label == s)

theorem mem_all (kind : StepKind) : kind ∈ all := by cases kind <;> decide

theorem ofLabel?_label (kind : StepKind) : ofLabel? kind.label = some kind := by
  cases kind <;> decide

end StepKind

inductive Action (τ : Type := String) where
  /-- Loads a page. -/
  | navigate (url : τ)
  /-- Clicks an element. -/
  | click (target : Selector)
  /-- Sends a text to an element as keystrokes. -/
  | typeText (target : Selector) (text : τ)
  /-- Expects a text within the rendered text of an element. -/
  | assertText (target : Selector) (expected : τ)
  /-- Captures the page, in a file with a generated name if none or an empty one is given. -/
  | screenshot (file : Option τ)
  deriving DecidableEq

def Action.kind : Action τ → StepKind
  | navigate _ => .navigate
  | click _ => .click
  | typeText _ _ => .typeText
  | assertText _ _ => .assertText
  | screenshot _ => .screenshot

def Action.map (f : α → β) : Action α → Action β
  | navigate url => .navigate (f url)
  | click target => .click target
  | typeText target text => .typeText target (f text)
  | assertText target expected => .assertText target (f expected)
  | screenshot file => .screenshot (file.map f)

/-- An action under a name for reports. -/
structure Step (τ : Type := String) where
  name : τ
  action : Action τ
  deriving DecidableEq

def Step.map (f : α → β) (s : Step α) : Step β := ⟨f s.name, s.action.map f⟩

def Step.kind (s : Step τ) : StepKind := s.action.kind

end Clickpath
