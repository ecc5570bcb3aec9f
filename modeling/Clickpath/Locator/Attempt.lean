import Clickpath.Locator.Inference
import Clickpath.Text.Loose

/-! # Attempts at inference

Inference takes the first word of a link, the first node of a path and a value for a selector
without asking whether there is one that will do. An attempt is made on a snapshot whose texts may
be torn, and each of its steps can fail.
-/

namespace Clickpath.Locator

/-- What keeps inference from an answer. -/
inductive Gap where
  | noWord
  | noNode
  | noValue
  /-- The value for a selector is torn. -/
  | torn
  deriving DecidableEq, Repr

namespace Attempt

def linkText? (s : Snapshot Loose) : Option Loose :=
  if s.tag = .ofString "a" then s.text.trim.nonempty? else none

/-- The nodes behind the first body on a path. -/
def belowBody? : List (PathNode Loose) → Option (List (PathNode Loose))
  | [] => none
  | n :: rest => if n.tag = .ofString "body" then some rest else belowBody? rest

/-- The tag at which a path is anchored, and the nodes behind it. -/
def anchor (path : List (PathNode Loose)) : Except Gap (Loose × List (PathNode Loose)) :=
  match belowBody? path, path with
  | some below, _ => .ok (.ofString "body", below)
  | none, root :: rest => .ok (root.tag, rest)
  | none, [] => .error .noNode

def xpathStep (n : PathNode Loose) : Loose :=
  .ofString "/" ++ n.tag ++ .ofString ("[" ++ toString n.siblingIndex ++ "]")

def cssStep (n : PathNode Loose) : Loose :=
  n.tag ++ .ofString (":nth-child(" ++ toString n.siblingIndex ++ ")")

def cssPath (s : Snapshot Loose) : Except Gap Loose :=
  match s.id.bind Loose.nonempty? with
  | some id => .ok (.ofString "#" ++ id)
  | none => do
    let (root, below) ← anchor s.path
    return .intercalate (.ofString " > ") (root :: below.map cssStep)

def absoluteXPath (s : Snapshot Loose) : Loose := .join (s.path.map xpathStep)

def relativeXPath (s : Snapshot Loose) : Except Gap Loose :=
  match s.id.bind Loose.nonempty? with
  | some id => .ok (.ofString "//*[@id='" ++ id ++ .ofString "']")
  | none => do
    let (root, below) ← anchor s.path
    if root = .ofString "body" then return .ofString "/html/body" ++ .join (below.map xpathStep)
    else return absoluteXPath s

def rawValue (s : Snapshot Loose) (mode : PathMode) : SelectorKind → Except Gap (Option Loose)
  | .id => .ok s.id
  | .name => .ok s.name
  | .linkText => .ok (linkText? s)
  | .partialLinkText =>
    match linkText? s with
    | none => .ok none
    | some text =>
      match text.words with
      | [] => .error .noWord
      | word :: _ => .ok (some word)
  | .text => .ok s.text.trim.nonempty?
  | .css => (cssPath s).map some
  | .xpath =>
    match mode with
    | .absolute => .ok (some (absoluteXPath s))
    | .relative => (relativeXPath s).map some

def selectorOf (kind : SelectorKind) (raw : Loose) : Except Gap Selector :=
  match raw.string? with
  | none => .error .torn
  | some text => if h : text = "" then .error .noValue else .ok ⟨some kind, text, h⟩

def infer (s : Snapshot Loose) (kind : SelectorKind) (mode : PathMode) :
    Except Gap (Option Selector) := do
  match (← rawValue s mode kind).bind Loose.nonempty? with
  | none => return none
  | some raw => return some (← selectorOf kind raw)

end Attempt

end Clickpath.Locator
