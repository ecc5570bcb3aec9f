import Clickpath.Locator.Snapshot
import Clickpath.Selector

/-! # Inferring selectors

A selector for a picked element is made from its snapshot alone. A strategy for which the element
has nothing to offer gives none.
-/

namespace Clickpath.Locator

/-- The two ways to write a path expression. -/
inductive PathMode where
  /-- From the element with the identifier, or else from the body. -/
  | relative
  /-- From the root. -/
  | absolute
  deriving DecidableEq, Repr

namespace PathMode

def all : List PathMode := [relative, absolute]

def label : PathMode → String
  | relative => "relative"
  | absolute => "absolute"

def ofLabel? (s : String) : Option PathMode := all.find? (·.label == s)

end PathMode

def xpathStep (n : PathNode) : String := "/" ++ n.tag ++ "[" ++ toString n.siblingIndex ++ "]"

def cssStep (n : PathNode) : String :=
  n.tag ++ ":nth-child(" ++ toString n.siblingIndex ++ ")"

def belowBody? : List PathNode → Option (List PathNode)
  | [] => none
  | n :: rest => if n.tag == "body" then some rest else belowBody? rest

namespace Snapshot

def usableId? (s : Snapshot) : Option String := s.id.bind Text.nonempty?

/-- The text of a link without the blanks around it, unless nothing is left. -/
def linkText? (s : Snapshot) : Option String :=
  if s.tag == "a" then Text.nonempty? (Text.trim s.text) else none

/-- The tag at which a path is anchored, and the nodes behind it: the body, or else the root. -/
def anchor (s : Snapshot) : String × List PathNode :=
  match belowBody? s.path with
  | some below => ("body", below)
  | none => ((s.path.head s.path_ne_nil).tag, s.path.tail)

/-- The style rule that selects the element. -/
def cssPath (s : Snapshot) : String :=
  match s.usableId? with
  | some id => "#" ++ id
  | none => " > ".intercalate (s.anchor.1 :: s.anchor.2.map cssStep)

def absoluteXPath (s : Snapshot) : String := String.join (s.path.map xpathStep)

/-- The path expression from the element's own identifier or from the body. What is not in a body
can only be reached from the root. -/
def relativeXPath (s : Snapshot) : String :=
  match s.usableId? with
  | some id => "//*[@id='" ++ id ++ "']"
  | none =>
    match belowBody? s.path with
    | some below => "/html/body" ++ String.join (below.map xpathStep)
    | none => s.absoluteXPath

def valueFor? (s : Snapshot) (mode : PathMode) : SelectorKind → Option String
  | .id => s.id
  | .name => s.name
  | .linkText => s.linkText?
  | .partialLinkText => s.linkText?.bind fun text => (Text.words text).head?
  | .text => some (Text.trim s.text)
  | .css => some s.cssPath
  | .xpath => some (match mode with
    | .relative => s.relativeXPath
    | .absolute => s.absoluteXPath)

def infer (s : Snapshot) (kind : SelectorKind) (mode : PathMode) : Option Selector :=
  (s.valueFor? mode kind).bind fun raw => Selector.ofRaw? (some kind) raw

end Snapshot

end Clickpath.Locator
