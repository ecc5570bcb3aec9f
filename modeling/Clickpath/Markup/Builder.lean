import Clickpath.Chars.Case
import Clickpath.Markup.Event
import Clickpath.Markup.Node

/-! # Building trees

A tree grows from events. The elements that were opened and not closed form a stack under which the
next node is placed; an end tag closes the innermost open element with its tag and all within it,
and an end tag without such an element is passed over. Some elements never hold anything.
-/

namespace Clickpath.Markup

def voidTags : List String :=
  ["area", "base", "br", "col", "embed", "hr", "img", "input", "link", "meta", "param", "source",
   "track", "wbr"]

/-- An element that was opened, with its content so far, the last node first. -/
structure OpenElement where
  tag : String
  attributes : List (String × String)
  content : List Node

def OpenElement.toNode (e : OpenElement) : Node := .element e.tag e.attributes e.content.reverse

/-- A tree in the making: the open elements, the innermost first, and the nodes on top, the last one
first. -/
structure Builder where
  stack : List OpenElement
  top : List Node

namespace Builder

def empty : Builder := ⟨[], []⟩

def append (b : Builder) (node : Node) : Builder :=
  match b.stack with
  | [] => { b with top := node :: b.top }
  | e :: outer => { b with stack := { e with content := node :: e.content } :: outer }

def closeInnermost (b : Builder) : Builder :=
  match b.stack with
  | [] => b
  | e :: outer => append { b with stack := outer } e.toNode

def closeMany : Nat → Builder → Builder
  | 0, b => b
  | n + 1, b => closeMany n b.closeInnermost

/-- Closes the innermost open element with a tag, and all within it. -/
def close (b : Builder) (tag : String) : Builder :=
  match b.stack.findIdx? fun e => e.tag == tag with
  | some depth => closeMany (depth + 1) b
  | none => b

def feed (b : Builder) : Event → Builder
  | .opened tag attributes =>
    if voidTags.contains tag then b.append (.element tag attributes [])
    else { b with stack := ⟨tag, attributes, []⟩ :: b.stack }
  | .emptied tag attributes => b.append (.element tag attributes [])
  | .closed tag => b.close tag
  | .text data => b.append (.text data)

def feedAll (b : Builder) (events : List Event) : Builder := events.foldl feed b

def nodes (b : Builder) : List Node := (closeMany b.stack.length b).top.reverse

end Builder

def nodesOf (events : List Event) : List Node := (Builder.empty.feedAll events).nodes

end Clickpath.Markup
