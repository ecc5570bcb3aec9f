import Clickpath.Markup.Builder
import Clickpath.Text

/-! # Documents

A document has one root element, the first `html` element on top with all that stands around it. A
text without one is taken for the content of a body, as a browser does, of which only the elements
are kept.
-/

namespace Clickpath.Markup

/-- A tree with its root element and the nodes before and after it. -/
structure Document where
  before : List Node
  attributes : List (String × String)
  content : List Node
  after : List Node

namespace Document

def rootTag : String := "html"

def root (d : Document) : Node := .element rootTag d.attributes d.content

/-- The document whose root is the first `html` element among nodes, given those before them. -/
def findRoot? : List Node → List Node → Option Document
  | _, [] => none
  | before, node :: after =>
    match node with
    | .element tag attributes content =>
      if tag == rootTag then some ⟨before.reverse, attributes, content, after⟩
      else findRoot? (node :: before) after
    | .text _ => findRoot? (node :: before) after

/-- The document with the elements among nodes in its body. -/
def ofBody (nodes : List Node) : Document :=
  ⟨[], [], [.element "body" [] (nodes.filter Node.isElement)], []⟩

def ofNodes (nodes : List Node) : Document := (findRoot? [] nodes).getD (ofBody nodes)

/-- Reads a markup text. -/
def read (text : String) : Except Fault Document :=
  (events text.toList).map fun found => ofNodes (nodesOf found)

end Document

end Clickpath.Markup
