import Clickpath.Locator.Snapshot
import Clickpath.Markup.Document

/-! # Places in a document

A place is an element of a document together with all that stands around it: the nodes before and
after it, and the same for each element that holds it. A snapshot is taken of a place.
-/

namespace Clickpath.Locator

open Markup

/-- An element among its siblings, without its content. The node next to it comes first in both
lists of siblings. -/
structure Spot where
  tag : String
  attributes : List (String × String)
  before : List Node
  after : List Node

/-- An element in a document: its spot and its content, and the spots of the elements around it, the
innermost first. -/
structure Place where
  spot : Spot
  content : List Node
  above : List Spot

def Spot.pathNode (s : Spot) : PathNode := ⟨s.tag, Node.tags s.before.reverse⟩

namespace Place

/-- The path to a place. -/
def path (p : Place) : List PathNode := (p.spot :: p.above).reverse.map Spot.pathNode

theorem path_ne_nil (p : Place) : p.path ≠ [] := by simp [path]

def attribute? (p : Place) (name : String) : Option String :=
  (p.spot.attributes.lookup name).bind Text.nonempty?

def snapshot (p : Place) : Snapshot where
  tag := p.spot.tag
  id := p.attribute? "id"
  name := p.attribute? "name"
  text := Node.allTextOf p.content
  attributes := p.spot.attributes
  path := p.path
  path_ne_nil := p.path_ne_nil

mutual

/-- The places of an element and all elements in it, in document order. -/
def within (above : List Spot) (before after : List Node) : Node → List Place
  | .text _ => []
  | .element tag attributes content =>
    let spot : Spot := ⟨tag, attributes, before, after⟩
    ⟨spot, content, above⟩ :: withinAll (spot :: above) [] content

/-- The places of the elements among nodes and in them, given the nodes before them. -/
def withinAll (above : List Spot) (before : List Node) : List Node → List Place
  | [] => []
  | node :: after => within above before after node ++ withinAll above (node :: before) after

end

end Place

def rootSpot (d : Document) : Spot := ⟨Document.rootTag, d.attributes, d.before.reverse, d.after⟩

def rootPlace (d : Document) : Place := ⟨rootSpot d, d.content, []⟩

def placesBelow (d : Document) : List Place := Place.withinAll [rootSpot d] [] d.content

def placesWithTag (d : Document) (tag : String) : List Place :=
  (placesBelow d).filter fun place => place.spot.tag == Text.lower tag

/-- The place of the first element with an identifier. -/
def placeWithId? (d : Document) (id : String) : Option Place :=
  (placesBelow d).find? fun place => place.spot.attributes.lookup "id" == some id

end Clickpath.Locator
