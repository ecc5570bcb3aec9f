import Clickpath.Text.Loose
import Clickpath.Yaml.Tag

/-! # Nodes

What a YAML text says, with the type of each node known and aliases replaced by what they stand for.
A node can stand inside itself. What it holds is then written out some levels deep, which is deeper
than any record is looked into, and is empty below.
-/

namespace Clickpath.Yaml

/-- A scalar, a sequence or a mapping with its type, or the place of a node around this one. -/
inductive Node where
  | scalar (tag : Tag) (text : Loose)
  | sequence (tag : Tag) (items : List Node)
  | mapping (tag : Tag) (entries : List (Node × Node))
  | again (name : String)

namespace Node

def tag : Node → Tag
  | scalar tag _ => tag
  | sequence tag _ => tag
  | mapping tag _ => tag
  | again _ => .null

def empty : Node := .scalar .null .empty

mutual

def depth : Node → Nat
  | sequence _ items => depthOfItems items + 1
  | mapping _ entries => depthOfEntries entries + 1
  | _ => 0

def depthOfItems : List Node → Nat
  | [] => 0
  | item :: rest => (depth item).max (depthOfItems rest)

def depthOfEntries : List (Node × Node) → Nat
  | [] => 0
  | (key, value) :: rest => ((depth key).max (depth value)).max (depthOfEntries rest)

end

def hollow : Node → Node
  | sequence tag _ => sequence tag []
  | mapping tag _ => mapping tag []
  | node => node

mutual

/-- The node with another one in the places that have its name. -/
def fill (name : String) (whole : Node) : Node → Node
  | scalar tag text => scalar tag text
  | sequence tag items => sequence tag (fillItems name whole items)
  | mapping tag entries => mapping tag (fillEntries name whole entries)
  | again other => if other == name then whole else again other

def fillItems (name : String) (whole : Node) : List Node → List Node
  | [] => []
  | item :: rest => fill name whole item :: fillItems name whole rest

def fillEntries (name : String) (whole : Node) : List (Node × Node) → List (Node × Node)
  | [] => []
  | (key, value) :: rest =>
    (fill name whole key, fill name whole value) :: fillEntries name whole rest

end

/-- The node written out in the places that have its own name, that many levels deep. -/
def unrolled (name : String) (node : Node) : Nat → Node
  | 0 => fill name node.hollow node
  | levels + 1 => fill name (unrolled name node levels) node

end Node

end Clickpath.Yaml
