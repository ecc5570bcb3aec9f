import Clickpath.Text

/-! # Snapshots

A snapshot is what is kept of an element when it is picked: its tag, its names and its text, and the
path to it from the root of its document. Nothing in it refers to the page any more. Its texts are
strings unless another type for them is given.
-/

namespace Clickpath.Locator

/-- An element on the path to a picked one, with the tags of the siblings before it. -/
structure PathNode (τ : Type := String) where
  tag : τ
  preceding : List τ
  deriving DecidableEq, Repr

def PathNode.siblingIndex [BEq τ] (n : PathNode τ) : Nat := 1 + n.preceding.count n.tag

/-- The node with its texts taken for others. -/
def PathNode.map (f : α → β) (n : PathNode α) : PathNode β := ⟨f n.tag, n.preceding.map f⟩

/-- A picked element. The path leads from the root to the element itself. -/
structure Snapshot (τ : Type := String) where
  tag : τ
  id : Option τ
  name : Option τ
  text : τ
  attributes : List (τ × τ)
  path : List (PathNode τ)
  path_ne_nil : path ≠ []
  deriving DecidableEq

/-- The snapshot with its texts taken for others. -/
def Snapshot.map (f : α → β) (s : Snapshot α) : Snapshot β where
  tag := f s.tag
  id := s.id.map f
  name := s.name.map f
  text := f s.text
  attributes := s.attributes.map fun a => (f a.1, f a.2)
  path := s.path.map (·.map f)
  path_ne_nil := mt List.map_eq_nil_iff.mp s.path_ne_nil

end Clickpath.Locator
