import Mathlib.Data.List.Basic
import Clickpath.Markup.Linked
import Clickpath.Proofs.Markup.Entries

/-! # The linked elements of a tree

What belongs to one tree stands in one row, in document order: `layoutAll` says which elements a
tree takes, and placing a tree under an element is one operation, of which the events are the
smallest cases.
-/

namespace Clickpath.Markup

namespace Node

mutual

def size : Node → Nat
  | text _ => 0
  | element _ _ content => sizeAll content + 1

def sizeAll : List Node → Nat
  | [] => 0
  | node :: rest => size node + sizeAll rest

end

/-- How a node stands in the content of its parent, if its elements are numbered from a number
on. -/
def item (first : Nat) : Node → Item
  | text data => .text data
  | element _ _ _ => .element first

/-- How nodes stand in the content of their parent. -/
def itemsOf (first : Nat) : List Node → List Item
  | [] => []
  | node :: rest => item first node :: itemsOf (first + size node) rest

mutual

/-- The linked elements of a node in document order, given its parent and the first number. -/
def layout (parent first : Nat) : Node → List Cell
  | text _ => []
  | element tag attributes content =>
      ⟨tag, attributes, some parent, (itemsOf (first + 1) content).filterMap Item.id?,
        itemsOf (first + 1) content⟩ :: layoutAll first (first + 1) content

/-- The linked elements of nodes with one parent. -/
def layoutAll (parent first : Nat) : List Node → List Cell
  | [] => []
  | node :: rest => layout parent first node ++ layoutAll parent (first + size node) rest

end

@[simp] theorem size_text (data : String) : size (.text data) = 0 := by rw [size]

@[simp] theorem size_element (tag : String) (attributes : List (String × String))
    (content : List Node) : size (.element tag attributes content) = sizeAll content + 1 := by
  rw [size]

@[simp] theorem sizeAll_nil : sizeAll [] = 0 := by rw [sizeAll]

@[simp] theorem sizeAll_cons (node : Node) (rest : List Node) :
    sizeAll (node :: rest) = size node + sizeAll rest := by rw [sizeAll]

@[simp] theorem itemsOf_nil (first : Nat) : itemsOf first [] = [] := rfl

@[simp] theorem itemsOf_cons (first : Nat) (node : Node) (rest : List Node) :
    itemsOf first (node :: rest) = item first node :: itemsOf (first + size node) rest :=
  rfl

@[simp] theorem item_text (first : Nat) (data : String) : item first (.text data) = .text data :=
  rfl

@[simp] theorem item_element (first : Nat) (tag : String) (attributes : List (String × String))
    (content : List Node) : item first (.element tag attributes content) = .element first :=
  rfl

@[simp] theorem layout_text (parent first : Nat) (data : String) :
    layout parent first (.text data) = [] := by rw [layout]

@[simp] theorem layout_element (parent first : Nat) (tag : String)
    (attributes : List (String × String)) (content : List Node) :
    layout parent first (.element tag attributes content) =
      ⟨tag, attributes, some parent, (itemsOf (first + 1) content).filterMap Item.id?,
        itemsOf (first + 1) content⟩ :: layoutAll first (first + 1) content := by
  rw [layout]

@[simp] theorem layoutAll_nil (parent first : Nat) : layoutAll parent first [] = [] := by
  rw [layoutAll]

@[simp] theorem layoutAll_cons (parent first : Nat) (node : Node) (rest : List Node) :
    layoutAll parent first (node :: rest) =
      layout parent first node ++ layoutAll parent (first + size node) rest := by
  rw [layoutAll]

theorem itemsOf_append (first : Nat) (xs ys : List Node) :
    itemsOf first (xs ++ ys) = itemsOf first xs ++ itemsOf (first + sizeAll xs) ys := by
  induction xs generalizing first with
  | nil => simp
  | cons node xs ih => simp [ih, Nat.add_assoc]

theorem layoutAll_append (parent first : Nat) (xs ys : List Node) :
    layoutAll parent first (xs ++ ys) =
      layoutAll parent first xs ++ layoutAll parent (first + sizeAll xs) ys := by
  induction xs generalizing first with
  | nil => simp
  | cons node xs ih => simp [ih, Nat.add_assoc]

mutual

theorem length_layout (parent first : Nat) :
    (node : Node) → (layout parent first node).length = size node
  | .text data => by simp
  | .element tag attributes content => by simp [length_layoutAll]

@[simp] theorem length_layoutAll (parent first : Nat) :
    (nodes : List Node) → (layoutAll parent first nodes).length = sizeAll nodes
  | [] => by simp
  | node :: rest => by simp [length_layout, length_layoutAll]

end

mutual

/-- The linked elements of a node are those that it starts. -/
theorem names_layout (parent first : Nat) :
    (node : Node) → (layout parent first node).map (fun c => (c.tag, c.attributes)) =
      Entry.starts (entries node)
  | .text data => by simp
  | .element tag attributes content => by simp [names_layoutAll]

theorem names_layoutAll (parent first : Nat) :
    (nodes : List Node) → (layoutAll parent first nodes).map (fun c => (c.tag, c.attributes)) =
      Entry.starts (entriesOf nodes)
  | [] => by simp
  | node :: rest => by simp [names_layout, names_layoutAll]

end

/-- There are as many elements as are started. -/
theorem sizeAll_eq_length_starts (nodes : List Node) :
    sizeAll nodes = (Entry.starts (entriesOf nodes)).length := by
  rw [← names_layoutAll 0 1 nodes, List.length_map, length_layoutAll]

end Node

/-! ## Placing trees -/

namespace Cell

/-- Items stand behind all other content, and the elements among them behind all other children. -/
def hold (items : List Item) (c : Cell) : Cell :=
  { c with children := c.children ++ items.filterMap Item.id?, content := c.content ++ items }

@[simp] theorem hold_nil (c : Cell) : c.hold [] = c := by simp [hold]

theorem hold_hold (first second : List Item) (c : Cell) :
    (c.hold first).hold second = c.hold (first ++ second) := by
  simp [hold]

end Cell

/-- Behind the modified place of a row, everything stands as before. -/
theorem modify_append_of_lt {α : Type} {f : α → α} {xs : List α} {i : Nat} (hi : i < xs.length)
    (ys : List α) : (xs ++ ys).modify i f = xs.modify i f ++ ys := by
  induction xs generalizing i with
  | nil => exact absurd hi (Nat.not_lt_zero i)
  | cons x xs ih =>
      cases i with
      | zero => simp
      | succ i => simpa using ih (Nat.lt_of_succ_lt_succ hi)

theorem modify_append_cons {α : Type} {f : α → α} {xs : List α} {i : Nat} (hi : xs.length = i)
    (y : α) (ys : List α) : (xs ++ y :: ys).modify i f = xs ++ f y :: ys := by
  subst hi
  induction xs with
  | nil => simp
  | cons x xs ih => simpa using ih

namespace Linked

/-- Nodes are placed under an element, behind its other content. -/
def place (l : Linked) (parent : Nat) (nodes : List Node) : Linked :=
  { l with
    cells := l.cells.modify parent (Cell.hold (Node.itemsOf l.cells.length nodes)) ++
      Node.layoutAll parent l.cells.length nodes }

@[simp] theorem stack_place (l : Linked) (parent : Nat) (nodes : List Node) :
    (l.place parent nodes).stack = l.stack :=
  rfl

@[simp] theorem length_place (l : Linked) (parent : Nat) (nodes : List Node) :
    (l.place parent nodes).cells.length = l.cells.length + Node.sizeAll nodes := by
  simp [place]

@[simp] theorem place_nil (l : Linked) (parent : Nat) : l.place parent [] = l := by
  have hhold : Cell.hold [] = id := funext Cell.hold_nil
  simp [place, hhold]

/-- An empty element is placed as a new child. -/
theorem addElement_eq_place (l : Linked) (parent : Nat) (tag : String)
    (attributes : List (String × String)) :
    l.addElement parent tag attributes = l.place parent [.element tag attributes []] := by
  have hhold : Cell.hold [.element l.cells.length] = (·.addChild l.cells.length) := rfl
  simp [addElement, place, hhold]

theorem addText_eq_place (l : Linked) (parent : Nat) (data : String) :
    l.addText parent data = l.place parent [.text data] := by
  have hhold : Cell.hold [.text data] = (·.addText data) := by
    funext c
    simp [Cell.hold, Cell.addText, Item.id?]
  simp [addText, place, hhold]

/-- Nodes are placed one after the other, or all at once. -/
theorem place_place {l : Linked} {parent : Nat} (hparent : parent < l.cells.length)
    (xs ys : List Node) : (l.place parent xs).place parent ys = l.place parent (xs ++ ys) := by
  have hlt : parent < (l.cells.modify parent (Cell.hold (Node.itemsOf l.cells.length xs))).length :=
    by rwa [List.length_modify]
  have hhold : Cell.hold (Node.itemsOf l.cells.length (xs ++ ys)) =
      Cell.hold (Node.itemsOf (l.cells.length + Node.sizeAll xs) ys) ∘
        Cell.hold (Node.itemsOf l.cells.length xs) := by
    funext c
    rw [Function.comp_apply, Cell.hold_hold, Node.itemsOf_append]
  rw [place, length_place]
  simp only [place]
  rw [modify_append_of_lt hlt, List.modify_modify_eq, ← hhold, Node.layoutAll_append,
    List.append_assoc]

@[simp] theorem place_push (l : Linked) (id parent : Nat) (nodes : List Node) :
    (l.push id).place parent nodes = (l.place parent nodes).push id :=
  rfl

/-- What is placed under an element that was placed last might as well have stood in it from the
start. -/
theorem place_place_within (l : Linked) (parent : Nat) (tag : String)
    (attributes : List (String × String)) (content nodes : List Node) :
    (l.place parent [.element tag attributes content]).place l.cells.length nodes =
      l.place parent [.element tag attributes (content ++ nodes)] := by
  have hlength : (l.cells.modify parent (Cell.hold [.element l.cells.length])).length =
      l.cells.length := List.length_modify ..
  have hnumber : l.cells.length + (Node.sizeAll content + 1) =
      l.cells.length + 1 + Node.sizeAll content := by omega
  rw [place, length_place]
  simp only [place, Node.itemsOf_cons, Node.item_element, Node.itemsOf_nil, Node.layoutAll_cons,
    Node.layout_element, Node.layoutAll_nil, List.append_nil, Node.sizeAll_cons, Node.size_element,
    Node.sizeAll_nil, Nat.add_zero]
  rw [modify_append_cons hlength, hnumber, Node.itemsOf_append, Node.layoutAll_append]
  simp [Cell.hold]

end Linked

end Clickpath.Markup
