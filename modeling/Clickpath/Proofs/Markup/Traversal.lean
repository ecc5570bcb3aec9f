import Clickpath.Proofs.Markup.Layout

/-! # Following the links

Elements are visited through their lists of children, texts are collected through contents, and a
tree can be recognised by both together with the links to parents. Where the elements of a tree
stand in one row, all three find this tree: the visit counts the row up, and nothing is met twice.
-/

namespace Clickpath.Markup

namespace Linked

/-! ## Visits -/

/-- A visit to elements: each one, then those inside of it, then the next one. -/
inductive Visits (l : Linked) : List Nat → List Nat → Prop
  | nil : Visits l [] []
  | cons {id : Nat} {rest inner later : List Nat} {c : Cell} (hcell : l.cells[id]? = some c)
      (hinner : Visits l c.children inner) (hlater : Visits l rest later) :
      Visits l (id :: rest) (id :: (inner ++ later))

/-- The text in content: its texts and those of the elements in it, joined. -/
inductive Says (l : Linked) : List Item → String → Prop
  | nil : Says l [] ""
  | text {data later : String} {rest : List Item} (hlater : Says l rest later) :
      Says l (.text data :: rest) (data ++ later)
  | element {id : Nat} {rest : List Item} {inner later : String} {c : Cell}
      (hcell : l.cells[id]? = some c) (hinner : Says l c.content inner)
      (hlater : Says l rest later) : Says l (.element id :: rest) (inner ++ later)

/-- The links leave no choice which elements a visit meets and in which order. -/
theorem Visits.unique {l : Linked} {ids first second : List Nat} (hfirst : l.Visits ids first)
    (hsecond : l.Visits ids second) : first = second := by
  induction hfirst generalizing second with
  | nil =>
      cases hsecond
      rfl
  | cons hcell _ _ ihinner ihlater =>
      cases hsecond with
      | cons hcell' hinner' hlater' =>
          rw [hcell] at hcell'
          cases hcell'
          rw [ihinner hinner', ihlater hlater']

/-- The links leave no choice which text is collected. -/
theorem Says.unique {l : Linked} {items : List Item} {first second : String}
    (hfirst : l.Says items first) (hsecond : l.Says items second) : first = second := by
  induction hfirst generalizing second with
  | nil =>
      cases hsecond
      rfl
  | text _ ih =>
      cases hsecond with
      | text hlater' => rw [ih hlater']
  | element hcell _ _ ihinner ihlater =>
      cases hsecond with
      | element hcell' hinner' hlater' =>
          rw [hcell] at hcell'
          cases hcell'
          rw [ihinner hinner', ihlater hlater']

theorem Visits.append {l : Linked} {xs ys first second : List Nat} (hfirst : l.Visits xs first)
    (hsecond : l.Visits ys second) : l.Visits (xs ++ ys) (first ++ second) := by
  induction hfirst with
  | nil => exact hsecond
  | cons hcell hinner _ _ ih =>
      rw [List.cons_append, List.cons_append, List.append_assoc]
      exact .cons hcell hinner ih

/-- The text in two contents is that of both, joined. -/
theorem Says.append {l : Linked} {xs ys : List Item} {first second : String}
    (hfirst : l.Says xs first) (hsecond : l.Says ys second) :
    l.Says (xs ++ ys) (first ++ second) := by
  induction hfirst with
  | nil => simpa using hsecond
  | text _ ih =>
      rw [List.cons_append, String.append_assoc]
      exact .text ih
  | element hcell hinner _ _ ih =>
      rw [List.cons_append, String.append_assoc]
      exact .element hcell hinner ih

end Linked

/-! ## Trees -/

namespace Node

mutual

/-- An item is a node under a parent: a text is itself, and an element has the tag, the attributes
and the content of the node, its parent for a parent, and its children once more in its content. -/
def StandsAs (l : Linked) (parent : Nat) : Node → Item → Prop
  | text data, item => item = .text data
  | element tag attributes content, item =>
      ∃ id c, item = .element id ∧ l.cells[id]? = some c ∧ c.tag = tag ∧
        c.attributes = attributes ∧ c.parent = some parent ∧
        c.children = c.content.filterMap Item.id? ∧ StandAs l id content c.content

/-- Items are nodes under a parent, one by one. -/
def StandAs (l : Linked) (parent : Nat) : List Node → List Item → Prop
  | [], items => items = []
  | node :: rest, items =>
      ∃ item later,
        items = item :: later ∧ StandsAs l parent node item ∧ StandAs l parent rest later

end

end Node

/-! ## Rows -/

namespace Linked

/-- Linked elements stand in a row from a number on. -/
def HasRow (l : Linked) (first : Nat) (cells : List Cell) : Prop := cells <+: l.cells.drop first

theorem HasRow.left {l : Linked} {first : Nat} {xs ys : List Cell} (h : l.HasRow first (xs ++ ys)) :
    l.HasRow first xs :=
  (List.prefix_append xs ys).trans h

theorem HasRow.right {l : Linked} {first : Nat} {xs ys : List Cell}
    (h : l.HasRow first (xs ++ ys)) : l.HasRow (first + xs.length) ys := by
  obtain ⟨behind, hbehind⟩ := h
  refine ⟨behind, ?_⟩
  rw [← List.drop_drop, ← hbehind, List.append_assoc, List.drop_left]

theorem HasRow.head {l : Linked} {first : Nat} {c : Cell} {rest : List Cell}
    (h : l.HasRow first (c :: rest)) : l.cells[first]? = some c := by
  obtain ⟨behind, hbehind⟩ := h
  have hhead : (l.cells.drop first)[0]? = some c := by rw [← hbehind]; rfl
  simpa using hhead

theorem HasRow.tail {l : Linked} {first : Nat} {c : Cell} {rest : List Cell}
    (h : l.HasRow first (c :: rest)) : l.HasRow (first + 1) rest := by
  have hrow : l.HasRow first ([c] ++ rest) := h
  exact hrow.right

end Linked

namespace Node

/-- The children among the items of nodes. -/
def idsOf (first : Nat) (nodes : List Node) : List Nat := (itemsOf first nodes).filterMap Item.id?

mutual

/-- The row of a node is visited from its first element to its last one. -/
theorem visits_layout {l : Linked} {parent first : Nat} :
    (node : Node) → l.HasRow first (layout parent first node) →
      l.Visits (item first node).id?.toList (List.range' first (size node))
  | .text data, _ => by simpa [Item.id?] using Linked.Visits.nil
  | .element tag attributes content, hrow => by
      rw [layout_element] at hrow
      have hinner := visits_layoutAll content hrow.tail
      have hvisits := Linked.Visits.cons hrow.head hinner .nil
      rw [List.append_nil] at hvisits
      rw [size_element, List.range'_succ]
      exact hvisits

/-- A row of elements is visited from its first to its last. -/
theorem visits_layoutAll {l : Linked} {parent first : Nat} :
    (nodes : List Node) → l.HasRow first (layoutAll parent first nodes) →
      l.Visits (idsOf first nodes) (List.range' first (sizeAll nodes))
  | [], _ => by simpa [idsOf] using Linked.Visits.nil
  | node :: rest, hrow => by
      rw [layoutAll_cons] at hrow
      have hrest := hrow.right
      rw [length_layout] at hrest
      have hids : idsOf first (node :: rest) =
          (item first node).id?.toList ++ idsOf (first + size node) rest := by
        rw [idsOf, itemsOf_cons, List.filterMap_cons]
        cases hid : (item first node).id? <;> simp [idsOf]
      rw [hids, sizeAll_cons, ← List.range'_append_1]
      exact (visits_layout node hrow.left).append (visits_layoutAll rest hrest)

end

mutual

/-- The row of a node says its text. -/
theorem says_layout {l : Linked} {parent first : Nat} :
    (node : Node) → l.HasRow first (layout parent first node) →
      l.Says [item first node] (allText node)
  | .text data, _ => by
      have hsays : l.Says [.text data] (data ++ "") := .text .nil
      rw [String.append_empty] at hsays
      rwa [allText]
  | .element tag attributes content, hrow => by
      rw [layout_element] at hrow
      have hinner := says_layoutAll content hrow.tail
      have hsays := Linked.Says.element hrow.head hinner .nil
      rw [String.append_empty] at hsays
      rwa [allText]

/-- The text in a row of elements is that of its nodes. -/
theorem says_layoutAll {l : Linked} {parent first : Nat} :
    (nodes : List Node) → l.HasRow first (layoutAll parent first nodes) →
      l.Says (itemsOf first nodes) (allTextOf nodes)
  | [], _ => by
      rw [allTextOf]
      exact .nil
  | node :: rest, hrow => by
      rw [layoutAll_cons] at hrow
      have hrest := hrow.right
      rw [length_layout] at hrest
      rw [allTextOf]
      exact (says_layout node hrow.left).append (says_layoutAll rest hrest)

end

mutual

/-- The row of a node is this node. -/
theorem standsAs_layout {l : Linked} {parent first : Nat} :
    (node : Node) → l.HasRow first (layout parent first node) →
      StandsAs l parent node (item first node)
  | .text data, _ => by rw [StandsAs, item_text]
  | .element tag attributes content, hrow => by
      rw [layout_element] at hrow
      rw [StandsAs]
      exact ⟨first, _, rfl, hrow.head, rfl, rfl, rfl, rfl, standAs_layoutAll content hrow.tail⟩

theorem standAs_layoutAll {l : Linked} {parent first : Nat} :
    (nodes : List Node) → l.HasRow first (layoutAll parent first nodes) →
      StandAs l parent nodes (itemsOf first nodes)
  | [], _ => by rw [StandAs, itemsOf_nil]
  | node :: rest, hrow => by
      rw [layoutAll_cons] at hrow
      have hrest := hrow.right
      rw [length_layout] at hrest
      rw [StandAs]
      exact ⟨_, _, rfl, standsAs_layout node hrow.left, standAs_layoutAll rest hrest⟩

end

end Node

namespace Linked

/-- Placed nodes stand in a row behind everything else. -/
theorem hasRow_place (l : Linked) (parent : Nat) (nodes : List Node) :
    (l.place parent nodes).HasRow l.cells.length
      (Node.layoutAll parent l.cells.length nodes) := by
  have hlength : (l.cells.modify parent (Cell.hold (Node.itemsOf l.cells.length nodes))).length =
      l.cells.length := List.length_modify ..
  exact ⟨[], by rw [List.append_nil, place, List.drop_left' hlength]⟩

/-- An element got nodes for further content, and nothing else changed. -/
structure Gained (l l' : Linked) (id : Nat) (nodes : List Node) : Prop where
  stack : l'.stack = l.stack
  others : ∀ other, other ≠ id → other < l.cells.length → l'.cells[other]? = l.cells[other]?
  itself : ∃ c items, l.cells[id]? = some c ∧ l'.cells[id]? = some (c.hold items) ∧
    Node.StandAs l' id nodes items
  count : l'.cells.length = l.cells.length + Node.sizeAll nodes

/-- Nodes that are placed under an element are gained by this element alone. -/
theorem gained_place {l : Linked} {id : Nat} (hid : id < l.cells.length) (nodes : List Node) :
    l.Gained (l.place id nodes) id nodes where
  stack := rfl
  others other hother hlt := by
    have hbefore : other <
        (l.cells.modify id (Cell.hold (Node.itemsOf l.cells.length nodes))).length := by
      rwa [List.length_modify]
    rw [place, List.getElem?_append_left hbefore, List.getElem?_modify_ne _ _ hother.symm]
  itself := by
    have hbefore : id <
        (l.cells.modify id (Cell.hold (Node.itemsOf l.cells.length nodes))).length := by
      rwa [List.length_modify]
    refine ⟨l.cells[id], Node.itemsOf l.cells.length nodes, List.getElem?_eq_getElem hid, ?_,
      Node.standAs_layoutAll nodes (hasRow_place l id nodes)⟩
    rw [place, List.getElem?_append_left hbefore, List.getElem?_modify_eq,
      List.getElem?_eq_getElem hid]
    rfl
  count := length_place l id nodes

end Linked

end Clickpath.Markup
