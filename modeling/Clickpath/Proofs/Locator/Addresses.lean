import Mathlib.Data.List.InsertIdx
import Clickpath.Proofs.Locator.Tree

/-! # Addresses

An address leads to an element: level by level, it holds the position of the next node among those
around it. Nodes can be added to the content of an element and removed from it, both at an address,
and where a node is added, the nodes behind it move on by one position.
-/

namespace Clickpath.Locator

open Markup

/-! ## Elements at an address -/

def Place.node (p : Place) : Node := .element p.spot.tag p.spot.attributes p.content

/-- The place of the element at a position among nodes. -/
def childAt? (above : List Spot) (nodes : List Node) (position : Nat) : Option Place :=
  match nodes[position]? with
  | some (.element tag attributes content) =>
    some ⟨⟨tag, attributes, (nodes.take position).reverse, nodes.drop (position + 1)⟩, content,
      above⟩
  | _ => none

/-- The place of the element at an address. -/
def placeAt? (above : List Spot) (nodes : List Node) : List Nat → Option Place
  | [] => none
  | [position] => childAt? above nodes position
  | position :: next :: inner =>
    (childAt? above nodes position).bind fun p => placeAt? p.chain p.content (next :: inner)

/-- What stands at an address is an element at its first position or in this element. -/
theorem placeAt?_cons_eq_some_iff {above : List Spot} {nodes : List Node} {position : Nat}
    {inner : List Nat} {p : Place} :
    placeAt? above nodes (position :: inner) = some p ↔
      ∃ child, childAt? above nodes position = some child ∧
        (inner = [] ∧ child = p ∨ placeAt? child.chain child.content inner = some p) := by
  cases inner with
  | nil => simp [placeAt?]
  | cons next inner => simp [placeAt?, Option.bind_eq_some_iff]

/-- The element at a position is the one with so many nodes in front of it. -/
theorem childAt?_eq_some_iff {above : List Spot} {nodes : List Node} {position : Nat} {p : Place} :
    childAt? above nodes position = some p ↔
      p.above = above ∧ p.spot.before.length = position ∧
        nodes = p.spot.before.reverse ++ p.node :: p.spot.after := by
  constructor
  · intro hp
    rw [childAt?] at hp
    split at hp
    next tag attributes content hnode =>
      obtain ⟨hlt, hget⟩ := List.getElem?_eq_some_iff.mp hnode
      obtain rfl := Option.some.inj hp
      refine ⟨rfl, ?_, ?_⟩
      · simp [Nat.min_eq_left (Nat.le_of_lt hlt)]
      · rw [List.reverse_reverse, Place.node, ← hget, ← List.drop_eq_getElem_cons hlt,
          List.take_append_drop]
    next => cases hp
  · rintro ⟨rfl, rfl, rfl⟩
    have hnode : (p.spot.before.reverse ++ p.node :: p.spot.after)[p.spot.before.length]? =
        some p.node := by simp
    have hbefore : (p.spot.before.reverse ++ p.node :: p.spot.after).take p.spot.before.length =
        p.spot.before.reverse := List.take_left' List.length_reverse
    have hafter : (p.spot.before.reverse ++ p.node :: p.spot.after).drop
        (p.spot.before.length + 1) = p.spot.after := by
      rw [List.append_cons]
      exact List.drop_left' (by simp)
    rw [childAt?, hnode, hbefore, hafter, List.reverse_reverse]
    rfl

theorem getElem?_of_childAt? {above : List Spot} {nodes : List Node} {position : Nat} {p : Place}
    (hp : childAt? above nodes position = some p) : nodes[position]? = some p.node := by
  obtain ⟨_, rfl, rfl⟩ := childAt?_eq_some_iff.mp hp
  simp

theorem mem_among_of_childAt? {above : List Spot} {nodes : List Node} {position : Nat} {p : Place}
    (hp : childAt? above nodes position = some p) : p ∈ Place.among above [] nodes := by
  obtain ⟨rfl, _, rfl⟩ := childAt?_eq_some_iff.mp hp
  have hmem := Place.among_append_element p.above [] p.spot.before.reverse p.spot.after p.spot.tag
    p.spot.attributes p.content
  rwa [List.reverse_reverse, List.append_nil] at hmem

theorem mem_withinAll_of_leadsTo {above : List Spot} {before nodes : List Node} {p q : Place}
    (hp : p ∈ Place.withinAll above before nodes) (hq : p.LeadsTo q) :
    q ∈ Place.withinAll above before nodes := by
  induction hq with
  | here => exact hp
  | child _ hchild ih => exact Place.children_subset_withinAll nodes ih hchild

/-- What stands at an address is among the elements in the nodes. -/
theorem mem_withinAll_of_placeAt? {above : List Spot} {nodes : List Node} {address : List Nat}
    {p : Place} (hp : placeAt? above nodes address = some p) :
    p ∈ Place.withinAll above [] nodes := by
  induction address generalizing above nodes with
  | nil => cases hp
  | cons position inner ih =>
      obtain ⟨child, hchild, hinner⟩ := placeAt?_cons_eq_some_iff.mp hp
      have hmem := Place.among_subset_withinAll (mem_among_of_childAt? hchild)
      obtain ⟨_, rfl⟩ | hinner := hinner
      · exact hmem
      · exact mem_withinAll_of_leadsTo hmem (Place.leadsTo_of_mem_descendants (ih hinner))

mutual

/-- Every element in a node among others has an address. -/
theorem exists_address_within {above : List Spot} {before after : List Node} :
    (node : Node) → {p : Place} → p ∈ Place.within above before after node →
    ∃ inner, placeAt? above (before.reverse ++ node :: after) (before.length :: inner) = some p
  | .text _, _, hp => by
      rw [Place.within] at hp
      cases hp
  | .element tag attributes content, p, hp => by
      have hchild : childAt? above (before.reverse ++ .element tag attributes content :: after)
          before.length = some ⟨⟨tag, attributes, before, after⟩, content, above⟩ :=
        childAt?_eq_some_iff.mpr ⟨rfl, rfl, rfl⟩
      rw [Place.within] at hp
      rcases List.mem_cons.mp hp with rfl | hinside
      · exact ⟨[], placeAt?_cons_eq_some_iff.mpr ⟨_, hchild, Or.inl ⟨rfl, rfl⟩⟩⟩
      · obtain ⟨position, inner, hinner⟩ := exists_address_withinAll content hinside
        exact ⟨position :: inner, placeAt?_cons_eq_some_iff.mpr ⟨_, hchild, Or.inr hinner⟩⟩

/-- Every element has an address: it is reached from the top position by position. -/
theorem exists_address_withinAll {above : List Spot} {before : List Node} :
    (nodes : List Node) → {p : Place} → p ∈ Place.withinAll above before nodes →
    ∃ position inner, placeAt? above (before.reverse ++ nodes) (position :: inner) = some p
  | [], _, hp => by
      rw [Place.withinAll] at hp
      cases hp
  | node :: after, p, hp => by
      rw [Place.withinAll, List.mem_append] at hp
      cases hp with
      | inl hfirst =>
          obtain ⟨inner, hinner⟩ := exists_address_within node hfirst
          exact ⟨_, inner, hinner⟩
      | inr hrest =>
          obtain ⟨position, inner, hinner⟩ := exists_address_withinAll after hrest
          rw [List.reverse_cons, List.append_assoc] at hinner
          exact ⟨position, inner, hinner⟩

end

/-- The elements in nodes are those that stand at an address. -/
theorem mem_withinAll_iff {nodes : List Node} {p : Place} :
    p ∈ Place.withinAll [] [] nodes ↔ ∃ address, placeAt? [] nodes address = some p := by
  constructor
  · intro hp
    obtain ⟨position, inner, hinner⟩ := exists_address_withinAll nodes hp
    exact ⟨position :: inner, hinner⟩
  · rintro ⟨address, hp⟩
    exact mem_withinAll_of_placeAt? hp

/-- The elements of a document are among those of all nodes on top. -/
theorem exists_address_of_mem_elements {d : Document} {p : Place} (hp : p ∈ elements d) :
    ∃ address, placeAt? [] (d.before ++ d.root :: d.after) address = some p := by
  rw [← mem_withinAll_iff]
  exact mem_withinAll_of_leadsTo (Place.among_subset_withinAll (rootPlace_mem_topPlaces d))
    (mem_elements_iff.mp hp)

/-! ## Adding and removing nodes -/

/-- The same element with its content changed. A text has none. -/
def changeContent (change : List Node → List Node) : Node → Node
  | .text data => .text data
  | .element tag attributes content => .element tag attributes (change content)

/-- Changes the content of the element at an address. The empty address is that of what holds the
nodes. -/
def changeAt (change : List Node → List Node) : List Nat → List Node → List Node
  | [], nodes => change nodes
  | position :: inner, nodes => nodes.modify position (changeContent (changeAt change inner))

def insertAt (holder : List Nat) (position : Nat) (added : Node) (nodes : List Node) : List Node :=
  changeAt (·.insertIdx position added) holder nodes

def removeAt (holder : List Nat) (position : Nat) (nodes : List Node) : List Node :=
  changeAt (·.eraseIdx position) holder nodes

/-- The address of an element after a node was added. -/
def shift : List Nat → Nat → List Nat → List Nat
  | _, _, [] => []
  | [], added, position :: inner => (if added ≤ position then position + 1 else position) :: inner
  | first :: holder, added, position :: inner =>
    position :: if first = position then shift holder added inner else inner

@[simp] theorem tag?_changeContent (change : List Node → List Node) (node : Node) :
    (changeContent change node).tag? = node.tag? := by
  cases node <;> rfl

theorem tags_cons (node : Node) (rest : List Node) :
    Node.tags (node :: rest) = node.tag?.toList ++ Node.tags rest := by
  rw [Node.tags, List.filterMap_cons]
  cases node.tag? <;> rfl

theorem tags_modify_changeContent (change : List Node → List Node) (changed : Nat)
    (nodes : List Node) :
    Node.tags (nodes.modify changed (changeContent change)) = Node.tags nodes := by
  induction nodes generalizing changed with
  | nil => rw [List.modify_nil]
  | cons node rest ih =>
      cases changed with
      | zero => rw [List.modify_zero_cons, tags_cons, tags_cons, tag?_changeContent]
      | succ changed => rw [List.modify_succ_cons, tags_cons, tags_cons, ih]

/-- A node of another tag does not count. -/
theorem count_tags_insertIdx {node : Node} {tag : String} (htag : node.tag? ≠ some tag)
    {added : Nat} {nodes : List Node} (hadded : added ≤ nodes.length) :
    (Node.tags (nodes.insertIdx added node)).count tag = (Node.tags nodes).count tag := by
  have hperm := (List.perm_insertIdx node nodes hadded).filterMap Node.tag?
  have hnone : node.tag?.toList.count tag = 0 := by
    rw [List.count_eq_zero, Option.mem_toList]
    exact htag
  rw [Node.tags, hperm.count_eq, ← Node.tags, tags_cons, List.count_append, hnone, Nat.zero_add]

/-- The nodes in front of a node, after another one was added in front of it. -/
theorem take_insertIdx_of_le {added position : Nat} (hadded : added ≤ position) (node : Node)
    (nodes : List Node) :
    (nodes.insertIdx added node).take (position + 1) =
      (nodes.take position).insertIdx added node := by
  induction added generalizing position nodes with
  | zero => rfl
  | succ added ih =>
      obtain ⟨position, rfl⟩ := Nat.exists_eq_add_one.mpr (Nat.zero_lt_of_lt hadded)
      cases nodes with
      | nil => rfl
      | cons first rest =>
          rw [List.insertIdx_succ_cons, List.take_succ_cons, List.take_succ_cons,
            List.insertIdx_succ_cons, ih (Nat.le_of_succ_le_succ hadded)]

/-- A change that can be undone in one place is undone by the same address. -/
theorem changeAt_of_inverse {change undo : List Node → List Node}
    (hundo : ∀ nodes, undo (change nodes) = nodes) (holder : List Nat) (nodes : List Node) :
    changeAt undo holder (changeAt change holder nodes) = nodes := by
  induction holder generalizing nodes with
  | nil => exact hundo nodes
  | cons position inner ih =>
      have hcontent : changeContent (changeAt undo inner) ∘ changeContent (changeAt change inner) =
          id := by
        funext node
        cases node with
        | text data => rfl
        | element tag attributes content => simp [changeContent, ih]
      rw [changeAt, changeAt, List.modify_modify_eq, hcontent, List.modify_id]

/-- A node that was added and removed again leaves nothing behind. -/
theorem removeAt_insertAt (holder : List Nat) (position : Nat) (added : Node)
    (nodes : List Node) :
    removeAt holder position (insertAt holder position added nodes) = nodes :=
  changeAt_of_inverse (fun _ => List.eraseIdx_insertIdx_self added) holder nodes

end Clickpath.Locator
