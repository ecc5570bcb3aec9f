import Clickpath.Locator.Place

/-! # The tree of places

The elements of a document in document order, and the relation of an element to its children. Two
facts carry everything that is said about selectors: an element stands in exactly one place of the
list, and it is reached from the root through children only.
-/

namespace Clickpath.Locator

open Markup

namespace Place

/-- The places of the elements among nodes, without those inside of them, given the nodes before. -/
def among (above : List Spot) (before : List Node) : List Node → List Place
  | [] => []
  | .text data :: after => among above (.text data :: before) after
  | .element tag attributes content :: after =>
      ⟨⟨tag, attributes, before, after⟩, content, above⟩ ::
        among above (.element tag attributes content :: before) after

def children (p : Place) : List Place := among (p.spot :: p.above) [] p.content

def descendants (p : Place) : List Place := withinAll (p.spot :: p.above) [] p.content

/-- The spots of an element and of the elements around it, the innermost first. -/
def chain (p : Place) : List Spot := p.spot :: p.above

theorem path_eq_chain (p : Place) : p.path = p.chain.reverse.map Spot.pathNode :=
  rfl

end Place

def elements (d : Document) : List Place := rootPlace d :: placesBelow d

/-- The places of the elements that have no element around them: the root and its siblings. -/
def topPlaces (d : Document) : List Place :=
  Place.among [] [] (d.before ++ d.root :: d.after)

namespace Place

/-! ## Siblings -/

/-- The elements among nodes have the same elements around them. -/
theorem above_of_mem_among {above : List Spot} {before nodes : List Node} {p : Place}
    (hp : p ∈ among above before nodes) : p.above = above := by
  induction nodes generalizing before with
  | nil => cases hp
  | cons node after ih =>
      cases node with
      | text data => exact ih hp
      | element tag attributes content =>
          rcases List.mem_cons.mp hp with rfl | hlater
          · rfl
          · exact ih hlater

theorem chain_of_mem_children {p q : Place} (hq : q ∈ p.children) :
    q.chain = q.spot :: p.chain := by
  rw [chain, above_of_mem_among hq]
  rfl

theorem path_of_mem_children {p q : Place} (hq : q ∈ p.children) :
    q.path = p.path ++ [q.spot.pathNode] := by
  rw [path_eq_chain, chain_of_mem_children hq, List.reverse_cons, List.map_append, ← path_eq_chain]
  rfl

/-- The elements in front of a place among siblings are those that its spot remembers. -/
theorem tags_before_of_among_eq {above : List Spot} {before nodes : List Node}
    {front back : List Place} {p : Place} (hsplit : among above before nodes = front ++ p :: back) :
    Node.tags p.spot.before.reverse =
      Node.tags before.reverse ++ front.map fun place => place.spot.tag := by
  induction nodes generalizing before front with
  | nil => simp [among] at hsplit
  | cons node after ih =>
      cases node with
      | text data =>
          rw [ih hsplit, List.reverse_cons, Node.tags, List.filterMap_append]
          simp [Node.tags, Node.tag?]
      | element tag attributes content =>
          cases front with
          | nil =>
              obtain ⟨rfl, _⟩ := List.cons.inj hsplit
              simp
          | cons first front =>
              obtain ⟨rfl, hrest⟩ := List.cons.inj hsplit
              rw [ih hrest, List.reverse_cons, Node.tags, List.filterMap_append]
              simp [Node.tags, Node.tag?]

/-- An element is among nodes, with the nodes in front of it as its spot remembers them. -/
theorem among_append_element (above : List Spot) (before front back : List Node) (tag : String)
    (attributes : List (String × String)) (content : List Node) :
    (⟨⟨tag, attributes, front.reverse ++ before, back⟩, content, above⟩ : Place) ∈
      among above before (front ++ .element tag attributes content :: back) := by
  induction front generalizing before with
  | nil => exact List.mem_cons_self
  | cons node front ih =>
      rw [List.reverse_cons, List.append_assoc]
      cases node with
      | text data => exact ih _
      | element _ _ _ => exact List.mem_cons_of_mem _ (ih _)

theorem among_subset_withinAll {above : List Spot} {before nodes : List Node} {p : Place}
    (hp : p ∈ among above before nodes) : p ∈ withinAll above before nodes := by
  induction nodes generalizing before with
  | nil => cases hp
  | cons node after ih =>
      rw [withinAll, List.mem_append]
      cases node with
      | text data => exact Or.inr (ih hp)
      | element tag attributes content =>
          rcases List.mem_cons.mp hp with rfl | hlater
          · rw [within]
            exact Or.inl List.mem_cons_self
          · exact Or.inr (ih hlater)

end Place

theorem rootPlace_mem_topPlaces (d : Document) : rootPlace d ∈ topPlaces d := by
  have hmem := Place.among_append_element [] [] d.before d.after Document.rootTag d.attributes
    d.content
  rw [List.append_nil] at hmem
  exact hmem

/-! ## Descent through children -/

namespace Place

/-- A place leads to another through children. -/
inductive LeadsTo (start : Place) : Place → Prop where
  | here : LeadsTo start start
  | child {p q : Place} (hp : LeadsTo start p) (hq : q ∈ p.children) : LeadsTo start q

mutual

/-- What stands in a node is reached from wherever the node itself is. -/
theorem leadsTo_of_mem_within {start : Place} {above : List Spot} {before after : List Node} :
    (node : Node) → {p : Place} →
    (∀ tag attributes content, node = .element tag attributes content →
      LeadsTo start ⟨⟨tag, attributes, before, after⟩, content, above⟩) →
    p ∈ within above before after node → LeadsTo start p
  | .text _, _, _, hp => by
      rw [within] at hp
      cases hp
  | .element tag attributes content, p, hnode, hp => by
      have hself := hnode tag attributes content rfl
      rw [within] at hp
      rcases List.mem_cons.mp hp with rfl | hinside
      · exact hself
      · exact leadsTo_of_mem_withinAll content (fun child hchild => .child hself hchild) hinside

/-- What stands in nodes is reached from wherever the elements among them are. -/
theorem leadsTo_of_mem_withinAll {start : Place} {above : List Spot} {before : List Node} :
    (nodes : List Node) → {p : Place} →
    (∀ child ∈ among above before nodes, LeadsTo start child) →
    p ∈ withinAll above before nodes → LeadsTo start p
  | [], _, _, hp => by
      rw [withinAll] at hp
      cases hp
  | node :: after, p, hnodes, hp => by
      rw [withinAll, List.mem_append] at hp
      cases hp with
      | inl hfirst =>
          refine leadsTo_of_mem_within node ?_ hfirst
          rintro tag attributes content rfl
          exact hnodes _ List.mem_cons_self
      | inr hrest =>
          refine leadsTo_of_mem_withinAll after ?_ hrest
          intro child hchild
          cases node with
          | text data => exact hnodes child hchild
          | element tag attributes content =>
              exact hnodes child (List.mem_cons_of_mem _ hchild)

end

theorem leadsTo_of_mem_descendants {p q : Place} (hq : q ∈ p.descendants) : p.LeadsTo q :=
  leadsTo_of_mem_withinAll p.content (fun _ hchild => .child .here hchild) hq

mutual

/-- The children of an element in a node stand in the node as well. -/
theorem children_subset_within {above : List Spot} {before after : List Node} :
    (node : Node) → {p q : Place} → p ∈ within above before after node → q ∈ p.children →
    q ∈ within above before after node
  | .text _, _, _, hp, _ => by
      rw [within] at hp
      cases hp
  | .element tag attributes content, p, q, hp, hq => by
      rw [within] at hp ⊢
      rcases List.mem_cons.mp hp with rfl | hinside
      · exact List.mem_cons_of_mem _ (among_subset_withinAll hq)
      · exact List.mem_cons_of_mem _ (children_subset_withinAll content hinside hq)

theorem children_subset_withinAll {above : List Spot} {before : List Node} :
    (nodes : List Node) → {p q : Place} → p ∈ withinAll above before nodes → q ∈ p.children →
    q ∈ withinAll above before nodes
  | [], _, _, hp, _ => by
      rw [withinAll] at hp
      cases hp
  | node :: after, p, q, hp, hq => by
      rw [withinAll, List.mem_append] at hp ⊢
      exact hp.imp (children_subset_within node · hq) (children_subset_withinAll after · hq)

end

theorem LeadsTo.trans {p q r : Place} (hq : p.LeadsTo q) (hr : q.LeadsTo r) : p.LeadsTo r := by
  induction hr with
  | here => exact hq
  | child _ hmem ih => exact ih.child hmem

/-- The spots around an element inside of another end with those of the other. -/
theorem LeadsTo.chain {p q : Place} (h : p.LeadsTo q) : ∃ inner, q.chain = inner ++ p.chain := by
  induction h with
  | here => exact ⟨[], rfl⟩
  | child _ hq ih =>
      obtain ⟨inner, hinner⟩ := ih
      exact ⟨_ :: inner, by rw [chain_of_mem_children hq, hinner, List.cons_append]⟩

/-! ## Every element stands in one place -/

mutual

/-- The chain of a place in a node goes through the spot of the node. -/
theorem chain_of_mem_within {above : List Spot} {before after : List Node} :
    (node : Node) → {p : Place} → p ∈ within above before after node →
    ∃ inner spot, p.chain = inner ++ spot :: above ∧ spot.before = before
  | .text _, _, hp => by
      rw [within] at hp
      cases hp
  | .element tag attributes content, p, hp => by
      rw [within] at hp
      rcases List.mem_cons.mp hp with rfl | hinside
      · exact ⟨[], _, rfl, rfl⟩
      · obtain ⟨inner, spot, hchain, _⟩ := chain_of_mem_withinAll content hinside
        exact ⟨inner ++ [spot], _, by rw [hchain, List.append_assoc]; rfl, rfl⟩

/-- The chain of a place in nodes goes through a spot behind all nodes before them. -/
theorem chain_of_mem_withinAll {above : List Spot} {before : List Node} :
    (nodes : List Node) → {p : Place} → p ∈ withinAll above before nodes →
    ∃ inner spot, p.chain = inner ++ spot :: above ∧ before.length ≤ spot.before.length
  | [], _, hp => by
      rw [withinAll] at hp
      cases hp
  | node :: after, p, hp => by
      rw [withinAll, List.mem_append] at hp
      cases hp with
      | inl hfirst =>
          obtain ⟨inner, spot, hchain, hbefore⟩ := chain_of_mem_within node hfirst
          exact ⟨inner, spot, hchain, Nat.le_of_eq (congrArg List.length hbefore.symm)⟩
      | inr hrest =>
          obtain ⟨inner, spot, hchain, hbefore⟩ := chain_of_mem_withinAll after hrest
          refine ⟨inner, spot, hchain, ?_⟩
          rw [List.length_cons] at hbefore
          omega

end

mutual

/-- No element of a node is placed twice. -/
theorem nodup_within (above : List Spot) (before after : List Node) :
    (node : Node) → (within above before after node).Nodup
  | .text _ => by
      rw [within]
      exact List.nodup_nil
  | .element tag attributes content => by
      rw [within]
      refine List.nodup_cons.mpr ⟨?_, nodup_withinAll _ [] content⟩
      -- An element inside has a longer chain than the element itself.
      intro hinside
      obtain ⟨inner, spot, hchain, _⟩ := chain_of_mem_withinAll content hinside
      have hlength := congrArg List.length hchain
      simp only [chain, List.length_cons, List.length_append] at hlength
      omega

/-- No element among nodes is placed twice: those in front have fewer nodes before them. -/
theorem nodup_withinAll (above : List Spot) (before : List Node) :
    (nodes : List Node) → (withinAll above before nodes).Nodup
  | [] => by
      rw [withinAll]
      exact List.nodup_nil
  | node :: after => by
      rw [withinAll]
      refine List.nodup_append.mpr ⟨nodup_within above before after node,
        nodup_withinAll above (node :: before) after, ?_⟩
      rintro p hfirst _ hrest rfl
      obtain ⟨inner, spot, hchain, hbefore⟩ := chain_of_mem_within node hfirst
      obtain ⟨inner', spot', hchain', hbefore'⟩ := chain_of_mem_withinAll after hrest
      -- Both chains go through one spot at the depth of these nodes, so it is the same.
      obtain ⟨_, hspots⟩ := List.append_inj' (hchain.symm.trans hchain') rfl
      obtain ⟨rfl, _⟩ := List.cons.inj hspots
      rw [hbefore, List.length_cons] at hbefore'
      omega

end

end Place

/-- An element of a document is what the root leads to. -/
theorem mem_elements_iff {d : Document} {p : Place} :
    p ∈ elements d ↔ (rootPlace d).LeadsTo p := by
  constructor
  · intro hp
    rcases List.mem_cons.mp hp with rfl | hbelow
    · exact .here
    · exact Place.leadsTo_of_mem_descendants hbelow
  · intro hp
    induction hp with
    | here => exact List.mem_cons_self
    | child _ hq ih =>
        apply List.mem_cons_of_mem
        rcases List.mem_cons.mp ih with rfl | hbelow
        · exact Place.among_subset_withinAll hq
        · exact Place.children_subset_withinAll d.content hbelow hq

/-- No element of a document is placed twice. -/
theorem elements_nodup (d : Document) : (elements d).Nodup := by
  refine List.nodup_cons.mpr ⟨?_, Place.nodup_withinAll _ _ _⟩
  intro hbelow
  obtain ⟨inner, spot, hchain, _⟩ := Place.chain_of_mem_withinAll d.content hbelow
  have hlength := congrArg List.length hchain
  simp only [Place.chain, rootPlace, List.length_cons, List.length_append] at hlength
  omega

end Clickpath.Locator
