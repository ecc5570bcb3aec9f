import Clickpath.Proofs.Markup.Links
import Clickpath.Proofs.Markup.Rebuilding

/-! # Linked elements mirror the tree in the making

A tree in the making knows only what is still open and what is finished. The linked elements hold
the same: close all that is open, and their row is that of the finished tree. So what is true of
rows is true after any events, and the links, the order and the text of a page are those of the
events.
-/

namespace Clickpath.Markup

namespace Linked

/-- Linked elements and a tree in the making hold the same. An element that is open stands under the
next outer one as it would if it were closed. -/
inductive Mirrors : Linked → Builder → Prop
  | document (top : List Node) : Mirrors (fresh.place 0 top.reverse) ⟨[], top⟩
  | element {l : Linked} {outer : List OpenElement} {top : List Node} {parent : Nat}
      (houter : Mirrors l ⟨outer, top⟩) (hstack : l.stack.head? = some parent) (e : OpenElement) :
      Mirrors ((l.place parent [e.toNode]).push l.cells.length) ⟨e :: outer, top⟩

theorem mirrors_fresh : Mirrors fresh Builder.empty := by
  have hdocument := Mirrors.document []
  rwa [List.reverse_nil, place_nil] at hdocument

/-- The numbers of open elements are those of elements that are there. -/
theorem Mirrors.bounded {l : Linked} {b : Builder} (h : Mirrors l b) :
    ∀ id ∈ l.stack, id < l.cells.length := by
  induction h with
  | document top =>
      intro id hid
      obtain rfl := List.mem_singleton.mp hid
      rw [length_place]
      exact Nat.lt_add_right _ Nat.zero_lt_one
  | element houter hstack e ih =>
      intro id hid
      rw [cells_push, length_place]
      rcases List.mem_cons.mp hid with rfl | hid
      · simp [OpenElement.toNode]
      · have hlt := ih id hid
        omega

/-- A node is placed in both. -/
theorem Mirrors.append {l : Linked} {b : Builder} (h : Mirrors l b) {top : Nat}
    (hstack : l.stack.head? = some top) (node : Node) :
    Mirrors (l.place top [node]) (b.append node) := by
  cases h with
  | document nodes =>
      obtain rfl : 0 = top := Option.some.inj hstack
      rw [place_place Nat.zero_lt_one, ← List.reverse_cons]
      exact .document (node :: nodes)
  | element houter houterStack e =>
      obtain rfl := Option.some.inj hstack
      -- The node is the last one in the element that was placed last.
      rw [place_push, OpenElement.toNode, place_place_within, ← List.reverse_cons]
      exact .element houter houterStack { e with content := node :: e.content }

/-- The innermost open element is closed in both. -/
theorem Mirrors.closeInnermost {l : Linked} {e : OpenElement} {outer : List OpenElement}
    {top : List Node} (h : Mirrors l ⟨e :: outer, top⟩) :
    Mirrors { l with stack := l.stack.tail } (Builder.closeInnermost ⟨e :: outer, top⟩) := by
  cases h with
  | element houter hstack _ => exact houter.append hstack e.toNode

/-- The number of elements that are open. -/
theorem Mirrors.length_stack {l : Linked} {b : Builder} (h : Mirrors l b) :
    l.stack.length = b.stack.length + 1 := by
  induction h with
  | document top => rfl
  | element _ _ _ ih => simp [ih]

/-- Closing so many elements does the same to the linked elements and to the tree. -/
theorem Mirrors.closeMany {count : Nat} {l : Linked} {b : Builder} (h : Mirrors l b)
    (hcount : count ≤ b.stack.length) :
    Mirrors { l with stack := l.stack.drop count } (Builder.closeMany count b) := by
  induction count generalizing l b with
  | zero => exact h
  | succ count ih =>
      obtain ⟨stack, top⟩ := b
      cases stack with
      | nil => exact absurd hcount (Nat.not_succ_le_zero count)
      | cons e outer =>
          have hclosed := ih h.closeInnermost
            (by rw [Builder.length_stack_closeInnermost]; simpa using hcount)
          rw [List.drop_tail] at hclosed
          exact hclosed

/-! ## Names of open elements -/

def name? (l : Linked) (id : Nat) : Option (String × List (String × String)) :=
  l.cells[id]?.map fun c => (c.tag, c.attributes)

theorem hasTag_eq_any (l : Linked) (tag : String) (id : Nat) :
    l.hasTag tag id = (l.name? id).any fun name => name.1 == tag := by
  rw [hasTag, name?, Option.any_map]

/-- Placing keeps the names of all elements that are there. -/
theorem name?_place_of_lt {l : Linked} {id : Nat} (hid : id < l.cells.length) (parent : Nat)
    (nodes : List Node) : (l.place parent nodes).name? id = l.name? id := by
  have hbefore : id <
      (l.cells.modify parent (Cell.hold (Node.itemsOf l.cells.length nodes))).length := by
    rwa [List.length_modify]
  rw [name?, place, List.getElem?_append_left hbefore, List.getElem?_modify, Option.map_eq_map,
    Option.map_map, name?]
  congr 1
  funext c
  rw [Function.comp_apply]
  split <;> rfl

theorem name?_place_self (l : Linked) (parent : Nat) (tag : String)
    (attributes : List (String × String)) (content : List Node) :
    (l.place parent [.element tag attributes content]).name? l.cells.length =
      some (tag, attributes) := by
  have hrow := hasRow_place l parent [.element tag attributes content]
  rw [Node.layoutAll_cons, Node.layout_element, List.cons_append] at hrow
  rw [name?, hrow.head, Option.map_some]

/-- The same elements are open in both, the document apart. -/
theorem Mirrors.names {l : Linked} {b : Builder} (h : Mirrors l b) :
    l.stack.dropLast.map l.name? = b.stack.map fun e => some (e.tag, e.attributes) := by
  induction h with
  | document top => rfl
  | @element l outer top parent houter hstack e ih =>
      have hnonempty : l.stack ≠ [] := stack_ne_nil hstack
      have hkept : l.stack.dropLast.map (l.place parent [e.toNode]).name? =
          l.stack.dropLast.map l.name? := by
        refine List.map_congr_left fun id hid => ?_
        exact name?_place_of_lt (houter.bounded id (List.dropLast_subset _ hid)) parent _
      rw [stack_push, stack_place, List.dropLast_cons_of_ne_nil hnonempty, List.map_cons,
        List.map_cons, ← ih, ← hkept]
      congr 1
      exact name?_place_self l parent e.tag e.attributes e.content.reverse

/-- The innermost element with a tag is found at the same depth. -/
theorem Mirrors.findIdx?_hasTag {l : Linked} {b : Builder} (h : Mirrors l b) (tag : String) :
    l.stack.dropLast.findIdx? (l.hasTag tag) = b.stack.findIdx? fun e => e.tag == tag := by
  have htag : l.hasTag tag = (fun name => name.any fun name => name.1 == tag) ∘ l.name? :=
    funext fun id => hasTag_eq_any l tag id
  rw [htag, ← List.findIdx?_map, h.names, List.findIdx?_map]
  rfl

/-- Closing the innermost element with a tag does the same to the linked elements and to the
tree. -/
theorem Mirrors.close {l : Linked} {b : Builder} (h : Mirrors l b) (tag : String) :
    Mirrors (l.close tag) (b.close tag) := by
  rw [Linked.close, Builder.close, h.findIdx?_hasTag]
  cases hdepth : b.stack.findIdx? fun e => e.tag == tag with
  | none => exact h
  | some depth =>
      obtain ⟨hlt, _⟩ := List.findIdx?_eq_some_iff_getElem.mp hdepth
      exact h.closeMany hlt

/-! ## All events -/

theorem Mirrors.exists_top {l : Linked} {b : Builder} (h : Mirrors l b) :
    ∃ top, l.stack.head? = some top := by
  cases hstack : l.stack with
  | nil =>
      have hlength := h.length_stack
      rw [hstack] at hlength
      exact absurd hlength (Nat.succ_ne_zero _).symm
  | cons top outer => exact ⟨top, rfl⟩

/-- An event does the same to both. -/
theorem Mirrors.feed {l : Linked} {b : Builder} (h : Mirrors l b) (event : Event) :
    ∃ l', l.feed? event = some l' ∧ Mirrors l' (b.feed event) := by
  obtain ⟨top, hstack⟩ := h.exists_top
  cases event with
  | opened tag attributes =>
      cases htag : voidTags.contains tag with
      | true =>
          refine ⟨_, feed?_void hstack htag attributes, ?_⟩
          rw [Builder.feed, if_pos htag]
          exact h.append hstack _
      | false =>
          refine ⟨_, feed?_opened hstack htag attributes, ?_⟩
          rw [Builder.feed, htag, if_neg Bool.false_ne_true]
          exact .element h hstack ⟨tag, attributes, []⟩
  | emptied tag attributes => exact ⟨_, feed?_emptied hstack tag attributes, h.append hstack _⟩
  | closed tag => exact ⟨_, rfl, h.close tag⟩
  | text data => exact ⟨_, feed?_text hstack data, h.append hstack _⟩

/-- No event fails on linked elements that hold the same as a tree, and the two stay alike. -/
theorem Mirrors.feedAll {l : Linked} {b : Builder} (h : Mirrors l b) (events : List Event) :
    ∃ l', l.feedAll? events = some l' ∧ Mirrors l' (b.feedAll events) := by
  induction events generalizing l b with
  | nil => exact ⟨l, rfl, h⟩
  | cons event rest ih =>
      obtain ⟨next, hnext, hmirrors⟩ := h.feed event
      obtain ⟨l', hl', hrest⟩ := ih hmirrors
      exact ⟨l', by rw [feedAll?_cons, hnext, Option.bind_some, hl'], hrest⟩

theorem Mirrors.cells_of_closed {l : Linked} {top : List Node} (h : Mirrors l ⟨[], top⟩) :
    l.cells = (fresh.place 0 top.reverse).cells := by
  cases h
  rfl

/-- The linked elements are those of the finished tree. -/
theorem Mirrors.cells_eq {l : Linked} {b : Builder} (h : Mirrors l b) :
    l.cells = (fresh.place 0 b.nodes).cells := by
  have hclosed := h.closeMany (Nat.le_refl b.stack.length)
  rw [Builder.closeMany_length] at hclosed
  have hcells := hclosed.cells_of_closed
  rwa [List.reverse_reverse] at hcells

/-- Whatever events come in, there is always an open element for them, the links of the elements fit
each other, and the open elements lead from the document down to the last element. There are as many
elements as were started, in this order, a visit from the document meets them one by one in this
order, and the text of the document is that of all texts that came in. Read through its links, the
document is the tree that is built, and the same elements are open in it. -/
theorem sound_of_events (raw : List RawEvent) :
    let events := raw.map RawEvent.event
    let entries := events.filterMap Event.entry?
    let starts := Entry.starts entries
    ∃ l document, fresh.feedAll? events = some l ∧ l.cells[0]? = some document ∧ l.Sound ∧
      l.cells.tail.map (fun c => (c.tag, c.attributes)) = starts ∧
      (∀ met, l.Visits document.children met ↔ met = List.range' 1 starts.length) ∧
      (∀ said, l.Says document.content said ↔ said = Entry.joined entries) ∧
      Node.StandAs l 0 (nodesOf events) document.content ∧
      l.stack.dropLast.map l.name? =
        (Builder.empty.feedAll events).stack.map fun e => some (e.tag, e.attributes) := by
  intro events entries starts
  obtain ⟨l, hfeed, hmirrors⟩ := mirrors_fresh.feedAll events
  have hcells : l.cells = (fresh.place 0 (nodesOf events)).cells := hmirrors.cells_eq
  have hentries : Node.entriesOf (nodesOf events) = entries := entriesOf_nodesOf events
  -- The elements below the document stand in the row of the finished tree.
  have hrow : l.HasRow 1 (Node.layoutAll 0 1 (nodesOf events)) := by
    rw [HasRow, hcells]
    exact hasRow_place fresh 0 (nodesOf events)
  have hsize : Node.sizeAll (nodesOf events) = starts.length := by
    rw [Node.sizeAll_eq_length_starts, hentries]
  refine ⟨l,
    ⟨documentTag, [], none, Node.idsOf 1 (nodesOf events), Node.itemsOf 1 (nodesOf events)⟩,
    hfeed, by rw [hcells]; rfl, sound_of_feedAll? hfeed, ?_, fun met => ?_, fun said => ?_,
    Node.standAs_layoutAll _ hrow, hmirrors.names⟩
  · rw [hcells]
    change (Node.layoutAll 0 1 (nodesOf events)).map _ = _
    rw [Node.names_layoutAll, hentries]
  · have hvisits := Node.visits_layoutAll _ hrow
    rw [hsize] at hvisits
    exact ⟨fun hmet => hmet.unique hvisits, fun hmet => hmet ▸ hvisits⟩
  · have hsays := Node.says_layoutAll _ hrow
    rw [← Node.joined_entriesOf, hentries] at hsays
    exact ⟨fun hsaid => hsaid.unique hsays, fun hsaid => hsaid ▸ hsays⟩

end Linked

end Clickpath.Markup
