import Mathlib.Data.List.Chain
import Clickpath.Proofs.Markup.Traversal

/-! # What events keep among linked elements

Whatever events come in, in any order, with tags missing, crossing or astray: an element is among
the children of its parent and of no other element, its children are the elements in its content,
and the open elements lead from the document down to the last element of all. One event can do no
more than add an element or a text to the innermost open element, open what it added, or close some
elements.
-/

namespace Clickpath.Markup

namespace Linked

/-- What one event can do. -/
inductive Change (l : Linked) : Linked → Prop
  | element {top : Nat} (hstack : l.stack.head? = some top) (tag : String)
      (attributes : List (String × String)) : Change l (l.addElement top tag attributes)
  | opened {top : Nat} (hstack : l.stack.head? = some top) {tag : String}
      (htag : voidTags.contains tag = false) (attributes : List (String × String)) :
      Change l ((l.addElement top tag attributes).push l.cells.length)
  | text {top : Nat} (hstack : l.stack.head? = some top) (data : String) :
      Change l (l.addText top data)
  /-- Something stays open. -/
  | closed {count : Nat} (hcount : count < l.stack.length) :
      Change l { l with stack := l.stack.drop count }
  | none : Change l l

theorem change_of_close (l : Linked) (tag : String) : Change l (l.close tag) := by
  rw [close]
  split
  next depth hdepth =>
    obtain ⟨hlt, _⟩ := List.findIdx?_eq_some_iff_getElem.mp hdepth
    rw [List.length_dropLast] at hlt
    exact .closed (by omega)
  next => exact .none

/-- An event adds an element or a text, or closes elements. -/
theorem change_of_feed? {l l' : Linked} {event : Event} (hfeed : l.feed? event = some l') :
    Change l l' := by
  cases event with
  | opened tag attributes =>
      obtain ⟨top, hstack, rfl⟩ := Option.map_eq_some_iff.mp hfeed
      cases htag : voidTags.contains tag with
      | false =>
          rw [if_neg Bool.false_ne_true]
          exact .opened hstack htag attributes
      | true =>
          rw [if_pos rfl]
          exact .element hstack tag attributes
  | emptied tag attributes =>
      obtain ⟨top, hstack, rfl⟩ := Option.map_eq_some_iff.mp hfeed
      exact .element hstack tag attributes
  | closed tag =>
      obtain rfl := Option.some.inj hfeed
      exact change_of_close l tag
  | text data =>
      obtain ⟨top, hstack, rfl⟩ := Option.map_eq_some_iff.mp hfeed
      exact .text hstack data

/-- What every change keeps, all events keep. -/
theorem of_feedAll? {invariant : Linked → Prop}
    (hchange : ∀ l l', invariant l → Change l l' → invariant l') {events : List Event}
    {l l' : Linked} (hl : invariant l) (hfeed : l.feedAll? events = some l') : invariant l' := by
  induction events generalizing l with
  | nil =>
      rw [feedAll?_nil] at hfeed
      exact Option.some.inj hfeed ▸ hl
  | cons event rest ih =>
      rw [feedAll?_cons] at hfeed
      obtain ⟨next, hnext, hrest⟩ := Option.bind_eq_some_iff.mp hfeed
      exact ih (hchange l next hl (change_of_feed? hnext)) hrest

/-! ## Looking up elements -/

/-- The elements after one was added: the new one, its parent with a child more, and all others. -/
theorem getElem?_addElement (l : Linked) (parent : Nat) (tag : String)
    (attributes : List (String × String)) (id : Nat) :
    (l.addElement parent tag attributes).cells[id]? =
      if id = l.cells.length then some ⟨tag, attributes, some parent, [], []⟩
      else l.cells[id]?.map fun c => if parent = id then c.addChild l.cells.length else c := by
  have hlength : (l.cells.modify parent (·.addChild l.cells.length)).length = l.cells.length :=
    List.length_modify ..
  rw [addElement, List.getElem?_append, hlength, List.getElem?_modify]
  by_cases hnew : id = l.cells.length
  · subst hnew
    simp
  · by_cases hlt : id < l.cells.length
    · simp [hlt, hnew]
    · simp [hlt, hnew]
      omega

theorem getElem?_addText (l : Linked) (parent : Nat) (data : String) (id : Nat) :
    (l.addText parent data).cells[id]? =
      l.cells[id]?.map fun c => if parent = id then c.addText data else c := by
  rw [addText, List.getElem?_modify]
  rfl

/-- An element that is there keeps its tag and its parent when another one is added. -/
theorem exists_cell_addElement {l : Linked} {id : Nat} {c : Cell} (hcell : l.cells[id]? = some c)
    (parent : Nat) (tag : String) (attributes : List (String × String)) :
    ∃ c', (l.addElement parent tag attributes).cells[id]? = some c' ∧ c'.tag = c.tag ∧
      c'.parent = c.parent := by
  have hlt := (List.getElem?_eq_some_iff.mp hcell).1
  rw [getElem?_addElement, if_neg (Nat.ne_of_lt hlt), hcell, Option.map_some]
  refine ⟨_, rfl, ?_⟩
  split <;> exact ⟨rfl, rfl⟩

theorem exists_cell_addText {l : Linked} {id : Nat} {c : Cell} (hcell : l.cells[id]? = some c)
    (parent : Nat) (data : String) :
    ∃ c', (l.addText parent data).cells[id]? = some c' ∧ c'.tag = c.tag ∧
      c'.parent = c.parent := by
  rw [getElem?_addText, hcell, Option.map_some]
  refine ⟨_, rfl, ?_⟩
  split <;> exact ⟨rfl, rfl⟩

@[simp] theorem length_addElement (l : Linked) (parent : Nat) (tag : String)
    (attributes : List (String × String)) :
    (l.addElement parent tag attributes).cells.length = l.cells.length + 1 := by
  simp [addElement]

@[simp] theorem length_addText (l : Linked) (parent : Nat) (data : String) :
    (l.addText parent data).cells.length = l.cells.length := by
  simp [addText]

/-! ## Parents and children -/

def Lists (l : Linked) (parent child : Nat) : Prop :=
  ∃ c, l.cells[parent]? = some c ∧ child ∈ c.children

def HasParent (l : Linked) (child parent : Nat) : Prop :=
  ∃ c, l.cells[child]? = some c ∧ c.parent = some parent

/-- The links of all elements fit each other: the document has no parent, every other element is
listed by its parent alone, and the children of an element are the elements in its content. -/
structure Consistent (l : Linked) : Prop where
  document : ∃ c, l.cells[0]? = some c ∧ c.tag = documentTag ∧ c.parent = none
  lists_iff : ∀ parent child, l.Lists parent child ↔ l.HasParent child parent
  children_eq : ∀ c ∈ l.cells, c.children = c.content.filterMap Item.id?

/-- A new element is the last child of the open one, and no other child changes. -/
theorem lists_addElement_iff {l : Linked} {top : Nat} (htop : top < l.cells.length) (tag : String)
    (attributes : List (String × String)) (parent child : Nat) :
    (l.addElement top tag attributes).Lists parent child ↔
      parent = top ∧ child = l.cells.length ∨ l.Lists parent child := by
  simp only [Lists, getElem?_addElement]
  by_cases hnew : parent = l.cells.length
  · subst hnew
    simp
    omega
  · by_cases hparent : parent = top
    · subst hparent
      simp [hnew, Cell.addChild, htop, or_comm]
    · simp [hnew, hparent, Ne.symm hparent]

/-- A new element has the open one for its parent, and no other parent changes. -/
theorem hasParent_addElement_iff (l : Linked) (top : Nat) (tag : String)
    (attributes : List (String × String)) (parent child : Nat) :
    (l.addElement top tag attributes).HasParent child parent ↔
      parent = top ∧ child = l.cells.length ∨ l.HasParent child parent := by
  simp only [HasParent, getElem?_addElement]
  by_cases hnew : child = l.cells.length
  · subst hnew
    simp [eq_comm]
  · have hkept : ∀ c : Cell, (if top = child then c.addChild l.cells.length else c).parent =
        c.parent := by
      intro c
      split <;> rfl
    simp [hnew, hkept]

theorem consistent_fresh : fresh.Consistent where
  document := ⟨_, rfl, rfl, rfl⟩
  lists_iff parent child := by
    cases parent <;> cases child <;> simp [Lists, HasParent, fresh]
  children_eq := by simp [fresh]

/-- A new element fits the links, as its parent lists it and nothing else does. -/
theorem Consistent.addElement {l : Linked} (hl : l.Consistent) {top : Nat}
    (htop : top < l.cells.length) (tag : String) (attributes : List (String × String)) :
    (l.addElement top tag attributes).Consistent where
  document := by
    obtain ⟨c, hcell, htag, hparent⟩ := hl.document
    obtain ⟨c', hcell', htag', hparent'⟩ := exists_cell_addElement hcell top tag attributes
    exact ⟨c', hcell', htag'.trans htag, hparent'.trans hparent⟩
  lists_iff parent child := by
    rw [lists_addElement_iff htop, hasParent_addElement_iff, hl.lists_iff]
  children_eq c hc := by
    obtain ⟨id, hid⟩ := List.mem_iff_getElem?.mp hc
    rw [getElem?_addElement] at hid
    split at hid
    next =>
      obtain rfl := Option.some.inj hid
      rfl
    next =>
      obtain ⟨old, hold, rfl⟩ := Option.map_eq_some_iff.mp hid
      have hkept := hl.children_eq old (List.mem_of_getElem? hold)
      split
      next => simp [Cell.addChild, Item.id?, hkept]
      next => exact hkept

/-- A text changes no link. -/
theorem Consistent.addText {l : Linked} (hl : l.Consistent) (top : Nat) (data : String) :
    (l.addText top data).Consistent where
  document := by
    obtain ⟨c, hcell, htag, hparent⟩ := hl.document
    obtain ⟨c', hcell', htag', hparent'⟩ := exists_cell_addText hcell top data
    exact ⟨c', hcell', htag'.trans htag, hparent'.trans hparent⟩
  lists_iff parent child := by
    have hlists : (l.addText top data).Lists parent child ↔ l.Lists parent child := by
      have hkept : ∀ c : Cell, (if top = parent then c.addText data else c).children =
          c.children := by
        intro c
        split <;> rfl
      simp [Lists, getElem?_addText, hkept]
    have hhas : (l.addText top data).HasParent child parent ↔ l.HasParent child parent := by
      have hkept : ∀ c : Cell, (if top = child then c.addText data else c).parent = c.parent := by
        intro c
        split <;> rfl
      simp [HasParent, getElem?_addText, hkept]
    rw [hlists, hhas, hl.lists_iff]
  children_eq c hc := by
    obtain ⟨id, hid⟩ := List.mem_iff_getElem?.mp hc
    rw [getElem?_addText] at hid
    obtain ⟨old, hold, rfl⟩ := Option.map_eq_some_iff.mp hid
    have hkept := hl.children_eq old (List.mem_of_getElem? hold)
    split
    next => simp [Cell.addText, Item.id?, hkept]
    next => exact hkept

/-! ## Open elements -/

/-- The last child of an element is another one. -/
def EndsWith (l : Linked) (outer inner : Nat) : Prop :=
  ∃ c, l.cells[outer]? = some c ∧ c.children.getLast? = some inner

/-- The element can hold something. -/
def CanHold (l : Linked) (id : Nat) : Prop :=
  ∃ c, l.cells[id]? = some c ∧ voidTags.contains c.tag = false

/-- The open elements lead from the document at the bottom to the innermost one. Each is the last
child of the one below it and can hold something. They were added one after the other. -/
structure Nested (l : Linked) : Prop where
  bottom : l.stack.getLast? = some 0
  chain : l.stack.IsChain fun inner outer => l.EndsWith outer inner
  canHold : ∀ id ∈ l.stack, l.CanHold id
  bounded : ∀ id ∈ l.stack, id < l.cells.length
  descending : l.stack.Pairwise (· > ·)

theorem nested_fresh : fresh.Nested where
  bottom := rfl
  chain := .singleton 0
  canHold id hid := by
    obtain rfl := List.mem_singleton.mp hid
    exact ⟨_, rfl, by decide⟩
  bounded := by simp [fresh]
  descending := List.pairwise_singleton _ _

theorem Nested.top_lt {l : Linked} (hl : l.Nested) {top : Nat} (hstack : l.stack.head? = some top) :
    top < l.cells.length :=
  hl.bounded top (List.mem_of_mem_head? hstack)

/-- Below the innermost open element there are other ones. -/
theorem Nested.ne_top {l : Linked} (hl : l.Nested) {top : Nat} (hstack : l.stack.head? = some top)
    {id : Nat} (hid : id ∈ l.stack.tail) : top ≠ id := by
  have hdescending := hl.descending
  cases hlist : l.stack with
  | nil => simp [hlist] at hstack
  | cons first outer =>
      rw [hlist] at hstack hid hdescending
      obtain rfl := Option.some.inj hstack
      exact Nat.ne_of_gt (List.rel_of_pairwise_cons hdescending hid)

/-- A change of the innermost open element leaves the open elements nested, if it keeps all tags and
the stack. -/
theorem Nested.of_top {l l' : Linked} (hl : l.Nested) (hstack : l'.stack = l.stack)
    (hlength : l.cells.length ≤ l'.cells.length)
    (hbelow : ∀ id ∈ l.stack.tail, l'.cells[id]? = l.cells[id]?)
    (htags : ∀ (id : Nat) (c : Cell), l.cells[id]? = some c →
      ∃ c' : Cell, l'.cells[id]? = some c' ∧ c'.tag = c.tag) :
    l'.Nested where
  bottom := by rw [hstack, hl.bottom]
  chain := by
    rw [hstack]
    refine hl.chain.imp_of_mem_tail_imp fun inner outer _ houter hends => ?_
    rwa [EndsWith, hbelow outer houter]
  canHold id hid := by
    rw [hstack] at hid
    obtain ⟨c, hcell, htag⟩ := hl.canHold id hid
    obtain ⟨c', hcell', htag'⟩ := htags id c hcell
    exact ⟨c', hcell', by rw [htag', htag]⟩
  bounded id hid := by
    rw [hstack] at hid
    exact Nat.lt_of_lt_of_le (hl.bounded id hid) hlength
  descending := by
    rw [hstack]
    exact hl.descending

/-- A new element that is opened stands on the innermost open one. -/
theorem Nested.addElement {l : Linked} (hl : l.Nested) {top : Nat}
    (hstack : l.stack.head? = some top) (tag : String) (attributes : List (String × String)) :
    (l.addElement top tag attributes).Nested := by
  refine hl.of_top rfl (by simp) ?_ ?_
  · intro id hid
    have hlt := hl.bounded id (List.mem_of_mem_tail hid)
    rw [getElem?_addElement, if_neg (Nat.ne_of_lt hlt)]
    simp [hl.ne_top hstack hid]
  · intro id c hcell
    obtain ⟨c', hcell', htag, _⟩ := exists_cell_addElement hcell top tag attributes
    exact ⟨c', hcell', htag⟩

theorem Nested.addText {l : Linked} (hl : l.Nested) {top : Nat} (hstack : l.stack.head? = some top)
    (data : String) : (l.addText top data).Nested := by
  refine hl.of_top rfl (by simp) ?_ ?_
  · intro id hid
    rw [getElem?_addText]
    simp [hl.ne_top hstack hid]
  · intro id c hcell
    obtain ⟨c', hcell', htag, _⟩ := exists_cell_addText hcell top data
    exact ⟨c', hcell', htag⟩

/-- A new element that can hold something is opened. -/
theorem Nested.push {l : Linked} (hl : l.Nested) {top : Nat} (hstack : l.stack.head? = some top)
    {tag : String} (htag : voidTags.contains tag = false) (attributes : List (String × String)) :
    ((l.addElement top tag attributes).push l.cells.length).Nested := by
  have htop := hl.top_lt hstack
  have hadded := hl.addElement hstack tag attributes
  refine ⟨?_, ?_, ?_, ?_, ?_⟩
  · rw [stack_push, List.getLast?_cons]
    have hbottom := hadded.bottom
    rw [hbottom]
    rfl
  · rw [stack_push, List.isChain_cons]
    refine ⟨fun outer houter => ?_, hadded.chain⟩
    obtain rfl : top = outer := Option.some.inj (hstack.symm.trans houter)
    refine ⟨l.cells[top].addChild l.cells.length, ?_, by simp [Cell.addChild]⟩
    rw [cells_push, getElem?_addElement, if_neg (Nat.ne_of_lt htop),
      List.getElem?_eq_getElem htop, Option.map_some, if_pos rfl]
  · intro id hid
    rcases List.mem_cons.mp hid with rfl | hid
    · refine ⟨⟨tag, attributes, some top, [], []⟩, ?_, htag⟩
      rw [cells_push, getElem?_addElement, if_pos rfl]
    · exact hadded.canHold id hid
  · intro id hid
    rcases List.mem_cons.mp hid with rfl | hid
    · simp
    · exact hadded.bounded id hid
  · exact List.pairwise_cons.mpr ⟨hl.bounded, hl.descending⟩

theorem Nested.drop {l : Linked} (hl : l.Nested) {count : Nat} (hcount : count < l.stack.length) :
    Nested { l with stack := l.stack.drop count } where
  bottom := by
    rw [List.getLast?_drop, if_neg (Nat.not_le.mpr hcount), hl.bottom]
  chain := hl.chain.drop count
  canHold id hid := hl.canHold id (List.mem_of_mem_drop hid)
  bounded id hid := hl.bounded id (List.mem_of_mem_drop hid)
  descending := hl.descending.drop

/-! ## All events -/

/-- The elements are linked in both ways, and the open ones are nested. -/
structure Sound (l : Linked) : Prop where
  consistent : l.Consistent
  nested : l.Nested

/-- Links and nesting are kept by whatever one event can do. -/
theorem Sound.change {l l' : Linked} (hl : l.Sound) (hchange : Change l l') : l'.Sound := by
  obtain ⟨hconsistent, hnested⟩ := hl
  cases hchange with
  | element hstack tag attributes =>
      exact ⟨hconsistent.addElement (hnested.top_lt hstack) tag attributes,
        hnested.addElement hstack tag attributes⟩
  | @opened _ hstack tag htag attributes =>
      have hadded := hconsistent.addElement (hnested.top_lt hstack) tag attributes
      exact ⟨⟨hadded.document, hadded.lists_iff, hadded.children_eq⟩,
        hnested.push hstack htag attributes⟩
  | text hstack data =>
      exact ⟨hconsistent.addText _ data, hnested.addText hstack data⟩
  | closed hcount =>
      exact ⟨⟨hconsistent.document, hconsistent.lists_iff, hconsistent.children_eq⟩,
        hnested.drop hcount⟩
  | none => exact ⟨hconsistent, hnested⟩

theorem sound_of_feedAll? {events : List Event} {l : Linked}
    (hfeed : fresh.feedAll? events = some l) : l.Sound :=
  of_feedAll? (fun _ _ => Sound.change) ⟨consistent_fresh, nested_fresh⟩ hfeed

end Linked

end Clickpath.Markup
