import Clickpath.Proofs.Markup.Traversal

/-! # A tree comes back from its events

The events of a tree are those of its document order: an element is opened before its content and
closed after it, an element that never holds anything has no end tag, and an element without content
may come in one tag. Whatever is open when they come in, the tree is placed under the innermost open
element, and as many elements are open as before.
-/

namespace Clickpath.Markup

namespace Node

/-- The tag and the names of the attributes are in small letters, and no name stands there twice. -/
def isPlainTag (tag : String) (attributes : List (String × String)) : Bool :=
  Text.lower tag == tag && attributes.all (fun a => Text.lower a.1 == a.1) &&
    decide (attributes.map Prod.fst).Nodup

mutual

/-- All tags are plain, and an element that never holds anything has no content. -/
def isPlain : Node → Bool
  | text _ => true
  | element tag attributes content =>
      isPlainTag tag attributes && (!voidTags.contains tag || content.isEmpty) && allPlain content

def allPlain : List Node → Bool
  | [] => true
  | node :: rest => isPlain node && allPlain rest

end

end Node

def given (attributes : List (String × String)) : List (String × Option String) :=
  attributes.map fun a => (a.1, some a.2)

/-- Events that bring nodes in document order. -/
inductive Written : List Node → List RawEvent → Prop
  | nil : Written [] []
  | text {rest : List Node} {later : List RawEvent} (data : String) (hrest : Written rest later) :
      Written (.text data :: rest) (.text data :: later)
  /-- An element with its content between two tags. -/
  | element {tag : String} {attributes : List (String × String)} {content rest : List Node}
      {inner later : List RawEvent} (htag : voidTags.contains tag = false)
      (hcontent : Written content inner) (hrest : Written rest later) :
      Written (.element tag attributes content :: rest)
        (.opened tag (given attributes) :: (inner ++ .closed tag :: later))
  /-- An element that never holds anything. -/
  | void {tag : String} {attributes : List (String × String)} {rest : List Node}
      {later : List RawEvent} (htag : voidTags.contains tag = true) (hrest : Written rest later) :
      Written (.element tag attributes [] :: rest) (.opened tag (given attributes) :: later)
  /-- An element without content, in one tag. -/
  | emptied {tag : String} {attributes : List (String × String)} {rest : List Node}
      {later : List RawEvent} (hrest : Written rest later) :
      Written (.element tag attributes [] :: rest) (.emptied tag (given attributes) :: later)

/-! ## Plain trees have events -/

theorem voidTags_contains_eq_true_of_ne_nil {tag : String} {content : List Node}
    (hvoid : (!voidTags.contains tag || content.isEmpty) = true)
    (htag : voidTags.contains tag = true) : content = [] := by
  rw [htag, Bool.not_true, Bool.false_or] at hvoid
  exact List.isEmpty_iff.mp hvoid

/-- What is asked of an element in a plain tree. -/
theorem allPlain_element_cons {tag : String} {attributes : List (String × String)}
    {content rest : List Node}
    (hplain : Node.allPlain (.element tag attributes content :: rest) = true) :
    Node.isPlainTag tag attributes = true ∧ (!voidTags.contains tag || content.isEmpty) = true ∧
      Node.allPlain content = true ∧ Node.allPlain rest = true := by
  rw [Node.allPlain, Node.isPlain] at hplain
  simpa [and_assoc] using hplain

theorem allPlain_text_cons {data : String} {rest : List Node}
    (hplain : Node.allPlain (.text data :: rest) = true) : Node.allPlain rest = true := by
  rw [Node.allPlain, Node.isPlain] at hplain
  simpa using hplain

/-- Every plain tree has events that bring it. -/
theorem exists_written : (forest : List Node) → Node.allPlain forest = true →
    ∃ events, Written forest events
  | [], _ => ⟨[], .nil⟩
  | .text data :: rest, hplain => by
      obtain ⟨later, hlater⟩ := exists_written rest (allPlain_text_cons hplain)
      exact ⟨_, .text data hlater⟩
  | .element tag attributes content :: rest, hplain => by
      obtain ⟨_, hvoid, hcontent, hrest⟩ := allPlain_element_cons hplain
      obtain ⟨inner, hinner⟩ := exists_written content hcontent
      obtain ⟨later, hlater⟩ := exists_written rest hrest
      cases htag : voidTags.contains tag with
      | false => exact ⟨_, .element htag hinner hlater⟩
      | true =>
          obtain rfl := voidTags_contains_eq_true_of_ne_nil hvoid htag
          exact ⟨_, .void htag hlater⟩

/-! ## Plain tags come in as they are -/

theorem enterAttribute_of_notMem {found : List (String × String)} {name : String}
    (hname : name ∉ found.map Prod.fst) (value : String) :
    enterAttribute found name value = found ++ [(name, value)] := by
  induction found with
  | nil => rfl
  | cons entry rest ih =>
      rw [List.map_cons, List.mem_cons, not_or] at hname
      have hne : (entry.1 == name) = false := beq_eq_false_iff_ne.mpr fun h => hname.1 h.symm
      rw [enterAttribute, hne, if_neg Bool.false_ne_true, ih hname.2, List.cons_append]

/-- Attributes in small letters, each of them once, are entered as they come. -/
theorem foldl_enterAttribute_given {attributes found : List (String × String)}
    (hlower : ∀ a ∈ attributes, Text.lower a.1 = a.1)
    (hnodup : ((found ++ attributes).map Prod.fst).Nodup) :
    (given attributes).foldl
      (fun found a => enterAttribute found (Text.lower a.1) (a.2.getD "")) found =
        found ++ attributes := by
  induction attributes generalizing found with
  | nil => simp [given]
  | cons a rest ih =>
      have hnew : a.1 ∉ found.map Prod.fst := by
        rw [List.map_append, List.map_cons] at hnodup
        exact fun hmem => (List.nodup_append.mp hnodup).2.2 _ hmem _ List.mem_cons_self rfl
      have hsplit : found ++ a :: rest = found ++ [a] ++ rest := List.append_cons ..
      rw [hsplit] at hnodup
      have hrest := ih (fun b hb => hlower b (List.mem_cons_of_mem _ hb)) hnodup
      rw [given] at hrest ⊢
      rw [List.map_cons, List.foldl_cons, hlower a List.mem_cons_self,
        enterAttribute_of_notMem hnew, Option.getD_some, hrest, hsplit]

theorem namedValues_given {tag : String} {attributes : List (String × String)}
    (hplain : Node.isPlainTag tag attributes = true) :
    Text.lower tag = tag ∧ namedValues (given attributes) = attributes := by
  rw [Node.isPlainTag, Bool.and_eq_true, Bool.and_eq_true, beq_iff_eq, List.all_eq_true,
    decide_eq_true_iff] at hplain
  obtain ⟨⟨htag, hlower⟩, hnodup⟩ := hplain
  exact ⟨htag, foldl_enterAttribute_given (fun a ha => beq_iff_eq.mp (hlower a ha)) hnodup⟩

/-! ## Linked elements -/

namespace Linked

variable {l : Linked} {top : Nat}

theorem feed?_text (hstack : l.stack.head? = some top) (data : String) :
    l.feed? (.text data) = some (l.place top [.text data]) := by
  rw [feed?, hstack, Option.map_some, addText_eq_place]

theorem feed?_emptied (hstack : l.stack.head? = some top) (tag : String)
    (attributes : List (String × String)) :
    l.feed? (.emptied tag attributes) = some (l.place top [.element tag attributes []]) := by
  rw [feed?, hstack, Option.map_some, addElement_eq_place]

theorem feed?_void (hstack : l.stack.head? = some top) {tag : String}
    (htag : voidTags.contains tag = true) (attributes : List (String × String)) :
    l.feed? (.opened tag attributes) = some (l.place top [.element tag attributes []]) := by
  rw [feed?, hstack, Option.map_some, if_pos htag, addElement_eq_place]

theorem feed?_opened (hstack : l.stack.head? = some top) {tag : String}
    (htag : voidTags.contains tag = false) (attributes : List (String × String)) :
    l.feed? (.opened tag attributes) =
      some ((l.place top [.element tag attributes []]).push l.cells.length) := by
  rw [feed?, hstack, Option.map_some, htag, if_neg Bool.false_ne_true, addElement_eq_place]

theorem stack_ne_nil (hstack : l.stack.head? = some top) : l.stack ≠ [] := by
  rintro hempty
  rw [hempty] at hstack
  cases hstack

/-- The innermost open element is closed by its own tag, unless it is at the bottom. -/
theorem close_innermost {id : Nat} (hstack : l.stack ≠ []) {tag : String}
    (htag : l.hasTag tag id = true) : (l.push id).close tag = l := by
  have htag' : (l.push id).hasTag tag id = true := htag
  rw [close, stack_push, List.dropLast_cons_of_ne_nil hstack, List.findIdx?_cons, htag', if_pos rfl]
  rfl

/-- The element that was placed last has its tag. -/
theorem hasTag_place (l : Linked) (top : Nat) (tag : String) (attributes : List (String × String))
    (content : List Node) :
    (l.place top [.element tag attributes content]).hasTag tag l.cells.length = true := by
  have hrow := hasRow_place l top [.element tag attributes content]
  rw [Node.layoutAll_cons, Node.layout_element, List.cons_append] at hrow
  rw [hasTag, hrow.head, Option.any_some, beq_self_eq_true]

theorem lt_length_place (htop : top < l.cells.length) (nodes : List Node) :
    top < (l.place top nodes).cells.length := by
  rw [length_place]
  exact Nat.lt_add_right _ htop

/-- An event that places a node is followed by those that place the rest. -/
theorem feedAll?_cons_eq_place {event : Event} {later : List Event} {node : Node}
    {rest : List Node} (htop : top < l.cells.length)
    (hfirst : l.feed? event = some (l.place top [node]))
    (hlater : (l.place top [node]).feedAll? later = some ((l.place top [node]).place top rest)) :
    l.feedAll? (event :: later) = some (l.place top (node :: rest)) := by
  rw [feedAll?_cons, hfirst, Option.bind_some, hlater, place_place htop, List.singleton_append]

/-- The events of nodes place them under the innermost open element. -/
theorem feedAll?_eq_place {forest : List Node} {events : List RawEvent}
    (hwritten : Written forest events) (hplain : Node.allPlain forest = true)
    (hstack : l.stack.head? = some top) (htop : top < l.cells.length) :
    l.feedAll? (events.map RawEvent.event) = some (l.place top forest) := by
  induction hwritten generalizing l top with
  | nil => simp
  | text data _ ih =>
      exact feedAll?_cons_eq_place htop (feed?_text hstack data)
        (ih (allPlain_text_cons hplain) hstack (lt_length_place htop _))
  | @element tag attributes content rest inner later htag _ _ ihcontent ihrest =>
      obtain ⟨htagplain, _, hcontent, hrest⟩ := allPlain_element_cons hplain
      obtain ⟨hlower, hvalues⟩ := namedValues_given htagplain
      have hmore : l.cells.length <
          ((l.place top [.element tag attributes []]).push l.cells.length).cells.length := by
        rw [cells_push, length_place]
        simp
      have hopen : ((l.place top [.element tag attributes []]).push l.cells.length).stack.head? =
          some l.cells.length := rfl
      -- The new element is open while its content comes in, and is closed by its own tag.
      have hinner := ihcontent hcontent hopen hmore
      rw [place_push, place_place_within, List.nil_append] at hinner
      have hnonempty : (l.place top [.element tag attributes content]).stack ≠ [] :=
        stack_ne_nil hstack
      have hclosed := close_innermost hnonempty (hasTag_place l top tag attributes content)
      have hlater := ihrest (l := l.place top [.element tag attributes content]) hrest hstack
        (lt_length_place htop _)
      rw [List.map_cons, List.map_append, List.map_cons, RawEvent.event, RawEvent.event, hlower,
        hvalues, feedAll?_cons, feed?_opened hstack htag, Option.bind_some, feedAll?_append, hinner,
        Option.bind_some, feedAll?_cons, feed?, Option.bind_some, hclosed, hlater, place_place htop,
        List.singleton_append]
  | void htag _ ih =>
      obtain ⟨htagplain, _, _, hrest⟩ := allPlain_element_cons hplain
      obtain ⟨hlower, hvalues⟩ := namedValues_given htagplain
      rw [List.map_cons, RawEvent.event, hlower, hvalues]
      exact feedAll?_cons_eq_place htop (feed?_void hstack htag _)
        (ih hrest hstack (lt_length_place htop _))
  | emptied _ ih =>
      obtain ⟨htagplain, _, _, hrest⟩ := allPlain_element_cons hplain
      obtain ⟨hlower, hvalues⟩ := namedValues_given htagplain
      rw [List.map_cons, RawEvent.event, hlower, hvalues]
      exact feedAll?_cons_eq_place htop (feed?_emptied hstack _ _)
        (ih hrest hstack (lt_length_place htop _))

end Linked

/-! ## Trees in the making -/

namespace Builder

theorem foldl_append_open (nodes : List Node) (e : OpenElement) (outer : List OpenElement)
    (top : List Node) :
    nodes.foldl append ⟨e :: outer, top⟩ =
      ⟨{ e with content := nodes.reverse ++ e.content } :: outer, top⟩ := by
  induction nodes generalizing e with
  | nil => rfl
  | cons node rest ih =>
      have hfirst : append ⟨e :: outer, top⟩ node =
          ⟨{ e with content := node :: e.content } :: outer, top⟩ := rfl
      rw [List.foldl_cons, hfirst, ih, List.reverse_cons, List.append_assoc, List.singleton_append]

theorem foldl_append_top (nodes top : List Node) :
    nodes.foldl append ⟨[], top⟩ = ⟨[], nodes.reverse ++ top⟩ := by
  induction nodes generalizing top with
  | nil => rfl
  | cons node rest ih =>
      have hfirst : append ⟨[], top⟩ node = ⟨[], node :: top⟩ := rfl
      rw [List.foldl_cons, hfirst, ih, List.reverse_cons, List.append_assoc, List.singleton_append]

/-- An element that was opened and filled is closed by its own tag. -/
theorem close_filled (b : Builder) (tag : String) (attributes : List (String × String))
    (content : List Node) :
    (content.foldl append { b with stack := ⟨tag, attributes, []⟩ :: b.stack }).close tag =
      b.append (.element tag attributes content) := by
  rw [foldl_append_open, close, List.findIdx?_cons]
  simp [closeMany, closeInnermost, OpenElement.toNode]

/-- The events of nodes place them one after the other. -/
theorem feedAll_eq_foldl {forest : List Node} {events : List RawEvent}
    (hwritten : Written forest events) (hplain : Node.allPlain forest = true) (b : Builder) :
    b.feedAll (events.map RawEvent.event) = forest.foldl append b := by
  induction hwritten generalizing b with
  | nil => rfl
  | text data _ ih => exact ih (allPlain_text_cons hplain) _
  | @element tag attributes content rest inner later htag _ _ ihcontent ihrest =>
      obtain ⟨htagplain, _, hcontent, hrest⟩ := allPlain_element_cons hplain
      obtain ⟨hlower, hvalues⟩ := namedValues_given htagplain
      have hopened : b.feed (.opened tag attributes) =
          { b with stack := ⟨tag, attributes, []⟩ :: b.stack } := by
        rw [feed, htag, if_neg Bool.false_ne_true]
      have hinner := ihcontent hcontent (b.feed (.opened tag attributes))
      rw [feedAll, List.map_cons, List.map_append, List.map_cons, List.foldl_cons,
        List.foldl_append, RawEvent.event, RawEvent.event, hlower, hvalues]
      rw [feedAll] at hinner
      rw [hinner, hopened, List.foldl_cons, feed, close_filled]
      exact ihrest hrest _
  | @void tag attributes rest later htag _ ih =>
      obtain ⟨htagplain, _, _, hrest⟩ := allPlain_element_cons hplain
      obtain ⟨hlower, hvalues⟩ := namedValues_given htagplain
      have hfirst : b.feed (.opened tag attributes) = b.append (.element tag attributes []) := by
        rw [feed, htag, if_pos rfl]
      rw [feedAll, List.map_cons, List.foldl_cons, RawEvent.event, hlower, hvalues, hfirst]
      exact ih hrest _
  | @emptied tag attributes rest later _ ih =>
      obtain ⟨htagplain, _, _, hrest⟩ := allPlain_element_cons hplain
      obtain ⟨hlower, hvalues⟩ := namedValues_given htagplain
      rw [feedAll, List.map_cons, List.foldl_cons, RawEvent.event, hlower, hvalues]
      exact ih hrest _

end Builder

/-- The events of a plain tree bring it back. Linked elements that were empty are then this tree,
with all attributes, texts and links, and only the document is open. Wherever something is open, the
tree is placed under the innermost open element, nothing else changes, and the same elements are
open as before. The tree that is built is this tree, too. -/
theorem feedAll_written {forest : List Node} (hplain : Node.allPlain forest = true) :
    (∃ events, Written forest events) ∧
      ∀ events, Written forest events →
        (∃ l, Linked.fresh.feedAll? (events.map RawEvent.event) = some l ∧ l.stack = [0] ∧
          Linked.fresh.Gained l 0 forest) ∧
        (∀ l : Linked, ∀ top outer, l.stack = top :: outer → top < l.cells.length →
          ∃ l', l.feedAll? (events.map RawEvent.event) = some l' ∧ l.Gained l' top forest) ∧
        nodesOf (events.map RawEvent.event) = forest ∧
        ∀ b : Builder, b.feedAll (events.map RawEvent.event) = forest.foldl Builder.append b := by
  refine ⟨exists_written forest hplain, fun events hwritten => ⟨?_, ?_, ?_, ?_⟩⟩
  · exact ⟨_, Linked.feedAll?_eq_place hwritten hplain rfl Nat.zero_lt_one, rfl,
      Linked.gained_place Nat.zero_lt_one forest⟩
  · intro l top outer hstack htop
    have hhead : l.stack.head? = some top := by rw [hstack, List.head?_cons]
    exact ⟨_, Linked.feedAll?_eq_place hwritten hplain hhead htop, Linked.gained_place htop forest⟩
  · rw [nodesOf, Builder.feedAll_eq_foldl hwritten hplain, Builder.empty, Builder.foldl_append_top,
      Builder.nodes, List.length_nil, Builder.closeMany, List.append_nil, List.reverse_reverse]
  · exact fun b => Builder.feedAll_eq_foldl hwritten hplain b

/-- Texts and elements with elements of their own tag inside of them, one of which never holds
anything and one of which comes in one tag. -/
def nestedForest : List Node :=
  [.text "a",
    .element "div" [("id", "x")]
      [.element "div" [] [.text "b", .element "br" [] []], .element "p" [("k", "")] []],
    .text "c"]

def nestedEvents : List RawEvent :=
  [.text "a", .opened "div" [("id", some "x")], .opened "div" [], .text "b", .opened "br" [],
    .closed "div", .emptied "p" [("k", some "")], .closed "div", .text "c"]

/-- A text with these events: the tree in it comes back, and the linked elements that hold it. -/
theorem feedAll_written_nested :
    events "a<div id=x><div>b<br></div><p k/></div>c".toList =
        .ok (nestedEvents.map RawEvent.event) ∧
      Node.allPlain nestedForest = true ∧ Written nestedForest nestedEvents ∧
      nodesOf (nestedEvents.map RawEvent.event) = nestedForest ∧
      ∃ l, Linked.fresh.feedAll? (nestedEvents.map RawEvent.event) = some l ∧ l.stack = [0] ∧
        Linked.fresh.Gained l 0 nestedForest := by
  have hread : events "a<div id=x><div>b<br></div><p k/></div>c".toList =
      .ok (nestedEvents.map RawEvent.event) := rfl
  have hplain : Node.allPlain nestedForest = true := by decide
  have hwritten : Written nestedForest nestedEvents :=
    .text "a" (.element (by decide) (.element (by decide) (.text "b" (.void (by decide) .nil))
      (.emptied .nil)) (.text "c" .nil))
  obtain ⟨hfresh, _, hnodes, _⟩ := (feedAll_written hplain).2 nestedEvents hwritten
  exact ⟨hread, hplain, hwritten, hnodes, hfresh⟩

end Clickpath.Markup
