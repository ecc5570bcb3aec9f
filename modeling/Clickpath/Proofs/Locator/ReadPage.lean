import Clickpath.Proofs.Locator.RelativePath
import Clickpath.Proofs.Markup.Entries

/-! # What is kept of a page that was read

The nodes of a markup text become a document in one of two ways. If there is a root element among
them, the document is this element, with the nodes before and after it for its surroundings; else
all elements among them are put into a body. In both ways the elements stand in document order, each
of them once.
-/

namespace Clickpath.Locator

open Markup

def Place.name (p : Place) : String × List (String × String) := (p.spot.tag, p.spot.attributes)

namespace Place

mutual

/-- The elements of a node are those that it starts. -/
theorem names_within (above : List Spot) (before after : List Node) :
    (node : Node) → (within above before after node).map name = Entry.starts node.entries
  | .text data => by
      rw [within, Node.entries_text]
      rfl
  | .element tag attributes content => by
      rw [within, Node.entries_element, List.map_cons, Entry.starts_cons_start,
        names_withinAll _ [] content]
      rfl

theorem names_withinAll (above : List Spot) (before : List Node) :
    (nodes : List Node) →
      (withinAll above before nodes).map name = Entry.starts (Node.entriesOf nodes)
  | [] => by
      rw [withinAll, Node.entriesOf_nil]
      rfl
  | node :: rest => by
      rw [withinAll, Node.entriesOf_cons, List.map_append, Entry.starts_append,
        names_within above before rest node, names_withinAll above (node :: before) rest]

end

end Place

/-- The elements of a document are those that its root starts. -/
theorem names_elements (d : Document) :
    (elements d).map Place.name = Entry.starts d.root.entries := by
  rw [elements, placesBelow, List.map_cons, Place.names_withinAll, Document.root,
    Node.entries_element]
  rfl

theorem text_rootPlace (d : Document) :
    (rootPlace d).snapshot.text = Entry.joined d.root.entries := by
  rw [Node.joined_entries, Document.root, Node.allText]
  rfl

/-! ## The root -/

/-- A root that is found stands among the nodes. -/
theorem nodes_of_findRoot? {before nodes : List Node} {d : Document}
    (hroot : Document.findRoot? before nodes = some d) :
    before.reverse ++ nodes = d.before ++ d.root :: d.after := by
  induction nodes generalizing before with
  | nil => cases hroot
  | cons node after ih =>
      have hskip : Document.findRoot? (node :: before) after = some d →
          before.reverse ++ node :: after = d.before ++ d.root :: d.after := by
        intro hlater
        rw [← ih hlater, List.reverse_cons, List.append_assoc, List.singleton_append]
      cases node with
      | text data => exact hskip hroot
      | element tag attributes content =>
          rw [Document.findRoot?] at hroot
          split at hroot
          next htag =>
            obtain rfl := Option.some.inj hroot
            rw [Document.root, beq_iff_eq.mp htag]
          next => exact hskip hroot

/-- A root is found if there is an element with its tag. -/
theorem isSome_findRoot?_iff (before nodes : List Node) :
    (Document.findRoot? before nodes).isSome ↔ Document.rootTag ∈ Node.tags nodes := by
  induction nodes generalizing before with
  | nil => simp [Document.findRoot?, Node.tags]
  | cons node after ih =>
      cases node with
      | text data =>
          rw [Document.findRoot?, ih]
          simp [Node.tags, Node.tag?]
      | element tag attributes content =>
          rw [Document.findRoot?]
          by_cases htag : tag = Document.rootTag
          · simp [htag, Node.tags, Node.tag?]
          · rw [beq_false_of_ne htag, if_neg Bool.false_ne_true, ih]
            simp [Node.tags, Node.tag?, Ne.symm htag]

/-- Only elements start elements. -/
theorem starts_filter_isElement (nodes : List Node) :
    Entry.starts (Node.entriesOf (nodes.filter Node.isElement)) =
      Entry.starts (Node.entriesOf nodes) := by
  induction nodes with
  | nil => rfl
  | cons node rest ih =>
      cases node with
      | text data => simpa [Node.isElement, Node.tag?] using ih
      | element tag attributes content =>
          rw [List.filter_cons_of_pos rfl, Node.entriesOf_cons, Node.entriesOf_cons,
            Entry.starts_append, Entry.starts_append, ih]

/-! ## Reading -/

/-- What is kept of the nodes of a page. Beside a root element stand the nodes that are not in it.
Without one, all elements are kept, and all texts if none of them stands outside of the elements. -/
theorem ofNodes_keeps (nodes : List Node) :
    (Document.rootTag ∈ Node.tags nodes →
        nodes = (Document.ofNodes nodes).before ++ (Document.ofNodes nodes).root ::
            (Document.ofNodes nodes).after ∧
          Document.rootTag ∉ Node.tags (Document.ofNodes nodes).before) ∧
      (Document.rootTag ∉ Node.tags nodes →
        (elements (Document.ofNodes nodes)).map Place.name =
            (Document.rootTag, []) :: ("body", []) :: Entry.starts (Node.entriesOf nodes) ∧
          ((∀ node ∈ nodes, node.isElement) →
            (rootPlace (Document.ofNodes nodes)).snapshot.text = Node.allTextOf nodes)) := by
  rw [← isSome_findRoot?_iff [] nodes, Document.ofNodes]
  cases hroot : Document.findRoot? [] nodes with
  | some d =>
      refine ⟨fun _ => ⟨?_, rootTag_notMem_before hroot List.not_mem_nil⟩, fun h => absurd rfl h⟩
      rw [Option.getD_some, ← nodes_of_findRoot? hroot, List.reverse_nil, List.nil_append]
  | none =>
      refine ⟨fun h => absurd h Bool.false_ne_true, fun _ => ⟨?_, fun hall => ?_⟩⟩
      · simp [names_elements, Document.ofBody, Document.root, starts_filter_isElement]
      · rw [text_rootPlace, ← Node.joined_entriesOf]
        simp [Document.ofBody, Document.root, List.filter_eq_self.mpr hall]

/-- Reading a page keeps what its markup brings. With a root element on top, the elements that the
markup starts are, in document order, those before the first root element, this one with all
elements in it, and those behind it, and the texts are likewise those before, in and behind it.
Without one, the elements below the root and its body are all those that the markup starts, in
document order; and the text of the root is that of the markup, if none of it stands outside of all
elements. Only markup that cannot be read at all is refused. -/
theorem read_keeps (text : String) :
    (∃ fault, events text.toList = .error fault ∧ Document.read text = .error fault) ∨
      ∃ found d, events text.toList = .ok found ∧ Document.read text = .ok d ∧
        (elements d).Nodup ∧
        (Document.rootTag ∈ Node.tags (nodesOf found) →
          Document.rootTag ∉ Node.tags d.before ∧
            Entry.starts (found.filterMap Event.entry?) =
              Entry.starts (Node.entriesOf d.before) ++ (elements d).map Place.name ++
                Entry.starts (Node.entriesOf d.after) ∧
            Entry.joined (found.filterMap Event.entry?) =
              Node.allTextOf d.before ++ (rootPlace d).snapshot.text ++
                Node.allTextOf d.after) ∧
        (Document.rootTag ∉ Node.tags (nodesOf found) →
          (elements d).map Place.name = (Document.rootTag, []) :: ("body", []) ::
              Entry.starts (found.filterMap Event.entry?) ∧
            ((∀ node ∈ nodesOf found, node.isElement) →
              (rootPlace d).snapshot.text = Entry.joined (found.filterMap Event.entry?))) := by
  cases hevents : events text.toList with
  | error fault => exact .inl ⟨fault, rfl, by rw [Document.read, hevents]; rfl⟩
  | ok found =>
      obtain ⟨hwith, hwithout⟩ := ofNodes_keeps (nodesOf found)
      have hentries := entriesOf_nodesOf found
      refine .inr ⟨found, Document.ofNodes (nodesOf found), rfl,
        by rw [Document.read, hevents]; rfl, elements_nodup _, fun hroot => ?_, fun hroot => ?_⟩
      · obtain ⟨hnodes, hfirst⟩ := hwith hroot
        refine ⟨hfirst, ?_, ?_⟩
        · rw [← hentries, names_elements]
          conv_lhs => rw [hnodes]
          simp
        · rw [← hentries, text_rootPlace, ← Node.joined_entriesOf, ← Node.joined_entriesOf]
          conv_lhs => rw [hnodes]
          simp [String.append_assoc]
      · obtain ⟨hnames, htext⟩ := hwithout hroot
        rw [← hentries]
        exact ⟨hnames, fun hall => by rw [htext hall, Node.joined_entriesOf]⟩

/-- What stands behind the root element is not in the tree below it. -/
theorem read_leaves_out :
    ∃ found d, events "<html></html><p>a</p>".toList = .ok found ∧
      Document.read "<html></html><p>a</p>" = .ok d ∧
      Entry.starts (found.filterMap Event.entry?) = [("html", []), ("p", [])] ∧
      (elements d).map Place.name = [("html", [])] ∧
      Entry.joined (found.filterMap Event.entry?) = "a" ∧ (rootPlace d).snapshot.text = "" :=
  ⟨[.opened "html" [], .closed "html", .opened "p" [], .text "a", .closed "p"],
    ⟨[], [], [], [.element "p" [] [.text "a"]]⟩, rfl, rfl, rfl, rfl, rfl, rfl⟩

end Clickpath.Locator
