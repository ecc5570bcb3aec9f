import Clickpath.Locator.Inference
import Clickpath.Proofs.Locator.Addresses

/-! # Selectors of a page that changes

Of each element on a path, a selector tells its tag and how many siblings of the same tag stand in
front of it. A node of another tag can thus be added to a page, or removed from it, and the
selectors of all elements stay what they are.
-/

namespace Clickpath.Locator

open Markup

/-! ## What selectors tell -/

/-- What a selector tells about a node on a path. -/
def PathNode.mark (n : PathNode) : String × Nat := (n.tag, n.siblingIndex)

theorem map_xpathStep_of_marks {path path' : List PathNode}
    (hmarks : path.map PathNode.mark = path'.map PathNode.mark) :
    path.map xpathStep = path'.map xpathStep := by
  have hstep : xpathStep =
      (fun mark : String × Nat => "/" ++ mark.1 ++ "[" ++ toString mark.2 ++ "]") ∘
        PathNode.mark := rfl
  rw [hstep, ← List.map_map, hmarks, List.map_map]

theorem map_cssStep_of_marks {path path' : List PathNode}
    (hmarks : path.map PathNode.mark = path'.map PathNode.mark) :
    path.map cssStep = path'.map cssStep := by
  have hstep : cssStep =
      (fun mark : String × Nat => mark.1 ++ ":nth-child(" ++ toString mark.2 ++ ")") ∘
        PathNode.mark := rfl
  rw [hstep, ← List.map_map, hmarks, List.map_map]

/-- Paths that are told alike are split alike at the first body. -/
theorem belowBody?_of_marks {path path' : List PathNode}
    (hmarks : path.map PathNode.mark = path'.map PathNode.mark) :
    belowBody? path = none ∧ belowBody? path' = none ∨
      ∃ below below', belowBody? path = some below ∧ belowBody? path' = some below' ∧
        below.map PathNode.mark = below'.map PathNode.mark := by
  induction path generalizing path' with
  | nil =>
      obtain rfl := List.map_eq_nil_iff.mp hmarks.symm
      exact Or.inl ⟨rfl, rfl⟩
  | cons n rest ih =>
      cases path' with
      | nil => cases hmarks
      | cons n' rest' =>
          obtain ⟨hmark, hrest⟩ := List.cons.inj hmarks
          have htag : n.tag = n'.tag := congrArg Prod.fst hmark
          rw [belowBody?, belowBody?, htag]
          split
          next => exact Or.inr ⟨rest, rest', rfl, rfl, hrest⟩
          next => exact ih hrest

namespace Snapshot

/-- Two snapshots have the same identifier, and their paths are told alike. -/
structure Alike (s s' : Snapshot) : Prop where
  id : s.id = s'.id
  marks : s.path.map PathNode.mark = s'.path.map PathNode.mark

variable {s s' : Snapshot}

theorem Alike.usableId? (h : s.Alike s') : s.usableId? = s'.usableId? := by
  rw [Snapshot.usableId?, Snapshot.usableId?, h.id]

theorem Alike.absoluteXPath (h : s.Alike s') : s.absoluteXPath = s'.absoluteXPath := by
  rw [Snapshot.absoluteXPath, Snapshot.absoluteXPath, map_xpathStep_of_marks h.marks]

theorem Alike.relativeXPath (h : s.Alike s') : s.relativeXPath = s'.relativeXPath := by
  rw [Snapshot.relativeXPath, Snapshot.relativeXPath, h.usableId?, h.absoluteXPath]
  obtain ⟨hnone, hnone'⟩ | ⟨below, below', hsome, hsome', hbelow⟩ := belowBody?_of_marks h.marks
  · rw [hnone, hnone']
  · rw [hsome, hsome']
    simp only [map_xpathStep_of_marks hbelow]

/-- Paths that are told alike are anchored alike. -/
theorem Alike.anchor (h : s.Alike s') :
    s.anchor.1 = s'.anchor.1 ∧ s.anchor.2.map cssStep = s'.anchor.2.map cssStep := by
  rw [Snapshot.anchor, Snapshot.anchor]
  obtain ⟨hnone, hnone'⟩ | ⟨below, below', hsome, hsome', hbelow⟩ := belowBody?_of_marks h.marks
  · rw [hnone, hnone']
    have hfirst : some (s.path.head s.path_ne_nil).mark =
        some (s'.path.head s'.path_ne_nil).mark := by
      have hhead := congrArg List.head? h.marks
      rwa [List.head?_map, List.head?_map, List.head?_eq_some_head s.path_ne_nil,
        List.head?_eq_some_head s'.path_ne_nil] at hhead
    have hrest : s.path.tail.map PathNode.mark = s'.path.tail.map PathNode.mark := by
      rw [List.map_tail, List.map_tail, h.marks]
    have htag : (s.path.head s.path_ne_nil).tag = (s'.path.head s'.path_ne_nil).tag :=
      congrArg Prod.fst (Option.some.inj hfirst)
    exact ⟨htag, map_cssStep_of_marks hrest⟩
  · rw [hsome, hsome']
    exact ⟨rfl, map_cssStep_of_marks hbelow⟩

theorem Alike.cssPath (h : s.Alike s') : s.cssPath = s'.cssPath := by
  obtain ⟨hroot, hsteps⟩ := h.anchor
  rw [Snapshot.cssPath, Snapshot.cssPath, h.usableId?, hroot, hsteps]

end Snapshot

/-! ## Places that are told alike -/

/-- What a selector tells about a spot. -/
def Spot.mark (s : Spot) : String × Nat := s.pathNode.mark

/-- Two elements have the same attributes, and the way to them is told alike. -/
structure Place.Alike (p q : Place) : Prop where
  attributes : p.spot.attributes = q.spot.attributes
  marks : p.chain.map Spot.mark = q.chain.map Spot.mark

/-- The selectors that say where an element stands. -/
def Place.selectors (p : Place) : List String :=
  [p.snapshot.cssPath, p.snapshot.relativeXPath, p.snapshot.absoluteXPath]

/-- An element as it is seen from the innermost element with a tag around it. -/
def Place.inside (tag : String) (p : Place) : Place :=
  { p with above := p.above.takeWhile fun spot => spot.tag != tag }

namespace Place

variable {p q : Place}

theorem Alike.tag (h : p.Alike q) : p.spot.tag = q.spot.tag :=
  congrArg Prod.fst (List.cons.inj h.marks).1

/-- What is alike for a place is alike for its snapshot. -/
theorem Alike.snapshot (h : p.Alike q) : p.snapshot.Alike q.snapshot where
  id := by
    change p.attribute? "id" = q.attribute? "id"
    rw [attribute?, attribute?, h.attributes]
  marks := by
    change p.path.map PathNode.mark = q.path.map PathNode.mark
    rw [path_eq_chain, path_eq_chain, List.map_map, List.map_map, List.map_reverse,
      List.map_reverse]
    exact congrArg List.reverse h.marks

theorem Alike.selectors (h : p.Alike q) : p.selectors = q.selectors := by
  rw [Place.selectors, Place.selectors, h.snapshot.cssPath, h.snapshot.relativeXPath,
    h.snapshot.absoluteXPath]

/-- Places that are told alike are so as far up as some tag. -/
theorem Alike.inside (h : p.Alike q) (tag : String) : (p.inside tag).Alike (q.inside tag) where
  attributes := h.attributes
  marks := by
    obtain ⟨hmark, habove⟩ := List.cons.inj h.marks
    have htake : ∀ spots : List Spot,
        (spots.takeWhile fun spot => spot.tag != tag).map Spot.mark =
          (spots.map Spot.mark).takeWhile fun mark => mark.1 != tag := by
      intro spots
      rw [List.takeWhile_map]
      rfl
    refine List.cons_eq_cons.mpr ⟨hmark, ?_⟩
    rw [Place.inside, Place.inside, htake, htake, habove]

end Place

/-! ## Elements of a page that changes -/

section

variable {above above' : List Spot} {nodes : List Node} {p : Place}

/-- An element is told alike if as many elements of its tag stand in front of it. -/
theorem exists_alike_childAt? {nodes' : List Node} {position position' : Nat} {content : List Node}
    (habove : above'.map Spot.mark = above.map Spot.mark)
    (hp : childAt? above nodes position = some p)
    (hnode : nodes'[position']? = some (.element p.spot.tag p.spot.attributes content))
    (hcount : (Node.tags (nodes'.take position')).count p.spot.tag =
      (Node.tags (nodes.take position)).count p.spot.tag) :
    ∃ p', childAt? above' nodes' position' = some p' ∧ p'.content = content ∧ p'.Alike p := by
  obtain ⟨rfl, rfl, rfl⟩ := childAt?_eq_some_iff.mp hp
  refine ⟨⟨⟨p.spot.tag, p.spot.attributes, (nodes'.take position').reverse,
    nodes'.drop (position' + 1)⟩, content, above'⟩, by rw [childAt?, hnode], rfl, rfl, ?_⟩
  rw [List.take_left' List.length_reverse] at hcount
  refine List.cons_eq_cons.mpr ⟨?_, habove⟩
  change (p.spot.tag, 1 + (Node.tags (nodes'.take position').reverse.reverse).count p.spot.tag) =
    (p.spot.tag, 1 + (Node.tags p.spot.before.reverse).count p.spot.tag)
  rw [List.reverse_reverse, hcount]

/-- What stands in the same nodes is told alike wherever the nodes stand alike. -/
theorem exists_alike_placeAt? {address : List Nat}
    (habove : above'.map Spot.mark = above.map Spot.mark)
    (hp : placeAt? above nodes address = some p) :
    ∃ p', placeAt? above' nodes address = some p' ∧ p'.content = p.content ∧ p'.Alike p := by
  induction address generalizing above above' nodes with
  | nil => cases hp
  | cons position inner ih =>
      obtain ⟨child, hchild, hinner⟩ := placeAt?_cons_eq_some_iff.mp hp
      obtain ⟨child', hchild', hcontent, halike⟩ :=
        exists_alike_childAt? habove hchild (getElem?_of_childAt? hchild) rfl
      obtain ⟨rfl, rfl⟩ | hinner := hinner
      · exact ⟨child', hchild', hcontent, halike⟩
      · obtain ⟨p', hp', hsame⟩ := ih halike.marks hinner
        rw [← hcontent] at hp'
        exact ⟨p', placeAt?_cons_eq_some_iff.mpr ⟨child', hchild', Or.inr hp'⟩, hsame⟩

/-- What stands in an element that has the same content, or is this element, is told alike. -/
theorem exists_alike_cons {nodes' : List Node} {position' : Nat} {inner : List Nat}
    {child child' : Place} (hchild' : childAt? above' nodes' position' = some child')
    (hcontent : child'.content = child.content) (halike : child'.Alike child)
    (hinner : inner = [] ∧ child = p ∨ placeAt? child.chain child.content inner = some p) :
    ∃ p', placeAt? above' nodes' (position' :: inner) = some p' ∧ p'.content = p.content ∧
      p'.Alike p := by
  obtain ⟨rfl, rfl⟩ | hinner := hinner
  · exact ⟨child', hchild', hcontent, halike⟩
  · obtain ⟨p', hp', hsame⟩ := exists_alike_placeAt? halike.marks hinner
    rw [← hcontent] at hp'
    exact ⟨p', placeAt?_cons_eq_some_iff.mpr ⟨child', hchild', Or.inr hp'⟩, hsame⟩

/-- An element is told alike after a node of another tag was added next to it. -/
theorem exists_alike_insertIdx {position added : Nat} {node : Node}
    (habove : above'.map Spot.mark = above.map Spot.mark)
    (hp : childAt? above nodes position = some p) (htag : node.tag? ≠ some p.spot.tag) :
    ∃ p', childAt? above' (nodes.insertIdx added node)
        (if added ≤ position then position + 1 else position) = some p' ∧
      p'.content = p.content ∧ p'.Alike p := by
  have hnode := getElem?_of_childAt? hp
  obtain ⟨hlt, _⟩ := List.getElem?_eq_some_iff.mp hnode
  split
  next hle =>
    refine exists_alike_childAt? habove hp ?_ ?_
    · rw [List.getElem?_insertIdx_of_gt (Nat.lt_add_one_of_le hle), Nat.add_sub_cancel, hnode]
      rfl
    · rw [take_insertIdx_of_le hle, count_tags_insertIdx htag]
      rwa [List.length_take, Nat.min_eq_left (Nat.le_of_lt hlt)]
  next hgt =>
    refine exists_alike_childAt? habove hp ?_ ?_
    · rw [List.getElem?_insertIdx_of_lt (Nat.lt_of_not_le hgt), hnode]
      rfl
    · rw [List.take_insertIdx_eq_take_of_le _ _ _ _ (Nat.le_of_not_le hgt)]

/-- An element is told alike after the content of an element was changed. -/
theorem exists_alike_modify {position : Nat} (habove : above'.map Spot.mark = above.map Spot.mark)
    (hp : childAt? above nodes position = some p) (changed : Nat)
    (change : List Node → List Node) :
    ∃ p', childAt? above' (nodes.modify changed (changeContent change)) position = some p' ∧
      p'.content = (if changed = position then change p.content else p.content) ∧ p'.Alike p := by
  refine exists_alike_childAt? habove hp ?_ ?_
  · rw [List.getElem?_modify, getElem?_of_childAt? hp]
    split <;> rfl
  · rw [List.take_modify, tags_modify_changeContent]

/-- After a node was added, every element is told alike, unless the node stands next to an element
of the same tag on the way. -/
theorem exists_alike_insertAt {address holder : List Nat} {added : Nat} {node : Node}
    (habove : above'.map Spot.mark = above.map Spot.mark)
    (hp : placeAt? above nodes address = some p)
    (htag : ∀ position inner, address = holder ++ position :: inner →
      ∀ child, placeAt? above nodes (holder ++ [position]) = some child →
        node.tag? ≠ some child.spot.tag) :
    ∃ p',
      placeAt? above' (insertAt holder added node nodes) (shift holder added address) = some p' ∧
      (p'.content = p.content ∨ ∃ inner, holder = address ++ inner ∧
        p'.content = insertAt inner added node p.content) ∧ p'.Alike p := by
  induction address generalizing above above' nodes holder with
  | nil => cases hp
  | cons position inner ih =>
      obtain ⟨child, hchild, hinner⟩ := placeAt?_cons_eq_some_iff.mp hp
      cases holder with
      | nil =>
          -- The node is added next to the first element on the way. All below it is the same.
          obtain ⟨child', hchild', hcontent, halike⟩ :=
            exists_alike_insertIdx habove hchild (htag position inner rfl child hchild)
          obtain ⟨p', hp', hsame, halike'⟩ := exists_alike_cons hchild' hcontent halike hinner
          exact ⟨p', hp', Or.inl hsame, halike'⟩
      | cons first holder =>
          obtain ⟨child', hchild', hcontent, halike⟩ :=
            exists_alike_modify habove hchild first (insertAt holder added node)
          rw [shift]
          by_cases hfirst : first = position
          · subst hfirst
            rw [if_pos rfl] at hcontent ⊢
            obtain ⟨rfl, rfl⟩ | hinner := hinner
            · exact ⟨child', by rw [shift]; exact hchild', Or.inr ⟨holder, rfl, hcontent⟩, halike⟩
            · have htagBelow : ∀ next rest, inner = holder ++ next :: rest →
                  ∀ below, placeAt? child.chain child.content (holder ++ [next]) = some below →
                    node.tag? ≠ some below.spot.tag := by
                rintro next rest rfl below hbelow
                exact htag next rest rfl below
                  (placeAt?_cons_eq_some_iff.mpr ⟨child, hchild, Or.inr hbelow⟩)
              obtain ⟨p', hp', hsame, halike'⟩ := ih halike.marks hinner htagBelow
              rw [← hcontent] at hp'
              refine ⟨p', placeAt?_cons_eq_some_iff.mpr ⟨child', hchild', Or.inr hp'⟩, ?_, halike'⟩
              refine hsame.imp_right fun ⟨deeper, hdeeper, hadded⟩ => ?_
              exact ⟨deeper, by rw [hdeeper, List.cons_append], hadded⟩
          · rw [if_neg hfirst] at hcontent ⊢
            obtain ⟨p', hp', hsame, halike'⟩ := exists_alike_cons hchild' hcontent halike hinner
            exact ⟨p', hp', Or.inl hsame, halike'⟩

end

/-- Adding a node to a page, anywhere and with anything in it, leaves the selectors of an element as
they are, unless an element on the way to it, or the element itself, has the tag of the node and
gets it as a sibling. The element stands where its address has moved to, with the tag, the
attributes and the content it had, to which the node may be added. The same selectors are also found
from the innermost element with some tag around it, and without the node the page is what it was. -/
theorem selectors_insertAt {nodes : List Node} {address : List Nat} {n : Place}
    (hn : placeAt? [] nodes address = some n) (holder : List Nat) (position : Nat) (added : Node)
    (htag : ∀ next inner, address = holder ++ next :: inner →
      ∀ child, placeAt? [] nodes (holder ++ [next]) = some child →
        added.tag? ≠ some child.spot.tag) :
    ∃ n', placeAt? [] (insertAt holder position added nodes) (shift holder position address) =
        some n' ∧
      n'.spot.tag = n.spot.tag ∧ n'.spot.attributes = n.spot.attributes ∧
      (n'.content = n.content ∨ ∃ inner, holder = address ++ inner ∧
        n'.content = insertAt inner position added n.content) ∧
      n'.selectors = n.selectors ∧ (∀ tag, (n'.inside tag).selectors = (n.inside tag).selectors) ∧
      removeAt holder position (insertAt holder position added nodes) = nodes := by
  obtain ⟨n', hn', hcontent, halike⟩ := exists_alike_insertAt rfl hn htag
  exact ⟨n', hn', halike.tag, halike.attributes, hcontent, halike.selectors,
    fun tag => (halike.inside tag).selectors, removeAt_insertAt holder position added nodes⟩

def paragraphs : List Node :=
  [.element "html" [] [.element "body" [] [.element "p" [] [], .text "and", .element "p" [] []]]]

/-- The second paragraph is still the second one behind a division, whatever the division holds. -/
theorem selectors_insertAt_division :
    ∃ n n', placeAt? [] paragraphs [0, 0, 2] = some n ∧
      placeAt? [] (insertAt [0, 0] 1 (.element "div" [] [.element "p" [] []]) paragraphs)
        [0, 0, 3] = some n' ∧
      n.selectors = ["body > p:nth-child(2)", "/html/body/p[2]", "/html[1]/body[1]/p[2]"] ∧
      n'.selectors = n.selectors := by
  have hn : ∃ n, placeAt? [] paragraphs [0, 0, 2] = some n ∧
      n.selectors = ["body > p:nth-child(2)", "/html/body/p[2]", "/html[1]/body[1]/p[2]"] :=
    ⟨_, rfl, by decide⟩
  obtain ⟨n, hn, hselectors⟩ := hn
  obtain ⟨n', hn', _, _, _, hsame, _⟩ :=
    selectors_insertAt hn [0, 0] 1 (.element "div" [] [.element "p" [] []]) (by
      rintro next inner haddress child hchild
      obtain ⟨rfl, rfl⟩ : 2 = next ∧ [] = inner := by simpa using haddress
      obtain rfl := Option.some.inj hchild
      decide)
  exact ⟨n, n', hn, hn', hselectors, hsame⟩

end Clickpath.Locator
