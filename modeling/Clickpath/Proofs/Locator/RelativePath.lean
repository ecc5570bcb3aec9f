import Clickpath.Proofs.Locator.CssPath
import Clickpath.Proofs.XPath.Expression

/-! # Meaning of location paths

A location path starts at the document, whose only child is the root, and each step leads on from
all elements that were found so far. The path that is written for an element starts at its
identifier, at the only body, or at the root, and in each of these forms it finds the element. But a
mark in an identifier ends the literal that holds it, and an odd number of marks leaves no
expression at all.
-/

namespace Clickpath

open Markup Locator

namespace XPath

/-! ## Evaluation -/

/-- Where a step starts: at the document, or at an element. -/
inductive Origin where
  | document
  | element (p : Place)

namespace Origin

def children (d : Document) : Origin → List Place
  | document => [rootPlace d]
  | element p => p.children

/-- The origin itself and all elements in it. -/
def withDescendants (d : Document) : Origin → List Origin
  | document => document :: (elements d).map element
  | element p => element p :: p.descendants.map element

end Origin

/-- The texts among nodes. Texts side by side are one. -/
def textRuns (nodes : List Node) : List String :=
  let runs := nodes.splitBy fun a b => a.isElement == b.isElement
  (runs.filter fun run => run.all fun node => !node.isElement).map Node.allTextOf

/-- The elements that pass among those that were found from one origin. -/
def Predicate.keep (places : List Place) : Predicate → List Place
  | .position index => if index = 0 then [] else places[index - 1]?.toList
  | .attribute name value =>
    places.filter fun p => p.spot.attributes.lookup name == some value.value
  | .text value => places.filter fun p => (textRuns p.content).contains value.value

/-- The elements to which a step leads from one origin. -/
def LocationStep.reach (d : Document) (step : LocationStep) (origin : Origin) : List Place :=
  let origins := if step.deep then origin.withDescendants d else [origin]
  origins.flatMap fun origin =>
    let found := (origin.children d).filter fun p => step.tag.all (p.spot.tag == ·)
    match step.predicate with
    | some predicate => predicate.keep found
    | none => found

/-- The elements to which steps lead from elements. -/
def walk (d : Document) (places : List Place) : List LocationStep → List Place
  | [] => places
  | step :: rest => walk d (places.flatMap fun p => step.reach d (.element p)) rest

/-- The elements to which steps lead from the document. -/
def select (d : Document) : List LocationStep → List Place
  | [] => []
  | step :: rest => walk d (step.reach d .document) rest

/-- The elements that a path expression selects in a document. -/
def evaluate (d : Document) (text : String) : Option (List Place) := (read? text).map (select d)

/-! ## Child steps -/

theorem reach_child (d : Document) (s : ChildStep) (origin : Origin) :
    (LocationStep.child s).reach d origin = (ChildPath.pick? s (origin.children d)).toList := by
  rw [LocationStep.reach, ChildPath.pick?]
  simp only [LocationStep.child, Bool.false_eq_true, if_false, List.flatMap_singleton,
    Predicate.keep, Option.all_some]
  split <;> rfl

/-- An element is reached by child steps if these lead to it from one of the elements. -/
theorem mem_walk_child_iff {d : Document} {places : List Place} {steps : List ChildStep}
    {q : Place} : q ∈ walk d places (steps.map .child) ↔
      ∃ p ∈ places, ChildPath.follow? p steps = some q := by
  induction steps generalizing places with
  | nil => simp [walk, ChildPath.follow?]
  | cons s steps ih =>
      rw [List.map_cons, walk, ih]
      simp only [List.mem_flatMap, reach_child, Option.mem_toList, ChildPath.follow?,
        Option.bind_eq_some_iff, Origin.children]
      constructor
      · rintro ⟨child, ⟨p, hp, hpick⟩, hfollow⟩
        exact ⟨p, hp, child, hpick, hfollow⟩
      · rintro ⟨p, hp, child, hpick, hfollow⟩
        exact ⟨child, ⟨p, hp, hpick⟩, hfollow⟩

/-- From one element, child steps reach the element to which they lead and no other one. -/
theorem mem_walk_child_of_follow? {d : Document} {places : List Place} {start n : Place}
    {steps : List ChildStep} (hstart : ∀ p, p ∈ places ↔ p = start)
    (hfollow : ChildPath.follow? start steps = some n) (p : Place) :
    p ∈ walk d places (steps.map .child) ↔ p = n := by
  rw [mem_walk_child_iff]
  constructor
  · rintro ⟨q, hq, hp⟩
    rw [(hstart q).mp hq, hfollow] at hp
    exact (Option.some.inj hp).symm
  · rintro rfl
    exact ⟨start, (hstart start).mpr rfl, hfollow⟩

theorem mem_reach_named_iff {d : Document} {tag : String} {origin : Origin} {p : Place} :
    p ∈ (LocationStep.named tag).reach d origin ↔
      p ∈ origin.children d ∧ p.spot.tag = tag := by
  simp [LocationStep.reach, LocationStep.named, List.mem_filter]

/-- The steps to the body reach the only one there is. -/
theorem mem_reach_body_iff {d : Document} {body : Place}
    (hone : (elements d).filter (fun p => p.spot.tag == "body") = [body])
    (hchild : body ∈ (rootPlace d).children) (p : Place) :
    p ∈ ((LocationStep.named "html").reach d .document).flatMap
        (fun root => (LocationStep.named "body").reach d (.element root)) ↔ p = body := by
  rw [List.mem_flatMap]
  constructor
  · rintro ⟨root, hroot, hp⟩
    obtain ⟨hroot, _⟩ := mem_reach_named_iff.mp hroot
    obtain ⟨hp, htag⟩ := mem_reach_named_iff.mp hp
    rw [List.mem_singleton.mp hroot] at hp
    exact StyleRule.eq_of_filter_eq hone (mem_elements_iff.mpr (.child .here hp)) htag
  · rintro rfl
    exact ⟨rootPlace d, mem_reach_named_iff.mpr ⟨List.mem_singleton_self _, rfl⟩,
      mem_reach_named_iff.mpr ⟨hchild, StyleRule.tag_of_filter_eq hone⟩⟩

/-! ## Elements at any depth -/

/-- Every element is a child of the document or of another element. -/
theorem mem_children_withDescendants_iff {d : Document} {p : Place} :
    (∃ origin ∈ Origin.document.withDescendants d, p ∈ origin.children d) ↔ p ∈ elements d := by
  constructor
  · rintro ⟨origin, horigin, hp⟩
    rcases List.mem_cons.mp horigin with rfl | horigin
    · rw [List.mem_singleton.mp hp]
      exact List.mem_cons_self
    · obtain ⟨q, hq, rfl⟩ := List.mem_map.mp horigin
      exact mem_elements_iff.mpr ((mem_elements_iff.mp hq).child hp)
  · intro hp
    cases mem_elements_iff.mp hp with
    | here => exact ⟨.document, List.mem_cons_self, List.mem_singleton_self _⟩
    | @child q _ hq hchild =>
        exact ⟨.element q, List.mem_cons_of_mem _
          (List.mem_map_of_mem (mem_elements_iff.mpr hq)), hchild⟩

/-- A demand for an attribute at any depth finds the elements that have it. -/
theorem mem_select_attribute_iff {d : Document} {name : String} {value : StringExpr} {p : Place} :
    p ∈ select d [⟨true, none, some (.attribute name value)⟩] ↔
      p ∈ elements d ∧ p.spot.attributes.lookup name = some value.value := by
  rw [← mem_children_withDescendants_iff, select, walk, LocationStep.reach, if_pos rfl,
    List.mem_flatMap]
  constructor
  · rintro ⟨origin, horigin, hp⟩
    obtain ⟨hp, hvalue⟩ := List.mem_filter.mp hp
    exact ⟨⟨origin, horigin, (List.mem_filter.mp hp).1⟩, beq_iff_eq.mp hvalue⟩
  · rintro ⟨⟨origin, horigin, hp⟩, hvalue⟩
    exact ⟨origin, horigin,
      List.mem_filter.mpr ⟨List.mem_filter.mpr ⟨hp, rfl⟩, beq_iff_eq.mpr hvalue⟩⟩

end XPath

namespace Locator

/-! ## The root and the body -/

/-- No element in front of the root has its tag. -/
theorem rootTag_notMem_before {before nodes : List Node} {d : Document}
    (hroot : Document.findRoot? before nodes = some d)
    (hbefore : Document.rootTag ∉ Node.tags before) : Document.rootTag ∉ Node.tags d.before := by
  induction nodes generalizing before with
  | nil => cases hroot
  | cons node after ih =>
      cases node with
      | text data => exact ih hroot hbefore
      | element tag attributes content =>
          rw [Document.findRoot?] at hroot
          split at hroot
          next htag =>
            obtain rfl := Option.some.inj hroot
            intro hmem
            rw [Node.tags, List.filterMap_reverse, List.mem_reverse] at hmem
            exact hbefore hmem
          next htag =>
            apply ih hroot
            intro hmem
            rcases List.mem_cons.mp hmem with heq | hmem
            · exact htag (beq_iff_eq.mpr heq.symm)
            · exact hbefore hmem

/-- No root stands in front of that of a document which was read. -/
theorem siblingIndex_root {text : String} {d : Document} (hread : Document.read text = .ok d) :
    (rootSpot d).pathNode.siblingIndex = 1 := by
  have hbefore : Document.rootTag ∉ Node.tags d.before := by
    rw [Document.read] at hread
    cases hevents : events text.toList with
    | error fault =>
        rw [hevents] at hread
        cases hread
    | ok found =>
        rw [hevents] at hread
        obtain rfl := Except.ok.inj hread
        change _ ∉ Node.tags (Document.ofNodes (nodesOf found)).before
        rw [Document.ofNodes]
        cases hroot : Document.findRoot? [] (nodesOf found) with
        | none => exact List.not_mem_nil
        | some d => exact rootTag_notMem_before hroot List.not_mem_nil
  rw [PathNode.siblingIndex, Spot.pathNode, rootSpot, List.reverse_reverse]
  rw [List.count_eq_zero_of_not_mem hbefore]

/-- An element stands in the only body, or there is no body on the path to it. -/
theorem leadsTo_or_noBody {d : Document} {body n : Place}
    (hone : (elements d).filter (fun p => p.spot.tag == "body") = [body]) (hn : n ∈ elements d) :
    body.LeadsTo n ∨ ∀ node ∈ n.path, node.tag ≠ "body" := by
  induction mem_elements_iff.mp hn with
  | here =>
      right
      intro node hnode
      rw [List.mem_singleton.mp hnode]
      show Document.rootTag ≠ "body"
      decide
  | @child p q hp hq ih =>
      rcases ih (mem_elements_iff.mpr hp) with hbody | hnone
      · exact .inl (hbody.child hq)
      by_cases htag : q.spot.tag = "body"
      · rw [StyleRule.eq_of_filter_eq hone (mem_elements_iff.mpr (hp.child hq)) htag]
        exact .inl .here
      · right
        intro node hnode
        rw [Place.path_of_mem_children hq, List.mem_append] at hnode
        rcases hnode with hnode | hnode
        · exact hnone node hnode
        · rw [List.mem_singleton.mp hnode]
          exact htag

theorem belowBody?_eq_none {path : List PathNode} (hpath : ∀ node ∈ path, node.tag ≠ "body") :
    belowBody? path = none := by
  induction path with
  | nil => rfl
  | cons node path ih =>
      rw [belowBody?, beq_eq_false_iff_ne.mpr (hpath node List.mem_cons_self),
        if_neg Bool.false_ne_true]
      exact ih fun other hother => hpath other (List.mem_cons_of_mem _ hother)

/-! ## The path that is written -/

/-- A value that is not empty is an identifier where it is the value of the attribute. -/
theorem Place.id_eq_some_iff {p : Place} {id : String} :
    p.snapshot.id = some id ↔ p.spot.attributes.lookup "id" = some id ∧ id ≠ "" := by
  change (p.spot.attributes.lookup "id").bind Text.nonempty? = some id ↔ _
  rw [Option.bind_eq_some_iff]
  constructor
  · rintro ⟨value, hvalue, hid⟩
    obtain ⟨rfl, hne⟩ := Text.nonempty?_eq_some_iff.mp hid
    exact ⟨hvalue, hne⟩
  · rintro ⟨hvalue, hne⟩
    exact ⟨id, hvalue, Text.nonempty?_eq_some_iff.mpr ⟨rfl, hne⟩⟩

theorem Snapshot.usableId?_snapshot (n : Place) : n.snapshot.usableId? = n.snapshot.id := by
  rw [Snapshot.usableId?]
  cases hid : n.snapshot.id with
  | none => rfl
  | some id => exact Text.nonempty?_eq_some_iff.mpr ⟨rfl, (Place.id_eq_some_iff.mp hid).2⟩

/-- From the identifier of an element, its path finds the elements with this identifier. -/
theorem mem_evaluate_of_id {d : Document} {n : Place} {id : String} (hid : n.snapshot.id = some id)
    (hmark : '\'' ∉ id.toList) :
    ∃ found, XPath.evaluate d n.snapshot.relativeXPath = some found ∧
      ∀ p, p ∈ found ↔ p ∈ elements d ∧ p.snapshot.id = some id := by
  have hpath : n.snapshot.relativeXPath = "//*[@id='" ++ id ++ "']" := by
    rw [Snapshot.relativeXPath, Snapshot.usableId?_snapshot, hid]
  refine ⟨_, by rw [XPath.evaluate, hpath, XPath.read?_withId hmark, Option.map_some], ?_⟩
  intro p
  rw [XPath.mem_select_attribute_iff, XPath.StringExpr.value, String.ofList_toList,
    Place.id_eq_some_iff, and_iff_left (Place.id_eq_some_iff.mp hid).2]

/-- From the only body, the path of an element in it finds this element alone. -/
theorem mem_evaluate_of_body {d : Document} {body n : Place}
    (hone : (elements d).filter (fun p => p.spot.tag == "body") = [body])
    (hchild : body ∈ (rootPlace d).children) (hn : body.LeadsTo n) (hid : n.snapshot.id = none)
    (hnamed : ∀ node ∈ n.path, XPath.isName node.tag = true) :
    ∃ found, XPath.evaluate d n.snapshot.relativeXPath = some found ∧ ∀ p, p ∈ found ↔ p = n := by
  have hbody := StyleRule.tag_of_filter_eq hone
  obtain ⟨below, hbelow, hfollow⟩ := ChildPath.follow?_of_leadsTo hn
  have hbodyPath : body.path = [(rootSpot d).pathNode, body.spot.pathNode] :=
    Place.path_of_mem_children hchild
  have hpath : n.snapshot.relativeXPath =
      "/html/body" ++ String.join (below.map xpathStep) := by
    have hfound : belowBody? n.snapshot.path = some below := by
      change belowBody? n.path = _
      rw [hbelow, hbodyPath]
      exact StyleRule.belowBody?_root d hbody below
    rw [Snapshot.relativeXPath, Snapshot.usableId?_snapshot, hid, hfound]
  have hbelowNamed : ∀ node ∈ below, XPath.isName node.tag = true := by
    intro node hnode
    apply hnamed
    rw [hbelow]
    exact List.mem_append_right _ hnode
  refine ⟨_, by rw [XPath.evaluate, hpath, XPath.read?_belowBody hbelowNamed, Option.map_some], ?_⟩
  exact XPath.mem_walk_child_of_follow? (XPath.mem_reach_body_iff hone hchild) hfollow

/-- From the root, the path of an element finds this element alone. -/
theorem mem_evaluate_of_root {d : Document} {n : Place}
    (hroot : (rootSpot d).pathNode.siblingIndex = 1) (hn : n ∈ elements d)
    (hnone : ∀ node ∈ n.path, node.tag ≠ "body") (hid : n.snapshot.id = none)
    (hnamed : ∀ node ∈ n.path, XPath.isName node.tag = true) :
    ∃ found, XPath.evaluate d n.snapshot.relativeXPath = some found ∧ ∀ p, p ∈ found ↔ p = n := by
  obtain ⟨below, hbelow, hfollow⟩ := ChildPath.follow?_of_leadsTo (mem_elements_iff.mp hn)
  have hpath : n.snapshot.relativeXPath = String.join (n.path.map xpathStep) := by
    have hnothing : belowBody? n.snapshot.path = none := belowBody?_eq_none hnone
    rw [Snapshot.relativeXPath, Snapshot.usableId?_snapshot, hid, hnothing]
    rfl
  have hread : XPath.read? n.snapshot.relativeXPath =
      some ((n.path.map ChildPath.stepOf).map .child) := by
    rw [hpath, XPath.read?_join n.path_ne_nil hnamed]
  refine ⟨_, by rw [XPath.evaluate, hread, Option.map_some], ?_⟩
  have hfirst : ChildPath.pick? (ChildPath.stepOf (rootSpot d).pathNode) [rootPlace d] =
      some (rootPlace d) := by
    rw [ChildPath.stepOf, hroot]
    exact ChildPath.pick?_append (rootPlace d) [] []
  have hsteps : n.path.map ChildPath.stepOf =
      ChildPath.stepOf (rootSpot d).pathNode :: below.map ChildPath.stepOf := by
    rw [hbelow]
    rfl
  rw [hsteps, List.map_cons, XPath.select, XPath.reach_child, XPath.Origin.children, hfirst]
  exact XPath.mem_walk_child_of_follow? (fun _ => List.mem_singleton) hfollow

/-- On a page that was read, with one body below the root, the path of an element with names for
tags finds this element, and besides it only those with its identifier, unless a mark in the
identifier ends the literal. Where there are no double marks and an odd number of single ones in the
identifier, the path is no expression. -/
theorem relativeXPath_selects {text : String} {d : Document} {body n : Place}
    (hread : Document.read text = .ok d)
    (hone : (elements d).filter (fun p => p.spot.tag == "body") = [body])
    (hchild : body ∈ (rootPlace d).children) (hn : n ∈ elements d)
    (hnamed : ∀ node ∈ n.path, XPath.isName node.tag = true) :
    ((∀ id, n.snapshot.id = some id → '\'' ∉ id.toList) →
      ∃ found, XPath.evaluate d n.snapshot.relativeXPath = some found ∧
        ∀ p, p ∈ found ↔
          p = n ∨ p ∈ elements d ∧ n.snapshot.id.isSome ∧ p.snapshot.id = n.snapshot.id) ∧
    (∀ id, n.snapshot.id = some id → '\x22' ∉ id.toList → id.toList.count '\'' % 2 = 1 →
      XPath.tokens? 0 n.snapshot.relativeXPath.toList = none) := by
  constructor
  · intro hmark
    cases hid : n.snapshot.id with
    | none =>
        have hfound : ∃ found, XPath.evaluate d n.snapshot.relativeXPath = some found ∧
            ∀ p, p ∈ found ↔ p = n := by
          rcases leadsTo_or_noBody hone hn with hbody | hnone
          · exact mem_evaluate_of_body hone hchild hbody hid hnamed
          · exact mem_evaluate_of_root (siblingIndex_root hread) hn hnone hid hnamed
        simpa using hfound
    | some id =>
        obtain ⟨found, hfound, hmem⟩ := mem_evaluate_of_id hid (hmark id hid)
        refine ⟨found, hfound, fun p => ?_⟩
        rw [hmem]
        constructor
        · rintro ⟨hp, hsame⟩
          exact .inr ⟨hp, rfl, hsame⟩
        · rintro (rfl | ⟨hp, _, hsame⟩)
          · exact ⟨hn, hid⟩
          · exact ⟨hp, hsame⟩
  · intro id hid hdouble hodd
    have hpath : n.snapshot.relativeXPath.toList =
        "//*[@id='".toList ++ (id.toList ++ "']".toList) := by
      rw [Snapshot.relativeXPath, Snapshot.usableId?_snapshot, hid]
      simp
    apply XPath.tokens?_eq_none_of_odd
    · rw [hpath, List.mem_append, List.mem_append]
      rintro (hmem | hmem | hmem)
      · exact absurd hmem (by decide)
      · exact hdouble hmem
      · exact absurd hmem (by decide)
    · rw [hpath, List.count_append, List.count_append]
      have hfront : "//*[@id='".toList.count '\'' = 1 := by decide
      have hback : "']".toList.count '\'' = 1 := by decide
      omega

/-- A page with a paragraph whose identifier has a mark in it. -/
def markedPage : Document :=
  ⟨[], [], [.element "body" [] [.element "p" [("id", "it's")] []]], []⟩

def markedPageBody : Place :=
  ⟨⟨"body", [], [], []⟩, [.element "p" [("id", "it's")] []], [rootSpot markedPage]⟩

def markedPageParagraph : Place := ⟨⟨"p", [("id", "it's")], [], []⟩, [], markedPageBody.chain⟩

/-- The path that is written for the paragraph is no expression, so it selects nothing. -/
theorem relativeXPath_selects_mark :
    Document.read "<html><body><p id=\"it's\"></p></body></html>" = .ok markedPage ∧
      (elements markedPage).filter (fun p => p.spot.tag == "body") = [markedPageBody] ∧
      markedPageBody ∈ (rootPlace markedPage).children ∧
      markedPageParagraph ∈ elements markedPage ∧
      (∀ node ∈ markedPageParagraph.path, XPath.isName node.tag = true) ∧
      markedPageParagraph.snapshot.relativeXPath = "//*[@id='it's']" ∧
      XPath.tokens? 0 markedPageParagraph.snapshot.relativeXPath.toList = none ∧
      XPath.evaluate markedPage markedPageParagraph.snapshot.relativeXPath = none := by
  have hread : Document.read "<html><body><p id=\"it's\"></p></body></html>" = .ok markedPage := rfl
  have hone : (elements markedPage).filter (fun p => p.spot.tag == "body") = [markedPageBody] := rfl
  have hchild : markedPageBody ∈ (rootPlace markedPage).children := List.mem_cons_self
  have hparagraph : markedPageParagraph ∈ elements markedPage :=
    List.mem_cons_of_mem _ (List.mem_cons_of_mem _ List.mem_cons_self)
  have hnamed : ∀ node ∈ markedPageParagraph.path, XPath.isName node.tag = true := by decide
  have htokens := (relativeXPath_selects hread hone hchild hparagraph hnamed).2 "it's" rfl
    (by decide) (by decide)
  refine ⟨hread, hone, hchild, hparagraph, hnamed, rfl, htokens, ?_⟩
  rw [XPath.evaluate, XPath.read?, htokens]
  rfl

end Locator

end Clickpath
