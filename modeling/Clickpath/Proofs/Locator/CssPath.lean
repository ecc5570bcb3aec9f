import Mathlib.Data.List.Nodup
import Clickpath.Proofs.Locator.StyleRule

/-! # The style rule that is written for an element

The rule counts siblings of the same tag only, while its index counts all elements in front. So it
selects the element if and only if no other elements stand in front, at every level below the body.
In all other documents it selects nothing, or an element that was not picked.
-/

namespace Clickpath.Locator

open Markup

namespace StyleRule

/-! ## Fulfilled demands -/

/-- Demands that are fulfilled name the tags of the spots they are for. -/
theorem tags_of_fitsUp {demands : List Compound} {spots : List Spot}
    (hfits : fitsUp demands spots = true) :
    demands.map Compound.tag = (spots.take demands.length).map Spot.tag := by
  induction demands generalizing spots with
  | nil => rfl
  | cons c outer ih =>
      cases spots with
      | nil => cases hfits
      | cons s above =>
          obtain ⟨hc, houter⟩ := Bool.and_eq_true_iff.mp hfits
          rw [Compound.fits, Bool.and_eq_true, beq_iff_eq] at hc
          rw [List.map_cons, List.length_cons, List.take_succ_cons, List.map_cons, ih houter, hc.1]

/-- Demands made of spots are checked spot by spot. -/
theorem fitsUp_append (demand : Spot → Compound) (inner above : List Spot)
    (outer : List Compound) :
    fitsUp (inner.map demand ++ outer) (inner ++ above) =
      (inner.all (fun s => (demand s).fits s) && fitsUp outer above) := by
  induction inner with
  | nil => rfl
  | cons s inner ih =>
      rw [List.map_cons, List.cons_append, List.cons_append, fitsUp, ih, List.all_cons,
        Bool.and_assoc]

/-- Among children of one element, there is one with a number of elements in front. -/
theorem eq_of_length_before_eq {above : List Spot} {nodes : List Node} {p q : Place}
    (hp : p ∈ Place.among above [] nodes) (hq : q ∈ Place.among above [] nodes)
    (hsame : (Node.tags p.spot.before).length = (Node.tags q.spot.before).length) : p = q := by
  -- How many elements stand in front of a place is its position among the siblings.
  have hposition : ∀ {r : Place}, r ∈ Place.among above [] nodes →
      (Place.among above [] nodes)[(Node.tags r.spot.before).length]? = some r := by
    intro r hr
    obtain ⟨front, back, hsplit⟩ := List.append_of_mem hr
    have hlength : (Node.tags r.spot.before).length = front.length := by
      have htags := congrArg List.length (Place.tags_before_of_among_eq hsplit)
      rw [Node.tags, List.filterMap_reverse, List.length_reverse] at htags
      rw [Node.tags, htags]
      simp [Node.tags]
    rw [hlength, hsplit, List.getElem?_append_right (Nat.le_refl _), Nat.sub_self]
    rfl
  have hfound := hposition hp
  rw [hsame, hposition hq] at hfound
  exact (Option.some.inj hfound).symm

/-! ## Rules anchored at the body -/

/-- The demand for a body, wherever it stands. -/
def bodyDemand : Compound := ⟨"body", none⟩

/-- The demand that is written for a part of a path. -/
def demandOf (n : PathNode) : Compound := ⟨n.tag, some n.siblingIndex⟩

/-- The demands that are written for spots below a body, given from the innermost outwards. -/
def ruleBelowBody (inner : List Spot) : List Compound :=
  bodyDemand :: (inner.reverse.map Spot.pathNode).map demandOf

theorem reverse_ruleBelowBody (inner : List Spot) :
    (ruleBelowBody inner).reverse = inner.map (fun s => demandOf s.pathNode) ++ [bodyDemand] := by
  rw [ruleBelowBody, List.reverse_cons, List.map_map, List.map_reverse, List.reverse_reverse]
  rfl

theorem tag_of_filter_eq {places : List Place} {body : Place}
    (hone : places.filter (fun p => p.spot.tag == "body") = [body]) : body.spot.tag = "body" := by
  have hmem : body ∈ places.filter fun p => p.spot.tag == "body" := by
    rw [hone]
    exact List.mem_singleton_self body
  exact beq_iff_eq.mp (List.mem_filter.mp hmem).2

/-- There is no other element with the tag of the only body. -/
theorem eq_of_filter_eq {places : List Place} {body p : Place}
    (hone : places.filter (fun p => p.spot.tag == "body") = [body]) (hp : p ∈ places)
    (htag : p.spot.tag = "body") : p = body := by
  rw [← List.mem_singleton, ← hone]
  exact List.mem_filter.mpr ⟨hp, beq_iff_eq.mpr htag⟩

/-- Only one element fulfils demands with an index each up to the only body of a document. -/
theorem eq_of_fitsUp {d : Document} {body : Place}
    (hone : (elements d).filter (fun p => p.spot.tag == "body") = [body]) {demands : List Compound}
    (hindexed : ∀ c ∈ demands, c.index.isSome) {p q : Place} (hp : p ∈ elements d)
    (hq : q ∈ elements d) (hpfits : fitsUp (demands ++ [bodyDemand]) p.chain = true)
    (hqfits : fitsUp (demands ++ [bodyDemand]) q.chain = true) : p = q := by
  induction demands generalizing p q with
  | nil =>
      have hbody : ∀ {r : Place}, r ∈ elements d → fitsUp [bodyDemand] r.chain = true →
          r = body := by
        intro r hr hfits
        have htag : (r.spot.tag == "body") = true :=
          (Bool.and_eq_true_iff.mp (Bool.and_eq_true_iff.mp hfits).1).1
        exact eq_of_filter_eq hone hr (beq_iff_eq.mp htag)
      rw [hbody hp hpfits, hbody hq hqfits]
  | cons c demands ih =>
      obtain ⟨index, hindex⟩ := Option.isSome_iff_exists.mp (hindexed c List.mem_cons_self)
      -- The root cannot fulfil a demand inside of another, so the element is a child.
      have hchild : ∀ {r : Place}, r ∈ elements d →
          fitsUp (c :: demands ++ [bodyDemand]) r.chain = true →
          ∃ parent ∈ elements d, r ∈ parent.children ∧
            fitsUp (demands ++ [bodyDemand]) parent.chain = true ∧
            index = 1 + (Node.tags r.spot.before).length := by
        intro r hr hfits
        obtain ⟨hc, houter⟩ := Bool.and_eq_true_iff.mp hfits
        rw [Compound.fits, hindex, Option.all_some, Bool.and_eq_true, beq_iff_eq, beq_iff_eq] at hc
        cases mem_elements_iff.mp hr with
        | here => cases demands <;> cases houter
        | @child parent _ hparent hmem =>
            rw [Place.above_of_mem_among hmem] at houter
            exact ⟨parent, mem_elements_iff.mpr hparent, hmem, houter, hc.2⟩
      obtain ⟨pparent, hpparent, hpmem, hpouter, hpindex⟩ := hchild hp hpfits
      obtain ⟨qparent, hqparent, hqmem, hqouter, hqindex⟩ := hchild hq hqfits
      obtain rfl := ih (fun other hother => hindexed other (List.mem_cons_of_mem _ hother))
        hpparent hqparent hpouter hqouter
      exact eq_of_length_before_eq hpmem hqmem (by omega)

/-- An element fulfils the demand that is written for it if and only if all elements in front have
its own tag. -/
theorem fits_demandOf_iff (s : Spot) :
    (demandOf s.pathNode).fits s = true ↔
      ∀ tag ∈ s.pathNode.preceding, tag = s.pathNode.tag := by
  have hlength : (Node.tags s.before).length = s.pathNode.preceding.length := by
    rw [Spot.pathNode, Node.tags, Node.tags, List.filterMap_reverse, List.length_reverse]
  rw [Compound.fits, demandOf, Option.all_some, hlength, PathNode.siblingIndex, Bool.and_eq_true,
    beq_iff_eq, beq_iff_eq, Nat.add_right_inj, List.count_eq_length]
  constructor
  · rintro ⟨_, hall⟩ tag htag
    exact (hall tag htag).symm
  · intro hall
    exact ⟨rfl, fun tag htag => (hall tag htag).symm⟩

/-- The rule that is written for spots below a body selects the element there if and only if all
elements in front of these spots have the tags of the spots. -/
theorem selects_ruleBelowBody_iff {inner above : List Spot} {body : Spot} {p : Place}
    (hchain : p.chain = inner ++ body :: above) (hbody : body.tag = "body") :
    selects (ruleBelowBody inner) p = true ↔
      ∀ s ∈ inner, ∀ tag ∈ s.pathNode.preceding, tag = s.pathNode.tag := by
  have hlast : fitsUp [bodyDemand] (body :: above) = true := by
    rw [fitsUp, Compound.fits, hbody]
    rfl
  rw [selects, reverse_ruleBelowBody, hchain, fitsUp_append, hlast, Bool.and_true, List.all_eq_true]
  exact forall₂_congr fun s _ => fits_demandOf_iff s

/-! ## The rule that is written -/

/-- Around an element in a body below the root are its own ancestors, the body and the root. -/
theorem chain_of_mem_body {d : Document} {body n : Place} (hchild : body ∈ (rootPlace d).children)
    (hn : n ∈ body.descendants) : ∃ inner, n.chain = inner ++ [body.spot, rootSpot d] := by
  obtain ⟨inner, hinner⟩ := (Place.leadsTo_of_mem_descendants hn).chain
  rw [Place.chain_of_mem_children hchild] at hinner
  exact ⟨inner, hinner⟩

theorem path_of_chain {d : Document} {body n : Place} {inner : List Spot}
    (hchain : n.chain = inner ++ [body.spot, rootSpot d]) :
    n.path = (rootSpot d).pathNode :: body.spot.pathNode :: inner.reverse.map Spot.pathNode := by
  rw [Place.path_eq_chain, hchain, List.reverse_append, List.map_append]
  rfl

/-- Behind the root and a body are the nodes below the body. -/
theorem belowBody?_root (d : Document) {body : Place} (hbody : body.spot.tag = "body")
    (below : List PathNode) :
    belowBody? ((rootSpot d).pathNode :: body.spot.pathNode :: below) = some below := by
  have hroot : ((rootSpot d).pathNode.tag == "body") = false :=
    show (Document.rootTag == "body") = false by decide
  have hfound : (body.spot.pathNode.tag == "body") = true := beq_iff_eq.mpr hbody
  rw [belowBody?, hroot, if_neg Bool.false_ne_true, belowBody?, hfound, if_pos rfl]

/-- Below a body, without an identifier, the rule is written from the body downwards. -/
theorem cssPath_eq_write {d : Document} {body n : Place} {inner : List Spot}
    (hchain : n.chain = inner ++ [body.spot, rootSpot d]) (hbody : body.spot.tag = "body")
    (hid : n.snapshot.id = none) : n.snapshot.cssPath = write (ruleBelowBody inner) := by
  have hpath : n.snapshot.path =
      (rootSpot d).pathNode :: body.spot.pathNode :: inner.reverse.map Spot.pathNode :=
    path_of_chain hchain
  have hbelow : belowBody? n.snapshot.path = some (inner.reverse.map Spot.pathNode) := by
    rw [hpath]
    exact belowBody?_root d hbody _
  have hanchor : n.snapshot.anchor = ("body", inner.reverse.map Spot.pathNode) := by
    rw [Snapshot.anchor, hbelow]
  have hsteps : ∀ nodes : List PathNode,
      (nodes.map demandOf).map Compound.text = nodes.map cssStep := fun nodes => List.map_map
  rw [Snapshot.cssPath, Snapshot.usableId?, hid, Option.bind_none, hanchor, write, ruleBelowBody,
    List.map_cons, hsteps]
  rfl

/-- If a rule that is written for spots selects an element among them, their tags are
identifiers. -/
theorem isIdent_of_selects {inner above : List Spot} {p : Place} {rule : List Compound}
    (hread : read? (write (ruleBelowBody inner)) = some rule)
    (hchain : p.chain = inner ++ above) (hselects : selects rule p = true) :
    ∀ s ∈ inner, isIdent s.tag = true := by
  intro s hs
  obtain ⟨hlength, hidents⟩ := read?_eq_some hread
  -- Combinators within tags would only add demands, so none of the spots is left without one.
  have hcount := length_le_count_write (ruleBelowBody inner)
  have henough : inner.length ≤ rule.reverse.length := by
    have hrule : (ruleBelowBody inner).length = inner.length + 1 := by simp [ruleBelowBody]
    rw [List.length_reverse]
    omega
  have htags := tags_of_fitsUp hselects
  have hmem : s.tag ∈ (p.chain.take rule.reverse.length).map Spot.tag := by
    rw [hchain, List.take_append, List.take_of_length_le henough]
    exact List.mem_map_of_mem (List.mem_append_left _ hs)
  rw [← htags] at hmem
  obtain ⟨c, hc, hctag⟩ := List.mem_map.mp hmem
  rw [← hctag]
  exact hidents c (List.mem_reverse.mp hc)

/-- A rule that was written below a body is read as its demands. -/
theorem read?_write_ruleBelowBody {inner : List Spot}
    (hidents : ∀ s ∈ inner, isIdent s.tag = true) :
    read? (write (ruleBelowBody inner)) = some (ruleBelowBody inner) := by
  apply read?_write (List.cons_ne_nil _ _)
  intro c hc
  rcases List.mem_cons.mp hc with rfl | hc
  · decide
  · obtain ⟨node, hnode, rfl⟩ := List.mem_map.mp hc
    obtain ⟨s, hs, rfl⟩ := List.mem_map.mp hnode
    exact hidents s (List.mem_reverse.mp hs)

/-- Nothing but one element is found by a test that only this one among different ones passes. -/
theorem filter_eq_singleton {places : List Place} (hnodup : places.Nodup) {test : Place → Bool}
    {p : Place} (hp : p ∈ places) (htest : test p = true)
    (honly : ∀ q ∈ places, test q = true → q = p) : places.filter test = [p] := by
  apply List.perm_singleton.mp
  rw [List.perm_ext_iff_of_nodup (hnodup.filter _) (List.nodup_singleton p)]
  intro q
  rw [List.mem_filter, List.mem_singleton]
  constructor
  · rintro ⟨hq, hqtest⟩
    exact honly q hq hqtest
  · rintro rfl
    exact ⟨hp, htest⟩

/-- A rule from a body finds the element alone exactly if no sibling of another tag is in front of
one on the way, since the rule counts all of them. -/
theorem evaluate_write_ruleBelowBody_iff {d : Document} {body n : Place} {inner : List Spot}
    (hone : (elements d).filter (fun p => p.spot.tag == "body") = [body])
    (hn : n ∈ elements d) (hchain : n.chain = inner ++ [body.spot, rootSpot d]) :
    evaluate d (write (ruleBelowBody inner)) = some [n] ↔
      ∀ s ∈ inner, isIdent s.tag = true ∧ ∀ tag ∈ s.pathNode.preceding, tag = s.tag := by
  have hbody := tag_of_filter_eq hone
  have hiff := selects_ruleBelowBody_iff hchain hbody
  constructor
  · intro heval
    obtain ⟨rule, hread, hfound⟩ := Option.map_eq_some_iff.mp heval
    have hselects : selects rule n = true := by
      have hmem : n ∈ (elements d).filter (selects rule) := by
        rw [hfound]
        exact List.mem_singleton_self n
      exact (List.mem_filter.mp hmem).2
    have hidents := isIdent_of_selects hread hchain hselects
    rw [read?_write_ruleBelowBody hidents] at hread
    obtain rfl := Option.some.inj hread
    exact fun s hs => ⟨hidents s hs, hiff.mp hselects s hs⟩
  · intro hall
    have hselects := hiff.mpr fun s hs => (hall s hs).2
    rw [evaluate, read?_write_ruleBelowBody fun s hs => (hall s hs).1, Option.map_some]
    congr 1
    apply filter_eq_singleton (elements_nodup d) hn hselects
    intro q hq hqselects
    rw [selects, reverse_ruleBelowBody] at hselects hqselects
    refine eq_of_fitsUp hone ?_ hq hn hqselects hselects
    intro c hc
    obtain ⟨s, _, rfl⟩ := List.mem_map.mp hc
    rfl

end StyleRule

/-- Below the only body of a document, the style rule that is written for an element without an
identifier selects this element and no other one if and only if, for the element itself and all
those around it up to the body, the tag can stand in a rule and all elements in front have the same
tag. -/
theorem cssPath_selects_iff {d : Document} {body n : Place}
    (hone : (elements d).filter (fun p => p.spot.tag == "body") = [body])
    (hchild : body ∈ (rootPlace d).children) (hn : n ∈ body.descendants)
    (hid : n.snapshot.id = none) :
    StyleRule.evaluate d n.snapshot.cssPath = some [n] ↔
      ∀ node ∈ n.path.drop 2,
        StyleRule.isIdent node.tag = true ∧ ∀ tag ∈ node.preceding, tag = node.tag := by
  obtain ⟨inner, hchain⟩ := StyleRule.chain_of_mem_body hchild hn
  have hbody := StyleRule.tag_of_filter_eq hone
  have hmem : n ∈ elements d := by
    have hroot : (rootPlace d).LeadsTo body := .child .here hchild
    exact mem_elements_iff.mpr (hroot.trans (Place.leadsTo_of_mem_descendants hn))
  have hbelow : n.path.drop 2 = inner.reverse.map Spot.pathNode := by
    rw [StyleRule.path_of_chain hchain]
    rfl
  rw [StyleRule.cssPath_eq_write hchain hbody hid,
    StyleRule.evaluate_write_ruleBelowBody_iff hone hmem hchain, hbelow, List.forall_mem_map]
  exact forall_congr' fun s => by rw [List.mem_reverse]; exact Iff.rfl

/-- A page with a paragraph in front of a link. -/
def linkPage : Document :=
  ⟨[], [], [.element "body" [] [.element "p" [] [], .element "a" [] []]], []⟩

def linkPageBody : Place :=
  ⟨⟨"body", [], [], []⟩, [.element "p" [] [], .element "a" [] []], [rootSpot linkPage]⟩

def linkPageLink : Place := ⟨⟨"a", [], [.element "p" [] []], []⟩, [], linkPageBody.chain⟩

/-- The rule for the link asks for a link that is the first child of the body. It selects nothing,
since the paragraph comes first. -/
theorem cssPath_misses_link :
    Document.read "<html><body><p></p><a></a></body></html>" = .ok linkPage ∧
      (elements linkPage).filter (fun p => p.spot.tag == "body") = [linkPageBody] ∧
      linkPageBody ∈ (rootPlace linkPage).children ∧
      linkPageLink ∈ linkPageBody.descendants ∧
      linkPageLink.snapshot.id = none ∧
      StyleRule.evaluate linkPage linkPageLink.snapshot.cssPath = some [] ∧
      StyleRule.evaluate linkPage linkPageLink.snapshot.cssPath ≠ some [linkPageLink] := by
  have hone : (elements linkPage).filter (fun p => p.spot.tag == "body") = [linkPageBody] := rfl
  have hchild : linkPageBody ∈ (rootPlace linkPage).children := List.mem_cons_self
  have hlink : linkPageLink ∈ linkPageBody.descendants :=
    List.mem_cons_of_mem _ List.mem_cons_self
  have hid : linkPageLink.snapshot.id = none := rfl
  refine ⟨rfl, hone, hchild, hlink, hid, rfl, ?_⟩
  rw [Ne, cssPath_selects_iff hone hchild hlink hid]
  decide

end Clickpath.Locator
