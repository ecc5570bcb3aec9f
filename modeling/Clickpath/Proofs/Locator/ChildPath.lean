import Mathlib.Data.List.Nodup
import Clickpath.Locator.Inference
import Clickpath.Proofs.Chars.Reading
import Clickpath.Proofs.Locator.Tree

/-! # Path expressions of child steps

A path expression that is made of steps `/tag[k]` leads from the document down to a child at each
step: to the k-th among the child elements with the tag. It is given its meaning on the tree of
places here, and the absolute path of an element turns out to mean that element alone.
-/

namespace Clickpath.Locator

open Markup

/-- A step down to a child element: its tag, and its place among the children with this tag. -/
structure ChildStep where
  tag : String
  index : Nat
  deriving DecidableEq

namespace ChildPath

/-! ## Names -/

/-- Characters with which a name can start, as inclusive ranges of code points. -/
def nameStartRanges : List (Nat × Nat) :=
  [(0x3A, 0x3A), (0x41, 0x5A), (0x5F, 0x5F), (0x61, 0x7A), (0xC0, 0xD6), (0xD8, 0xF6),
   (0xF8, 0x2FF), (0x370, 0x37D), (0x37F, 0x1FFF), (0x200C, 0x200D), (0x2070, 0x218F),
   (0x2C00, 0x2FEF), (0x3001, 0xD7FF), (0xF900, 0xFDCF), (0xFDF0, 0xFFFD), (0x10000, 0xEFFFF)]

/-- Characters that a name can have only behind its first, as inclusive ranges of code points. -/
def nameRestRanges : List (Nat × Nat) :=
  [(0x2D, 0x2E), (0x30, 0x39), (0xB7, 0xB7), (0x300, 0x36F), (0x203F, 0x2040)]

def isNameStart (c : Char) : Bool := Chars.inRanges nameStartRanges c.toNat

def isNameChar (c : Char) : Bool := isNameStart c || Chars.inRanges nameRestRanges c.toNat

/-- The text is a name, with or without a colon in it. -/
def isNameText : List Char → Bool
  | [] => false
  | c :: rest => isNameStart c && rest.all isNameChar

def isName (tag : String) : Bool := isNameText tag.toList

theorem all_isNameChar_of_isName {tag : String} (htag : isName tag = true) :
    tag.toList.all isNameChar = true := by
  rw [isName] at htag
  cases htext : tag.toList with
  | nil => rfl
  | cons c rest =>
      rw [htext, isNameText, Bool.and_eq_true] at htag
      rw [List.all_cons, Bool.and_eq_true]
      exact ⟨by rw [isNameChar, htag.1, Bool.true_or], htag.2⟩

/-! ## Reading -/

/-- The step at the front of a text, and the text behind it. -/
def readStep? (s : List Char) : Option (ChildStep × List Char) :=
  match s with
  | '/' :: rest =>
      let name := rest.takeWhile isNameChar
      match rest.dropWhile isNameChar with
      | '[' :: rest =>
          let digits := rest.takeWhile Chars.isAsciiDigit
          match rest.dropWhile Chars.isAsciiDigit with
          | ']' :: rest =>
              if isNameText name && !digits.isEmpty then
                some (⟨String.ofList name, Chars.decimalNumber digits⟩, rest)
              else none
          | _ => none
      | _ => none
  | _ => none

/-- The steps of which a text is made. The fuel is at least the number of steps. -/
def readSteps? : Nat → List Char → Option (List ChildStep)
  | _, [] => some []
  | 0, _ :: _ => none
  | fuel + 1, s => do
      let (step, rest) ← readStep? s
      let steps ← readSteps? fuel rest
      return step :: steps

def read? (text : String) : Option (List ChildStep) :=
  readSteps? text.toList.length text.toList

/-! ## Meaning -/

/-- The element to which a step leads among the children of one node. -/
def pick? (step : ChildStep) (siblings : List Place) : Option Place :=
  if step.index = 0 then none
  else (siblings.filter fun place => place.spot.tag == step.tag)[step.index - 1]?

/-- The element to which steps lead from an element. -/
def follow? (p : Place) : List ChildStep → Option Place
  | [] => some p
  | step :: rest => (pick? step p.children).bind fun child => follow? child rest

/-- The element to which steps lead from a document. Each step leads to one element at most, and so
do all of them; without a step there is none. -/
def select? (d : Document) : List ChildStep → Option Place
  | [] => none
  | step :: rest => (pick? step (topPlaces d)).bind fun top => follow? top rest

def evaluate (d : Document) (text : String) : Option Place := (read? text).bind (select? d)

/-! ## Written steps are read back -/

/-- The step that is written for a part of a path. -/
def stepOf (n : PathNode) : ChildStep := ⟨n.tag, n.siblingIndex⟩

/-- A step that was written is read back as this step. -/
theorem readStep?_xpathStep {n : PathNode} (htag : isName n.tag = true) (rest : List Char) :
    readStep? ((xpathStep n).toList ++ rest) = some (stepOf n, rest) := by
  have htext : (xpathStep n).toList ++ rest =
      '/' :: (n.tag.toList ++ '[' :: (n.siblingIndex.repr.toList ++ ']' :: rest)) := by
    simp [xpathStep]
  have hname := all_isNameChar_of_isName htag
  have hdigits := Chars.all_isAsciiDigit_repr n.siblingIndex
  have hnonempty : n.siblingIndex.repr.toList.isEmpty = false :=
    List.isEmpty_eq_false_iff.mpr (Chars.repr_toList_ne_nil _)
  rw [isName] at htag
  have hopen : isNameChar '[' = false := by decide
  have hclose : Chars.isAsciiDigit ']' = false := by decide
  rw [htext]
  simp only [readStep?, Chars.dropWhile_append_cons hname hopen,
    Chars.takeWhile_append_cons hname hopen, Chars.dropWhile_append_cons hdigits hclose,
    Chars.takeWhile_append_cons hdigits hclose, htag, hnonempty, Bool.not_false, Bool.and_self,
    ↓reduceIte, Chars.decimalNumber_repr, String.ofList_toList]
  rfl

theorem readSteps?_of_readStep? {s rest : List Char} {step : ChildStep} {steps : List ChildStep}
    {fuel : Nat} (hstep : readStep? s = some (step, rest))
    (hrest : readSteps? fuel rest = some steps) :
    readSteps? (fuel + 1) s = some (step :: steps) := by
  cases s with
  | nil => cases hstep
  | cons c s =>
      have hread : readSteps? (fuel + 1) (c :: s) = (readStep? (c :: s)).bind fun found =>
          (readSteps? fuel found.2).bind fun steps => some (found.1 :: steps) :=
        rfl
      rw [hread, hstep, Option.bind_some, hrest, Option.bind_some]

/-- Written steps are read back one by one. -/
theorem readSteps?_join {nodes : List PathNode} (htags : ∀ n ∈ nodes, isName n.tag = true)
    {fuel : Nat} (hfuel : nodes.length ≤ fuel) :
    readSteps? fuel (String.join (nodes.map xpathStep)).toList = some (nodes.map stepOf) := by
  induction nodes generalizing fuel with
  | nil => cases fuel <;> rfl
  | cons n nodes ih =>
      cases fuel with
      | zero => exact absurd hfuel (Nat.not_succ_le_zero _)
      | succ fuel =>
          have hrest := ih (fun m hm => htags m (List.mem_cons_of_mem _ hm))
            (Nat.le_of_succ_le_succ hfuel)
          have hstep := readStep?_xpathStep (htags n List.mem_cons_self)
            (String.join (nodes.map xpathStep)).toList
          rw [List.map_cons, String.join_cons, String.toList_append]
          exact readSteps?_of_readStep? hstep hrest

theorem length_le_length_join (nodes : List PathNode) :
    nodes.length ≤ (String.join (nodes.map xpathStep)).toList.length := by
  induction nodes with
  | nil => exact Nat.zero_le _
  | cons n nodes ih =>
      have hstep : 1 ≤ (xpathStep n).toList.length := by simp [xpathStep]
      rw [List.map_cons, String.join_cons, String.toList_append, List.length_append,
        List.length_cons]
      omega

theorem read?_absoluteXPath {s : Snapshot} (htags : ∀ n ∈ s.path, isName n.tag = true) :
    read? s.absoluteXPath = some (s.path.map stepOf) :=
  readSteps?_join htags (length_le_length_join s.path)

/-! ## Steps lead to the elements for which they were written -/

/-- A step leads past as many elements with its tag as its index says. -/
theorem pick?_append (p : Place) (front back : List Place) :
    pick? ⟨p.spot.tag, 1 + (front.map fun place => place.spot.tag).count p.spot.tag⟩
      (front ++ p :: back) = some p := by
  have hself : (p.spot.tag == p.spot.tag) = true := beq_self_eq_true _
  have hcount : (front.map fun place => place.spot.tag).count p.spot.tag =
      (front.filter fun place => place.spot.tag == p.spot.tag).length := by
    rw [List.count, List.countP_map, List.countP_eq_length_filter]
    rfl
  simp only [pick?]
  rw [if_neg (by omega), hcount, Nat.add_sub_cancel_left, List.filter_append, List.filter_cons,
    if_pos hself, List.getElem?_append_right (Nat.le_refl _), Nat.sub_self]
  rfl

/-- Among siblings, the step that is written for an element leads to it. -/
theorem pick?_stepOf {above : List Spot} {nodes : List Node} {p : Place}
    (hp : p ∈ Place.among above [] nodes) :
    pick? (stepOf p.spot.pathNode) (Place.among above [] nodes) = some p := by
  obtain ⟨front, back, hsplit⟩ := List.append_of_mem hp
  have htags := Place.tags_before_of_among_eq hsplit
  have hstep : stepOf p.spot.pathNode =
      ⟨p.spot.tag, 1 + (front.map fun place => place.spot.tag).count p.spot.tag⟩ := by
    rw [stepOf, PathNode.siblingIndex, Spot.pathNode, htags]
    rfl
  rw [hstep, hsplit]
  exact pick?_append p front back

theorem follow?_append (p : Place) (first second : List ChildStep) :
    follow? p (first ++ second) = (follow? p first).bind fun q => follow? q second := by
  induction first generalizing p with
  | nil => rfl
  | cons step rest ih =>
      rw [List.cons_append, follow?, follow?, Option.bind_assoc]
      congr 1
      funext child
      exact ih child

/-- The steps of a path lead back to the element whose path it is. -/
theorem follow?_of_leadsTo {p q : Place} (h : p.LeadsTo q) :
    ∃ below, q.path = p.path ++ below ∧ follow? p (below.map stepOf) = some q := by
  -- The descent grows at its lower end, and so do the path and the steps.
  induction h with
  | here => exact ⟨[], (List.append_nil _).symm, rfl⟩
  | @child q r _ hr ih =>
      obtain ⟨below, hpath, hfollow⟩ := ih
      refine ⟨below ++ [r.spot.pathNode], ?_, ?_⟩
      · rw [Place.path_of_mem_children hr, hpath, List.append_assoc]
      · rw [List.map_append, follow?_append, hfollow, Option.bind_some]
        change (pick? (stepOf r.spot.pathNode) q.children).bind _ = _
        rw [Place.children, pick?_stepOf hr]
        rfl

/-- The steps that are written for the path of an element lead from the document to it. -/
theorem select?_path {d : Document} {p : Place} (hp : p ∈ elements d) :
    select? d (p.path.map stepOf) = some p := by
  obtain ⟨below, hpath, hfollow⟩ := follow?_of_leadsTo (mem_elements_iff.mp hp)
  have htop : pick? (stepOf (rootPlace d).spot.pathNode) (topPlaces d) = some (rootPlace d) :=
    pick?_stepOf (rootPlace_mem_topPlaces d)
  rw [hpath, List.map_append]
  change (pick? (stepOf (rootPlace d).spot.pathNode) (topPlaces d)).bind
    (fun top => follow? top (below.map stepOf)) = _
  rw [htop]
  exact hfollow

end ChildPath

/-- All tags on the path to an element are names. -/
def Place.isNamed (p : Place) : Bool := p.path.all fun n => ChildPath.isName n.tag

theorem ChildPath.evaluate_absoluteXPath {d : Document} {p : Place} (hp : p ∈ elements d)
    (hnamed : p.isNamed = true) : evaluate d p.snapshot.absoluteXPath = some p := by
  have hread : read? p.snapshot.absoluteXPath = some (p.path.map stepOf) :=
    read?_absoluteXPath (List.all_eq_true.mp hnamed)
  rw [evaluate, hread]
  exact select?_path hp

/-- The absolute path of an element with names for tags selects this element and nothing else,
wherever it stands. The elements of a document are pairwise different, and so are these paths. -/
theorem absoluteXPath_selects (d : Document) :
    (elements d).Nodup ∧
      (∀ p ∈ elements d, p.isNamed = true →
        ChildPath.evaluate d p.snapshot.absoluteXPath = some p) ∧
      (((elements d).filter Place.isNamed).map fun p => p.snapshot.absoluteXPath).Nodup := by
  refine ⟨elements_nodup d, fun p hp hnamed => ChildPath.evaluate_absoluteXPath hp hnamed, ?_⟩
  apply List.Nodup.map_on _ ((elements_nodup d).filter _)
  intro p hp q hq hsame
  obtain ⟨hp, hpnamed⟩ := List.mem_filter.mp hp
  obtain ⟨hq, hqnamed⟩ := List.mem_filter.mp hq
  have hselects := ChildPath.evaluate_absoluteXPath hp hpnamed
  rw [hsame, ChildPath.evaluate_absoluteXPath hq hqnamed] at hselects
  exact (Option.some.inj hselects).symm

end Clickpath.Locator
