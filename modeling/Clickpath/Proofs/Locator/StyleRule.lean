import Mathlib.Data.List.TakeWhile
import Clickpath.Locator.Inference
import Clickpath.Proofs.Chars.Reading
import Clickpath.Proofs.Locator.Tree

/-! # Style rules of child combinators

A style rule that is made of tags with child combinators between them, each tag with or without an
index among all children, is given its meaning on the tree of places. Rules with identifiers for
tags are read back as they were written, and no other rules can be read.
-/

namespace Clickpath.Locator

open Markup

namespace StyleRule

/-- What a rule demands of one element: a tag and, possibly, a place among all children. -/
structure Compound where
  tag : String
  index : Option Nat
  deriving DecidableEq

/-! ## Reading -/

def isIdentStart (c : Char) : Bool := c.isAlpha || c == '_' || 0x80 ≤ c.toNat

def isIdentChar (c : Char) : Bool := isIdentStart c || Chars.isAsciiDigit c || c == '-'

/-- The text is an identifier without escapes. -/
def isIdentText : List Char → Bool
  | [] => false
  | '-' :: c :: rest => (isIdentStart c || c == '-') && rest.all isIdentChar
  | c :: rest => isIdentStart c && rest.all isIdentChar

/-- The tag is an identifier, so that a rule can name it as it is. -/
def isIdent (tag : String) : Bool := isIdentText tag.toList

/-- A character that may stand around a combinator. -/
def isGap (c : Char) : Bool := [' ', '\t', '\n', '\r', '\x0c'].contains c

def withoutGaps (s : List Char) : List Char :=
  ((s.dropWhile isGap).reverse.dropWhile isGap).reverse

/-- The index that a text demands behind a tag, which may be none. -/
def readIndex? : List Char → Option (Option Nat)
  | [] => some none
  | s => (Chars.after? ":nth-child(".toList s).bind fun rest =>
      let digits := rest.takeWhile Chars.isAsciiDigit
      if rest.dropWhile Chars.isAsciiDigit == [')'] && !digits.isEmpty then
        some (some (Chars.decimalNumber digits))
      else none

/-- What a part of a rule demands, if it starts with an identifier. -/
def Compound.read? (s : List Char) : Option Compound :=
  let s := withoutGaps s
  let name := s.takeWhile isIdentChar
  if isIdentText name then
    (readIndex? (s.dropWhile isIdentChar)).map fun index => ⟨String.ofList name, index⟩
  else none

/-- What the parts of a rule between its combinators demand, the outermost first. A text that asks
for anything else is no such rule. -/
def read? (text : String) : Option (List Compound) :=
  (Chars.splitOn '>' text.toList).mapM Compound.read?

/-! ## Meaning -/

/-- An element fulfils a demand. All elements in front count for its place. -/
def Compound.fits (c : Compound) (s : Spot) : Bool :=
  s.tag == c.tag && c.index.all fun index => index == 1 + (Node.tags s.before).length

/-- An element and those around it fulfil demands one by one, both from the innermost outwards. -/
def fitsUp : List Compound → List Spot → Bool
  | [], _ => true
  | _ :: _, [] => false
  | c :: outer, s :: above => c.fits s && fitsUp outer above

/-- A rule selects an element. Its last demand is for the element itself, and each one before for
the parent of the next. -/
def selects (rule : List Compound) (p : Place) : Bool := fitsUp rule.reverse p.chain

/-- The elements that a rule selects in a document, in document order. -/
def evaluate (d : Document) (text : String) : Option (List Place) :=
  (read? text).map fun rule => (elements d).filter (selects rule)

/-! ## Written rules are read back -/

def Compound.text (c : Compound) : String :=
  match c.index with
  | none => c.tag
  | some index => c.tag ++ ":nth-child(" ++ toString index ++ ")"

def write (rule : List Compound) : String := " > ".intercalate (rule.map Compound.text)

/-- An identifier has nothing but the characters of one. -/
theorem all_isIdentChar_of_isIdentText {s : List Char} (hs : isIdentText s = true) :
    s.all isIdentChar = true := by
  have hstart : ∀ c, isIdentStart c = true → isIdentChar c = true := by
    intro c hc
    rw [isIdentChar, hc, Bool.true_or, Bool.true_or]
  unfold isIdentText at hs
  split at hs
  next => cases hs
  next c rest =>
    obtain ⟨hc, hrest⟩ := Bool.and_eq_true_iff.mp hs
    rw [List.all_cons, List.all_cons, hrest, Bool.and_true, Bool.and_eq_true]
    refine ⟨by decide, ?_⟩
    cases Bool.or_eq_true_iff.mp hc with
    | inl hc => exact hstart c hc
    | inr hc =>
        rw [beq_iff_eq] at hc
        rw [hc]
        decide
  next c rest _ =>
    obtain ⟨hc, hrest⟩ := Bool.and_eq_true_iff.mp hs
    rw [List.all_cons, hstart c hc, hrest]
    rfl

/-! ### One demand -/

def Compound.suffix (c : Compound) : List Char :=
  match c.index with
  | none => []
  | some index => ":nth-child(".toList ++ index.repr.toList ++ [')']

theorem Compound.toList_text (c : Compound) : c.text.toList = c.tag.toList ++ c.suffix := by
  rw [text, suffix]
  cases c.index with
  | none => rw [List.append_nil]
  | some index => simp [Nat.toString_eq_repr]

theorem not_isGap_of_isIdentChar {c : Char} (hc : isIdentChar c = true) : isGap c = false := by
  cases hgap : isGap c with
  | false => rfl
  | true =>
      rw [isGap, List.contains_iff_mem] at hgap
      have hnone : [' ', '\t', '\n', '\r', '\x0c'].all (fun gap => !isIdentChar gap) = true := by
        decide
      have hnot := List.all_eq_true.mp hnone c hgap
      rw [hc] at hnot
      cases hnot

theorem dropWhile_isGap {s : List Char} (hs : ∀ c ∈ s.head?, isGap c = false) :
    s.dropWhile isGap = s := by
  cases s with
  | nil => rfl
  | cons c s => rw [List.dropWhile_cons_of_neg (by rw [hs c rfl]; exact Bool.false_ne_true)]

/-- A text between gaps is found again if it neither starts nor ends with one. -/
theorem withoutGaps_append {lead s trail : List Char} (hlead : lead.all isGap = true)
    (htrail : trail.all isGap = true) (hs : s ≠ []) (hfirst : ∀ c ∈ s.head?, isGap c = false)
    (hlast : ∀ c ∈ s.getLast?, isGap c = false) : withoutGaps (lead ++ s ++ trail) = s := by
  have hfront : (lead ++ s ++ trail).dropWhile isGap = s ++ trail := by
    rw [List.append_assoc, List.dropWhile_append_of_pos (List.all_eq_true.mp hlead)]
    apply dropWhile_isGap
    rw [List.head?_append, List.head?_eq_some_head hs, Option.some_or,
      ← List.head?_eq_some_head hs]
    exact hfirst
  have hback : (s ++ trail).reverse.dropWhile isGap = s.reverse := by
    rw [List.reverse_append, List.dropWhile_append_of_pos]
    · apply dropWhile_isGap
      rw [List.head?_reverse]
      exact hlast
    · intro c hc
      exact List.all_eq_true.mp htrail c (List.mem_reverse.mp hc)
  rw [withoutGaps, hfront, hback, List.reverse_reverse]

/-- The index of a demand is read back from what is written behind its tag. -/
theorem readIndex?_suffix (c : Compound) : readIndex? c.suffix = some c.index := by
  cases hindex : c.index with
  | none => rw [Compound.suffix, hindex, readIndex?]
  | some index =>
      have hsuffix : c.suffix = ":nth-child(".toList ++ (index.repr.toList ++ ')' :: []) := by
        rw [Compound.suffix, hindex, ← List.append_assoc]
      have hdigits := Chars.all_isAsciiDigit_repr index
      have hstop : Chars.isAsciiDigit ')' = false := by decide
      have hnonempty : index.repr.toList.isEmpty = false :=
        List.isEmpty_eq_false_iff.mpr (Chars.repr_toList_ne_nil _)
      have hrest : Chars.after? ":nth-child(".toList c.suffix =
          some (index.repr.toList ++ ')' :: []) := by
        rw [hsuffix]
        rfl
      rw [readIndex?, hrest, Option.bind_some]
      · simp only [Chars.takeWhile_append_cons hdigits hstop,
          Chars.dropWhile_append_cons hdigits hstop, hnonempty, Chars.decimalNumber_repr]
        rfl
      · rw [hsuffix]
        exact List.cons_ne_nil _ _

theorem isIdentText_ne_nil {s : List Char} (hs : isIdentText s = true) : s ≠ [] := by
  rintro rfl
  cases hs

theorem Compound.text_ne_nil {c : Compound} (hc : isIdent c.tag = true) : c.text.toList ≠ [] := by
  rw [toList_text]
  exact List.append_ne_nil_of_left_ne_nil (isIdentText_ne_nil hc) _

/-- A written demand does not start with a gap. -/
theorem Compound.head?_text {c : Compound} (hc : isIdent c.tag = true) :
    ∀ first ∈ c.text.toList.head?, isGap first = false := by
  intro first hfirst
  have hne := isIdentText_ne_nil hc
  rw [toList_text, List.head?_append, List.head?_eq_some_head hne, Option.some_or,
    ← List.head?_eq_some_head hne] at hfirst
  exact not_isGap_of_isIdentChar
    (List.all_eq_true.mp (all_isIdentChar_of_isIdentText hc) first (List.mem_of_head? hfirst))

/-- A written demand does not end with a gap. -/
theorem Compound.getLast?_text {c : Compound} (hc : isIdent c.tag = true) :
    ∀ last ∈ c.text.toList.getLast?, isGap last = false := by
  intro last hlast
  rw [toList_text, suffix] at hlast
  cases hindex : c.index with
  | none =>
      rw [hindex, List.append_nil] at hlast
      exact not_isGap_of_isIdentChar
        (List.all_eq_true.mp (all_isIdentChar_of_isIdentText hc) last (List.mem_of_getLast? hlast))
  | some index =>
      rw [hindex, ← List.append_assoc, List.getLast?_concat] at hlast
      cases hlast
      decide

/-- A written demand has no combinator in it. -/
theorem Compound.notMem_text {c : Compound} (hc : isIdent c.tag = true) : '>' ∉ c.text.toList := by
  intro hmem
  rw [toList_text, List.mem_append] at hmem
  cases hmem with
  | inl hmem =>
      have hchar := List.all_eq_true.mp (all_isIdentChar_of_isIdentText hc) '>' hmem
      exact absurd hchar (by decide)
  | inr hmem =>
      rw [suffix] at hmem
      cases hindex : c.index with
      | none =>
          rw [hindex] at hmem
          cases hmem
      | some index =>
          rw [hindex, List.mem_append, List.mem_append] at hmem
          rcases hmem with (hmem | hmem) | hmem
          · exact absurd hmem (by decide)
          · exact absurd (List.all_eq_true.mp (Chars.all_isAsciiDigit_repr index) '>' hmem)
              (by decide)
          · exact absurd hmem (by decide)

/-- A demand is read back between any gaps. -/
theorem Compound.read?_text {c : Compound} (hc : isIdent c.tag = true) {lead trail : List Char}
    (hlead : lead.all isGap = true) (htrail : trail.all isGap = true) :
    read? (lead ++ c.text.toList ++ trail) = some c := by
  have hgaps : withoutGaps (lead ++ c.text.toList ++ trail) = c.tag.toList ++ c.suffix := by
    rw [withoutGaps_append hlead htrail (text_ne_nil hc) (head?_text hc) (getLast?_text hc),
      toList_text]
  have hchars := all_isIdentChar_of_isIdentText hc
  have hsplit : (c.tag.toList ++ c.suffix).takeWhile isIdentChar = c.tag.toList ∧
      (c.tag.toList ++ c.suffix).dropWhile isIdentChar = c.suffix := by
    have hstop : isIdentChar ':' = false := by decide
    cases hindex : c.index with
    | none =>
        have hsuffix : c.suffix = [] := by rw [suffix, hindex]
        rw [hsuffix, List.append_nil]
        exact ⟨List.takeWhile_eq_self_iff.mpr (List.all_eq_true.mp hchars),
          List.dropWhile_eq_nil_iff.mpr (List.all_eq_true.mp hchars)⟩
    | some index =>
        obtain ⟨rest, hsuffix⟩ : ∃ rest, c.suffix = ':' :: rest := by
          rw [suffix, hindex]
          exact ⟨_, rfl⟩
        rw [hsuffix]
        exact ⟨Chars.takeWhile_append_cons hchars hstop, Chars.dropWhile_append_cons hchars hstop⟩
  rw [isIdent] at hc
  simp only [read?, hgaps, hsplit, hc, ↓reduceIte, readIndex?_suffix, Option.map_some,
    String.ofList_toList]

/-! ### Whole rules -/

theorem toList_write_cons_cons (c next : Compound) (rest : List Compound) :
    (write (c :: next :: rest)).toList =
      c.text.toList ++ [' '] ++ '>' :: ([' '] ++ (write (next :: rest)).toList) := by
  rw [write, List.map_cons, List.map_cons, String.intercalate_cons_cons, ← List.map_cons, ← write]
  simp [String.toList_append]

/-- The parts between the combinators of a written rule are its demands. -/
theorem mapM_read?_splitOn_write {rule : List Compound} (hne : rule ≠ [])
    (hidents : ∀ c ∈ rule, isIdent c.tag = true) {lead : List Char}
    (hlead : lead.all isGap = true) :
    (Chars.splitOn '>' (lead ++ (write rule).toList)).mapM Compound.read? = some rule := by
  have hgaps : '>' ∉ lead := by
    intro hmem
    exact absurd (List.all_eq_true.mp hlead '>' hmem) (by decide)
  induction rule generalizing lead with
  | nil => exact absurd rfl hne
  | cons c rest ih =>
      have hc := hidents c List.mem_cons_self
      cases rest with
      | nil =>
          have hpart : '>' ∉ lead ++ c.text.toList := by
            rw [List.mem_append, not_or]
            exact ⟨hgaps, Compound.notMem_text hc⟩
          have hread : Compound.read? (lead ++ c.text.toList) = some c := by
            rw [← List.append_nil (lead ++ c.text.toList)]
            exact Compound.read?_text hc hlead rfl
          have hwrite : write [c] = c.text := by
            rw [write, List.map_singleton, String.intercalate_singleton]
          rw [hwrite, Chars.splitOn_of_notMem hpart, List.mapM_cons, hread]
          rfl
      | cons next rest =>
          -- The space behind the combinator leads the next part.
          have hpart : '>' ∉ lead ++ c.text.toList ++ [' '] := by
            rw [List.mem_append, List.mem_append, not_or, not_or]
            exact ⟨⟨hgaps, Compound.notMem_text hc⟩, by decide⟩
          have htext : lead ++ (write (c :: next :: rest)).toList =
              lead ++ c.text.toList ++ [' '] ++
                ('>' :: ([' '] ++ (write (next :: rest)).toList)) := by
            rw [toList_write_cons_cons, List.append_assoc, List.append_assoc, List.append_assoc]
          rw [htext, Chars.splitOn_append_cons _ hpart, List.mapM_cons,
            Compound.read?_text hc hlead rfl,
            ih (List.cons_ne_nil _ _) (fun m hm => hidents m (List.mem_cons_of_mem _ hm)) rfl
              (by decide)]
          rfl

/-- A written rule is read back if its tags are identifiers. -/
theorem read?_write {rule : List Compound} (hne : rule ≠ [])
    (hidents : ∀ c ∈ rule, isIdent c.tag = true) : read? (write rule) = some rule := by
  have hlead : ([] : List Char).all isGap = true := rfl
  exact mapM_read?_splitOn_write hne hidents hlead

/-! ### What can be read at all -/

theorem Compound.isIdent_of_read? {s : List Char} {c : Compound} (hread : read? s = some c) :
    isIdent c.tag = true := by
  simp only [read?] at hread
  split at hread
  next hname =>
    obtain ⟨index, _, rfl⟩ := Option.map_eq_some_iff.mp hread
    rw [isIdent, String.toList_ofList]
    exact hname
  next => cases hread

/-- A rule has as many demands as parts, all of them with an identifier for a tag. -/
theorem mapM_read?_eq_some {parts : List (List Char)} {rule : List Compound}
    (hread : parts.mapM Compound.read? = some rule) :
    rule.length = parts.length ∧ ∀ c ∈ rule, isIdent c.tag = true := by
  induction parts generalizing rule with
  | nil =>
      cases hread
      exact ⟨rfl, fun _ hc => nomatch hc⟩
  | cons part parts ih =>
      rw [List.mapM_cons] at hread
      obtain ⟨c, hc, hread⟩ := Option.bind_eq_some_iff.mp hread
      obtain ⟨rest, hrest, hread⟩ := Option.bind_eq_some_iff.mp hread
      cases hread
      obtain ⟨hlength, hidents⟩ := ih hrest
      refine ⟨by rw [List.length_cons, List.length_cons, hlength], ?_⟩
      intro other hother
      rcases List.mem_cons.mp hother with rfl | hother
      · exact Compound.isIdent_of_read? hc
      · exact hidents other hother

/-- A rule that is read demands identifiers only, and one thing more than it has combinators. -/
theorem read?_eq_some {text : String} {rule : List Compound} (hread : read? text = some rule) :
    rule.length = text.toList.count '>' + 1 ∧ ∀ c ∈ rule, isIdent c.tag = true := by
  rw [← Chars.length_splitOn]
  exact mapM_read?_eq_some hread

/-- A written rule has a combinator between any two of its demands. -/
theorem length_le_count_write (rule : List Compound) :
    rule.length ≤ (write rule).toList.count '>' + 1 := by
  induction rule with
  | nil => exact Nat.zero_le _
  | cons c rest ih =>
      cases rest with
      | nil => exact Nat.le_add_left _ _
      | cons next rest =>
          rw [toList_write_cons_cons]
          simp only [List.length_cons, List.count_append, List.count_cons_self] at ih ⊢
          omega

end StyleRule

end Clickpath.Locator
