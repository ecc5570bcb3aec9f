import Clickpath.Proofs.Script.Lines
import Clickpath.Script.Identifier

/-! # Lines that are the same in all scripts

A reader of brackets goes through a closed text from waiting for some closing brackets to waiting
for others. Fixed lines open and close the brackets around the steps of a test, and the names in
them consist of word characters, which neither open nor close anything.
-/

namespace Clickpath.Script

open Dialect

/-! ## Names in code -/

/-- The characters that open, close or end something. -/
def specials : List Char :=
  ['\x22', '\\', '/', '#', '\n', '(', ')', '[', ']', '\x7b', '\x7d']

set_option maxRecDepth 8000 in
theorem notMem_specials_of_isWord {c : Char} (hc : Chars.isWord c = true) : c ∉ specials := by
  have hspecials : specials.all (fun special => !Chars.isWord special) = true := by
    decide
  intro hmem
  have hnot := List.all_eq_true.mp hspecials c hmem
  rw [hc] at hnot
  cases hnot

theorem isWord_of_mem_wordChars {s : List Char} {c : Char} (hc : c ∈ wordChars s) :
    Chars.isWord c = true :=
  (List.mem_filter.mp hc).2

/-- The name of a class is made of word characters. -/
theorem isWord_of_mem_className {name : String} {c : Char} (hc : c ∈ (className name).toList) :
    Chars.isWord c = true := by
  have hfixed : ("GeneratedTest".toList ++ "Test".toList).all Chars.isWord = true := by
    decide
  have hwords : ∀ {c}, c ∈ wordChars name.toList → Chars.isWord c = true :=
    isWord_of_mem_wordChars
  rw [className] at hc
  split at hc
  next => exact List.all_eq_true.mp hfixed c (List.mem_append_left _ hc)
  next first rest hname =>
    rw [hname] at hwords
    split at hc
    next =>
      rw [String.toList_append] at hc
      cases List.mem_append.mp hc with
      | inl hc => exact List.all_eq_true.mp hfixed c (List.mem_append_right _ hc)
      | inr hc =>
          rw [String.toList_ofList] at hc
          exact hwords hc
    next =>
      rw [String.toList_ofList] at hc
      exact hwords hc

set_option maxRecDepth 8000 in
/-- The name of a function is made of word characters. -/
theorem isWord_of_mem_functionName {name : String} {c : Char}
    (hc : c ∈ (functionName name).toList) : Chars.isWord c = true := by
  have hfixed : ("test_generated".toList ++ "test_".toList).all Chars.isWord = true := by
    decide
  rw [functionName] at hc
  split at hc
  next => exact List.all_eq_true.mp hfixed c (List.mem_append_left _ hc)
  next =>
    rw [String.toList_append] at hc
    cases List.mem_append.mp hc with
    | inl hc => exact List.all_eq_true.mp hfixed c (List.mem_append_right _ hc)
    | inr hc =>
        rw [String.toList_ofList] at hc
        exact isWord_of_mem_wordChars hc

/-! ## Fixed lines -/

/-- A closed text takes a reader of brackets from waiting for some to waiting for others. -/
structure Takes (l : Dialect) (s : List Char) (before after : List Nat) : Prop where
  closed : l.Closed s
  pending : Brackets.pending before (l.skeleton s) = some after

namespace Takes

variable {l : Dialect} {before between after : List Nat}

theorem append {s t : List Char} (hs : Takes l s before between) (ht : Takes l t between after) :
    Takes l (s ++ t) before after := by
  refine ⟨hs.closed.append ht.closed, ?_⟩
  rw [hs.closed, Brackets.pending_append, hs.pending, Option.bind_some, ht.pending]

theorem of_plain {s : List Char} (hs : s.all isPlain = true)
    (hpending : Brackets.pending before (s.flatMap l.codes) = some after) :
    Takes l s before after := by
  obtain ⟨hclosed, hleft⟩ := closed_plain l hs
  exact ⟨hclosed, by rw [hleft, hpending]⟩

/-- A name that consists of word characters neither opens nor closes anything. -/
theorem of_word (l : Dialect) (awaited : List Nat) {s : List Char}
    (hs : ∀ c ∈ s, Chars.isWord c = true) : Takes l s awaited awaited := by
  have hspecial : ∀ c ∈ s, c ∉ specials := fun c hc => notMem_specials_of_isWord (hs c hc)
  apply of_plain
  · rw [List.all_eq_true]
    intro c hc
    have hnot := hspecial c hc
    simp only [specials, List.mem_cons, not_or] at hnot
    simp [isPlain, hnot]
  · apply Brackets.pending_of_balanced
    apply Brackets.balanced_of_forall
    intro code hcode
    obtain ⟨c, hc, hcode⟩ := List.mem_flatMap.mp hcode
    -- Surrogates are no special characters, so the codes are as harmless as the characters.
    have hne : ∀ special ∈ specials, code ≠ special.toNat := by
      intro special hmem
      have hsmall : specials.all (fun special => special.toNat < 0xD800) = true := by decide
      exact ne_of_mem_codes hcode
        (of_decide_eq_true (List.all_eq_true.mp hsmall special hmem)) (ne_of_mem_of_not_mem hmem
        (hspecial c hc)).symm
    simp only [specials, List.forall_mem_cons] at hne
    obtain ⟨_, _, _, _, _, hround, hround', hsquare, hsquare', hcurly, hcurly', _⟩ := hne
    constructor
    · rw [Brackets.closing?, if_neg hround, if_neg hsquare, if_neg hcurly]
    · rw [Brackets.isClosing, beq_eq_false_iff_ne.mpr hround', beq_eq_false_iff_ne.mpr hsquare',
        beq_eq_false_iff_ne.mpr hcurly']
      rfl

/-- A comment on a line of its own is nothing to a reader of brackets. -/
theorem of_comment (awaited : List Nat) {text : List Char} (hend : '\n' ∉ text)
    (hbackslash : l = java → '\\' ∉ text) :
    Takes l (l.mark ++ text ++ ['\n']) awaited awaited := by
  obtain ⟨hclosed, hleft⟩ := closed_comment l hend hbackslash
  refine ⟨hclosed, ?_⟩
  rw [hleft]
  exact Brackets.pending_of_balanced (by decide) awaited

/-- A literal is nothing to a reader of brackets. -/
theorem of_literal (l : Dialect) (ascii : Bool) (awaited : List Nat) (s : String) :
    Takes l (Json.literal ascii s).toList awaited awaited := by
  obtain ⟨hclosed, hleft⟩ := closed_literal l ascii s
  refine ⟨hclosed, ?_⟩
  rw [hleft]
  exact Brackets.pending_of_balanced (by decide) awaited

/-- The indentation of a line and its end are nothing to a reader of brackets. -/
theorem line {e : Emitter} {s : Statement}
    (hs : Takes l (s.write e.asciiLiterals).toList before after)
    (hindent : e.indent.toList.all (· == ' ') = true) :
    Takes l (ended (e.line s)) before after := by
  have hspaces := Takes.of_plain (isPlain_indent hindent) (pending_indent l hindent before)
  have hend : Takes l ['\n'] after after :=
    ⟨l.closed_lineEnd.1, by rw [l.closed_lineEnd.2]; exact Brackets.pending_of_balanced rfl after⟩
  rw [toList_line]
  exact (hspaces.append hs).append hend

end Takes

end Clickpath.Script
