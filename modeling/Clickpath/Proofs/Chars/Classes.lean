import Clickpath.Chars.Blank
import Clickpath.Chars.Case
import Clickpath.Chars.Digit
import Clickpath.Chars.Lines

/-! # Classes of characters

How the classes of characters lie to each other, told by their tables: word characters are no
blanks, every end of line is a blank, hexadecimal digits are visible, and what becomes a word of
ASCII when it is raised is a word itself.
-/

namespace Clickpath.Chars

/-! ## Ranges -/

/-- The ranges start one behind the other. -/
def inOrder : List (Nat × Nat) → Bool
  | first :: second :: rest => first.1.ble second.1 && inOrder (second :: rest)
  | _ => true

/-- Goes through both rows at once: others that end before a range are passed over, and the next one
starts behind the range. -/
def passesBy : List (Nat × Nat) → List (Nat × Nat) → Bool
  | [], _ => true
  | range :: rest, others =>
    let later := others.dropWhile fun other => other.2.blt range.1
    (later.head?.all fun other => range.2.blt other.1) && passesBy rest later

/-- No range of the one row reaches into a range of the other. -/
def apart (ranges others : List (Nat × Nat)) : Bool :=
  inOrder ranges && inOrder others && passesBy ranges others

/-- Goes through both rows at once: the first of the others that does not end before a range holds
it as a whole. -/
def within : List (Nat × Nat) → List (Nat × Nat) → Bool
  | [], _ => true
  | range :: rest, others =>
    let later := others.dropWhile fun other => other.2.blt range.1
    (later.head?.any fun other => other.1.ble range.1 && range.2.ble other.2) && within rest later

theorem inRanges_eq_true_iff {ranges : List (Nat × Nat)} {code : Nat} :
    inRanges ranges code = true ↔ ∃ range ∈ ranges, range.1 ≤ code ∧ code ≤ range.2 := by
  simp only [inRanges, List.any_eq_true, Bool.and_eq_true, decide_eq_true_eq]

/-- Ranges that start one behind the other do so over any distance. -/
theorem pairwise_of_inOrder {ranges : List (Nat × Nat)} (h : inOrder ranges = true) :
    ranges.Pairwise fun range later => range.1 ≤ later.1 := by
  induction ranges with
  | nil => exact .nil
  | cons first rest ih =>
      cases rest with
      | nil => exact List.pairwise_singleton _ _
      | cons second rest =>
          rw [inOrder, Bool.and_eq_true, Nat.ble_eq] at h
          have hrest := ih h.2
          refine List.pairwise_cons.mpr ⟨fun range hrange => ?_, hrest⟩
          rcases List.mem_cons.mp hrange with rfl | hrange
          · exact h.1
          · exact Nat.le_trans h.1 (List.rel_of_pairwise_cons hrest hrange)

/-- Where two rows of ranges pass each other by, any two ranges of them are apart. -/
theorem ends_or_starts_of_passesBy {ranges others : List (Nat × Nat)}
    (hranges : ranges.Pairwise fun range later => range.1 ≤ later.1)
    (hothers : others.Pairwise fun range later => range.1 ≤ later.1)
    (h : passesBy ranges others = true) :
    ∀ range ∈ ranges, ∀ other ∈ others, other.2 < range.1 ∨ range.2 < other.1 := by
  induction ranges generalizing others with
  | nil => exact List.forall_mem_nil _
  | cons first rest ih =>
      rw [passesBy, Bool.and_eq_true] at h
      obtain ⟨hnext, hrest⟩ := h
      obtain ⟨hfirst, hranges⟩ := List.pairwise_cons.mp hranges
      intro range hrange other hother
      rw [← List.takeWhile_append_dropWhile (p := fun other => other.2.blt first.1) (l := others),
        List.mem_append] at hother
      rcases hother with hpassed | hlater
      · -- What ends before the first range ends before all of them.
        have hends := List.all_eq_true.mp List.all_takeWhile other hpassed
        rw [Nat.blt_eq] at hends
        rcases List.mem_cons.mp hrange with rfl | hrange
        · exact .inl hends
        · exact .inl (Nat.lt_of_lt_of_le hends (hfirst range hrange))
      · have hothers' := hothers.sublist (List.dropWhile_sublist fun other => other.2.blt first.1)
        rcases List.mem_cons.mp hrange with rfl | hrange
        · cases hlist : others.dropWhile fun other => other.2.blt range.1 with
          | nil =>
              rw [hlist] at hlater
              cases hlater
          | cons next behind =>
              rw [hlist] at hnext hlater hothers'
              rw [List.head?_cons, Option.all_some, Nat.blt_eq] at hnext
              rcases List.mem_cons.mp hlater with rfl | hlater
              · exact .inr hnext
              · exact .inr (Nat.lt_of_lt_of_le hnext (List.rel_of_pairwise_cons hothers' hlater))
        · exact ih hranges hothers' hrest range hrange other hlater

/-- Ranges that lie apart have no code point in common. -/
theorem inRanges_eq_false_of_apart {ranges others : List (Nat × Nat)}
    (hapart : apart ranges others = true) {code : Nat} (hcode : inRanges ranges code = true) :
    inRanges others code = false := by
  rw [apart, Bool.and_eq_true, Bool.and_eq_true] at hapart
  obtain ⟨⟨hranges, hothers⟩, hpasses⟩ := hapart
  obtain ⟨range, hrange, hfirst, hlast⟩ := inRanges_eq_true_iff.mp hcode
  rw [Bool.eq_false_iff, ne_eq, inRanges_eq_true_iff]
  rintro ⟨other, hother, hfirst', hlast'⟩
  rcases ends_or_starts_of_passesBy (pairwise_of_inOrder hranges) (pairwise_of_inOrder hothers)
    hpasses range hrange other hother with h | h
  · omega
  · omega

/-- A range that lies within others lies in a single one of them. -/
theorem exists_covering_of_within {ranges others : List (Nat × Nat)}
    (h : within ranges others = true) :
    ∀ range ∈ ranges, ∃ other ∈ others, other.1 ≤ range.1 ∧ range.2 ≤ other.2 := by
  induction ranges generalizing others with
  | nil => exact List.forall_mem_nil _
  | cons first rest ih =>
      rw [within, Bool.and_eq_true, Option.any_eq_true] at h
      obtain ⟨⟨next, hnext, hcovers⟩, hrest⟩ := h
      rw [Bool.and_eq_true, Nat.ble_eq, Nat.ble_eq] at hcovers
      have hlater := List.dropWhile_sublist (fun other => other.2.blt first.1) (l := others)
      refine List.forall_mem_cons.mpr ⟨⟨next, ?_, hcovers⟩, fun range hrange => ?_⟩
      · exact hlater.mem (List.mem_of_head? hnext)
      · obtain ⟨other, hother, hcovers⟩ := ih hrest range hrange
        exact ⟨other, hlater.mem hother, hcovers⟩

/-- Ranges that lie in others have their code points there. -/
theorem inRanges_of_within {ranges others : List (Nat × Nat)}
    (hwithin : within ranges others = true) {code : Nat} (hcode : inRanges ranges code = true) :
    inRanges others code = true := by
  obtain ⟨range, hrange, hfirst, hlast⟩ := inRanges_eq_true_iff.mp hcode
  obtain ⟨other, hother, hfirst', hlast'⟩ := exists_covering_of_within hwithin range hrange
  exact inRanges_eq_true_iff.mpr
    ⟨other, hother, Nat.le_trans hfirst' hfirst, Nat.le_trans hlast hlast'⟩

/-! ## The table of word characters -/

def isAsciiWord (c : Char) : Bool := decide (c.toNat < 128) && isWord c

/-- Characters that are raised to more than one, all of them word characters of ASCII. -/
def asciiSpecial : List (Nat × List Nat) :=
  upperSpecial.filter fun entry => (entry.2.map Char.ofNat).all isAsciiWord

/-- How the word characters lie to the blanks, and to what is raised to word characters of ASCII. -/
structure WordsArranged : Prop where
  blanks_apart : apart wordRanges blankRanges = true
  null : isAsciiWord '\x00' = false
  small : within [(0x61, 0x7A)] wordRanges = true
  raised : within (asciiSpecial.map fun entry => (entry.1, entry.1)) wordRanges = true
  /-- A run of characters is raised within ASCII or to what is beyond it, or it is a single word
  character. -/
  raised_run : ∀ run ∈ upperRuns, run.last < 128 ∨ 128 ≤ run.first + run.delta ∨
    run.first = run.last ∧ inRanges wordRanges run.first = true

-- Its fields are read as in WordsArranged.small wordsArranged: behind the name of a theorem and a
-- dot they would wait for its proof.
theorem wordsArranged : WordsArranged := by
  constructor <;> decide +kernel

/-! ## Blanks -/

theorem isBlank_eq (c : Char) : isBlank c = inRanges blankRanges c.toNat := rfl

theorem isBlank_of_isLineEnd {c : Char} (hc : isLineEnd c = true) : isBlank c = true := by
  simp only [isLineEnd, Bool.or_eq_true, Bool.and_eq_true, decide_eq_true_eq, beq_iff_eq] at hc
  simp only [isBlank, blankRanges, List.any_cons, List.any_nil, Bool.or_eq_true, Bool.and_eq_true,
    decide_eq_true_eq, Bool.or_false]
  omega

/-- No character of a word separates words. -/
theorem not_isBlank_of_isWord {c : Char} (hc : isWord c = true) : isBlank c = false := by
  rw [isWord, Bool.or_eq_true] at hc
  rcases hc with hletter | hline
  · rw [isBlank_eq]
    exact inRanges_eq_false_of_apart (WordsArranged.blanks_apart wordsArranged) hletter
  · rw [beq_iff_eq.mp hline]
    decide

theorem not_isLineEnd_of_isWord {c : Char} (hc : isWord c = true) : isLineEnd c = false := by
  cases hend : isLineEnd c with
  | false => rfl
  | true => rw [← isBlank_of_isLineEnd hend, not_isBlank_of_isWord hc]

theorem not_isLineEnd_of_any {s : List Char} (hs : s.any isLineEnd = false) :
    ∀ c ∈ s, isLineEnd c = false :=
  fun c hc => Bool.eq_false_iff.mpr (List.any_eq_false.mp hs c hc)

theorem dropWhile_blank_eq_self {α : Type} {blank : α → Bool} {s : List α}
    (hhead : ∀ a ∈ s.head?, blank a = false) : s.dropWhile blank = s := by
  cases s with
  | nil => rfl
  | cons c rest =>
      rw [List.dropWhile_cons_of_neg]
      rw [hhead c rfl]
      exact Bool.false_ne_true

/-- A text with no blank at either end is not trimmed. -/
theorem trim_eq_self {s : List Char} (hhead : ∀ c ∈ s.head?, isBlank c = false)
    (hlast : ∀ c ∈ s.getLast?, isBlank c = false) : trim s = s := by
  rw [← List.head?_reverse] at hlast
  rw [trim, trimStart, dropWhile_blank_eq_self hhead, trimEnd, dropWhile_blank_eq_self hlast,
    List.reverse_reverse]

/-- A text without line ends is one line. -/
theorem linesFrom_of_forall {s : List Char} (hs : ∀ c ∈ s, isLineEnd c = false)
    {line : List Char} (hline : line ≠ [] ∨ s ≠ []) : linesFrom line s = [line.reverse ++ s] := by
  induction s generalizing line with
  | nil =>
      cases line with
      | nil => simp at hline
      | cons c line =>
          rw [List.append_nil]
          rfl
  | cons c rest ih =>
      obtain ⟨hc, hrest⟩ := List.forall_mem_cons.mp hs
      have hstep : linesFrom line (c :: rest) = linesFrom (c :: line) rest := by
        conv => lhs; unfold linesFrom
        split
        next h => cases h
        next h => cases h
        next h =>
          cases h
          exact absurd hc (by decide)
        next h =>
          cases h
          rw [hc, if_neg Bool.false_ne_true]
      rw [hstep, ih hrest (.inl (List.cons_ne_nil c line)), List.reverse_cons, List.append_assoc]
      rfl

/-- A text without ends of lines is one line. -/
theorem lines_eq_singleton {s : List Char} (hs : ∀ c ∈ s, isLineEnd c = false) (hfilled : s ≠ []) :
    lines s = [s] :=
  linesFrom_of_forall hs (.inr hfilled)

/-- No line holds an end of line. -/
theorem not_isLineEnd_of_mem_linesFrom {line s part : List Char}
    (hline : ∀ c ∈ line, isLineEnd c = false) (hpart : part ∈ linesFrom line s) :
    ∀ c ∈ part, isLineEnd c = false := by
  have hreverse : ∀ {line : List Char}, (∀ c ∈ line, isLineEnd c = false) →
      ∀ c ∈ line.reverse, isLineEnd c = false := fun h c hc => h c (List.mem_reverse.mp hc)
  fun_induction linesFrom line s with
  | case1 => cases hpart
  | case2 line hne =>
      rw [List.mem_singleton.mp hpart]
      exact hreverse hline
  | case3 line rest ih =>
      rcases List.mem_cons.mp hpart with rfl | hpart
      · exact hreverse hline
      · exact ih (List.forall_mem_nil _) hpart
  | case4 line c rest _ hend ih =>
      rcases List.mem_cons.mp hpart with rfl | hpart
      · exact hreverse hline
      · exact ih (List.forall_mem_nil _) hpart
  | case5 line c rest _ hend ih =>
      exact ih (List.forall_mem_cons.mpr ⟨Bool.eq_false_iff.mpr hend, hline⟩) hpart

/-- A text is a line of its own exactly if nothing in it ends a line. -/
theorem lines_eq_singleton_iff {s : List Char} (hfilled : s ≠ []) :
    lines s = [s] ↔ ∀ c ∈ s, isLineEnd c = false := by
  refine ⟨fun h => ?_, fun hs => lines_eq_singleton hs hfilled⟩
  apply not_isLineEnd_of_mem_linesFrom (List.forall_mem_nil _) (s := s)
  rw [← lines, h]
  exact List.mem_singleton_self s

/-! ## Visible characters -/

/-- Characters of ASCII that are no controls. -/
def isVisibleAscii (c : Char) : Bool := 0x20 ≤ c.toNat && c.toNat ≤ 0x7E

theorem isVisibleAscii_iff {c : Char} :
    isVisibleAscii c = true ↔ 0x20 ≤ c.toNat ∧ c.toNat ≤ 0x7E := by
  rw [isVisibleAscii, Bool.and_eq_true, decide_eq_true_eq, decide_eq_true_eq]

theorem isVisibleAscii_of_isHexDigit {c : Char} (hc : isHexDigit c = true) :
    isVisibleAscii c = true := by
  rw [isHexDigit, hexValue?] at hc
  rw [isVisibleAscii_iff]
  simp only [Bool.and_eq_true, decide_eq_true_eq, Char.le_def, UInt32.le_iff_toNat_le] at hc
  change 0x20 ≤ c.val.toNat ∧ c.val.toNat ≤ 0x7E
  split at hc
  next h => exact ⟨Nat.le_trans (by decide) h.1, Nat.le_trans h.2 (by decide)⟩
  next =>
    split at hc
    next h => exact ⟨Nat.le_trans (by decide) h.1, Nat.le_trans h.2 (by decide)⟩
    next =>
      split at hc
      next h => exact ⟨Nat.le_trans (by decide) h.1, Nat.le_trans h.2 (by decide)⟩
      next => cases hc

/-! ## Raised words -/

/-- A number stands for a character of its own, or else for the first one. -/
theorem toNat_ofNat_or (code : Nat) :
    (Char.ofNat code).toNat = code ∨ Char.ofNat code = '\x00' := by
  by_cases hvalid : code.isValidChar
  · have hchar : Char.ofNat code = Char.ofNatAux code hvalid := dif_pos hvalid
    rw [hchar]
    exact .inl rfl
  · exact .inr (dif_neg hvalid)

/-- What is a word character of ASCII has a code point in ASCII, since no other number stands for
anything there but the first. -/
theorem lt_of_isAsciiWord_ofNat {code : Nat} (h : isAsciiWord (Char.ofNat code) = true) :
    code < 128 := by
  rcases toNat_ofNat_or code with hcode | hzero
  · rw [isAsciiWord, Bool.and_eq_true, decide_eq_true_eq, hcode] at h
    exact h.1
  · rw [hzero, WordsArranged.null wordsArranged] at h
    cases h

theorem isWord_of_inRanges {c : Char} (hc : inRanges wordRanges c.toNat = true) :
    isWord c = true :=
  (Bool.or_eq_true _ _).mpr (.inl hc)

theorem isWord_of_isAsciiWord {c : Char} (hc : isAsciiWord c = true) : isWord c = true := by
  rw [isAsciiWord, Bool.and_eq_true] at hc
  exact hc.2

theorem isWord_of_small {c : Char} (hfirst : 'a' ≤ c) (hlast : c ≤ 'z') : isWord c = true := by
  apply isWord_of_inRanges
  apply inRanges_of_within (WordsArranged.small wordsArranged)
  exact inRanges_eq_true_iff.mpr ⟨_, List.mem_singleton_self _, hfirst, hlast⟩

/-- What is raised to word characters of ASCII is a word character. -/
theorem isWord_of_upperChar {c : Char} (h : (upperChar c).all isAsciiWord = true) :
    isWord c = true := by
  by_cases hascii : c.toNat < 128
  · rw [upperChar, if_pos hascii, List.all_cons, List.all_nil, Bool.and_true] at h
    split at h
    next hsmall =>
      rw [Bool.and_eq_true, decide_eq_true_eq, decide_eq_true_eq] at hsmall
      exact isWord_of_small hsmall.1 hsmall.2
    next => exact isWord_of_isAsciiWord h
  · rw [upperChar, if_neg hascii] at h
    apply isWord_of_inRanges
    split at h
    next codes hcodes =>
      obtain ⟨before, after, hentries, _⟩ := List.lookup_eq_some_iff.mp hcodes
      have hentry : (c.toNat, codes) ∈ upperSpecial := by
        rw [hentries]
        exact List.mem_append_right _ List.mem_cons_self
      apply inRanges_of_within (WordsArranged.raised wordsArranged)
      exact inRanges_eq_true_iff.mpr ⟨_, List.mem_map_of_mem (List.mem_filter.mpr ⟨hentry, h⟩),
        Nat.le_refl _, Nat.le_refl _⟩
    next =>
      rw [List.all_cons, List.all_nil, Bool.and_true, mapCase] at h
      split at h
      next code hcode =>
        obtain ⟨run, hrun, himage⟩ := List.exists_of_findSome?_eq_some hcode
        unfold CaseRun.image? at himage
        split at himage
        next hcovered =>
          cases himage
          have hbelow := lt_of_isAsciiWord_ofNat h
          simp only [Bool.and_eq_true, decide_eq_true_eq] at hcovered
          rcases WordsArranged.raised_run wordsArranged run hrun with
            hlast | hbeyond | ⟨hsingle, hfirst⟩
          · omega
          · omega
          · rwa [show c.toNat = run.first by omega]
        next => cases himage
      next =>
        rw [isAsciiWord, Bool.and_eq_true, decide_eq_true_eq] at h
        exact absurd h.1 hascii

theorem all_isWord_of_upper {s : List Char} (h : (upper s).all isAsciiWord = true) :
    s.all isWord = true := by
  rw [upper, List.all_flatMap, List.all_eq_true] at h
  rw [List.all_eq_true]
  exact fun c hc => isWord_of_upperChar (h c hc)

end Clickpath.Chars
