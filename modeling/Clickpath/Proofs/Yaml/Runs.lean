import Clickpath.Proofs.Yaml.Places

/-! # The parts of a text

A text that is not written between double marks consists of words with spaces or line ends between
them. What is read of a row of line ends has the line feed in the place of the next-line control,
and of a row that starts with this control the first line end is lost.
-/

namespace Clickpath.Yaml

def nextLine : Char := '\x85'

/-! ## Words -/

/-- A character of a word: it is neither a space nor a line end, and it stands for itself. -/
def isWordChar (c : Char) : Bool := c != ' ' && !isTextBreak c && isVisible c

theorem isWordChar_iff {c : Char} :
    isWordChar c = true ↔ c ≠ ' ' ∧ isTextBreak c = false ∧ isVisible c = true := by
  simp [isWordChar, and_assoc]

/-- A row of line ends as it is read. -/
def foldedEnds : List Char → List Char
  | [] => []
  | first :: more => folded (unified first) (more.map unified)

/-- Line ends as they are written between single marks. -/
def writtenEnds (ends : List Char) : List Char :=
  if ends.head? == some '\n' then '\n' :: ends else ends

namespace Run

def text : Run → List Char
  | spaces count => List.replicate count ' '
  | breaks ends => ends
  | word text => text

def read : Run → List Char
  | spaces count => List.replicate count ' '
  | breaks ends => foldedEnds (writtenEnds ends)
  | word text => text

end Run

/-- Nothing is left, or a word comes first. -/
def startsWord : List Run → Prop
  | [] | .word _ :: _ => True
  | _ => False

/-- Spaces and line ends stand between words, or at an end of the text. -/
def WellParted : List Run → Prop
  | [] => True
  | .spaces count :: rest => 0 < count ∧ startsWord rest ∧ WellParted rest
  | .breaks ends :: rest =>
    ends ≠ [] ∧ (∀ c ∈ ends, isTextBreak c = true) ∧ startsWord rest ∧ WellParted rest
  | .word text :: rest => text ≠ [] ∧ (∀ c ∈ text, isWordChar c = true) ∧ WellParted rest

/-- A character in front of parts is the first of their text. -/
theorem text_consRun (c : Char) (runs : List Run) :
    (consRun c runs).flatMap Run.text = c :: runs.flatMap Run.text := by
  unfold consRun
  split
  next hspace =>
    rw [beq_iff_eq.mp hspace]
    split <;> simp [Run.text, List.replicate_succ]
  next =>
    split
    next => split <;> simp [Run.text]
    next => split <;> simp [Run.text]

theorem text_runsOf (s : List Char) : (runsOf s).flatMap Run.text = s := by
  induction s with
  | nil => rfl
  | cons c s ih => rw [runsOf, List.foldr_cons, text_consRun, ← runsOf, ih]

/-- What a text without certain neighbours has at its start. -/
theorem hasNeighbours_cons {p q : Char → Bool} {c : Char} {s : List Char}
    (h : hasNeighbours p q (c :: s) = false) :
    hasNeighbours p q s = false ∧ ∀ d ∈ s.head?, p c = true → q d = false := by
  cases s with
  | nil => exact ⟨rfl, nofun⟩
  | cons d s =>
      rw [hasNeighbours, Bool.or_eq_false_iff, Bool.and_eq_false_iff] at h
      refine ⟨h.2, fun other hother hc => ?_⟩
      obtain rfl := Option.some.inj hother
      exact h.1.resolve_left (by rw [hc]; exact Bool.noConfusion)

theorem needsEscapes_cons {c : Char} {s : List Char} (h : needsEscapes (c :: s) = false) :
    needsEscapes s = false ∧ (c = '\n' ∨ isVisible c = true) ∧
      ∀ d ∈ s.head?, c = ' ' → isTextBreak d = false := by
  rw [needsEscapes, Bool.or_eq_false_iff, List.any_cons, Bool.or_eq_false_iff] at h
  obtain ⟨⟨hc, hs⟩, hneighbours⟩ := h
  obtain ⟨hrest, hhead⟩ := hasNeighbours_cons hneighbours
  refine ⟨by rw [needsEscapes, hs, hrest]; rfl, ?_, ?_⟩
  · exact Decidable.or_iff_not_imp_left.mpr (by simpa using hc)
  · exact fun d hd hspace => hhead d hd (by simp [hspace])

theorem hasIndentedLine_cons {c : Char} {s : List Char} (h : hasIndentedLine (c :: s) = false) :
    hasIndentedLine s = false ∧ ∀ d ∈ s.head?, isTextBreak c = true → d ≠ ' ' := by
  obtain ⟨hrest, hhead⟩ := hasNeighbours_cons h
  exact ⟨hrest, fun d hd hbreak => by simpa using hhead d hd hbreak⟩

namespace WellParted

variable {c : Char} {runs : List Run}

/-- A space goes to the spaces behind it, or in front of a word. -/
theorem consSpace (h : WellParted runs)
    (hnext : ∀ d ∈ (runs.flatMap Run.text).head?, isTextBreak d = false) :
    WellParted (consRun ' ' runs) := by
  match runs with
  | .spaces n :: rest => exact ⟨Nat.succ_pos n, h.2⟩
  | [] => exact ⟨Nat.one_pos, trivial, trivial⟩
  | .word text :: rest => exact ⟨Nat.one_pos, trivial, h⟩
  | .breaks (e :: ends) :: rest =>
      have he := hnext e rfl
      rw [h.2.1 e List.mem_cons_self] at he
      cases he
  | .breaks [] :: rest => exact absurd rfl h.1

/-- A line end goes to the line ends behind it, or in front of a word. -/
theorem consBreak (h : WellParted runs) (hc : isTextBreak c = true)
    (hnext : ∀ d ∈ (runs.flatMap Run.text).head?, d ≠ ' ') : WellParted (consRun c runs) := by
  have hspace : ¬(c == ' ') = true := by
    rw [beq_iff_eq]
    rintro rfl
    revert hc
    decide
  unfold consRun
  rw [if_neg hspace, if_pos hc]
  match runs with
  | .breaks ends :: rest =>
      exact ⟨List.cons_ne_nil _ _, List.forall_mem_cons.mpr ⟨hc, h.2.1⟩, h.2.2⟩
  | [] => exact ⟨List.cons_ne_nil _ _, List.forall_mem_singleton.mpr hc, trivial, trivial⟩
  | .word text :: rest =>
      exact ⟨List.cons_ne_nil _ _, List.forall_mem_singleton.mpr hc, trivial, h⟩
  | .spaces (n + 1) :: rest => exact absurd rfl (hnext ' ' rfl)
  | .spaces 0 :: rest => exact absurd h.1 (Nat.lt_irrefl 0)

/-- A character of a word starts one or goes to the word behind it. -/
theorem consWord (h : WellParted runs) (hc : isWordChar c = true) :
    WellParted (consRun c runs) := by
  obtain ⟨hspace, hbreak, _⟩ := isWordChar_iff.mp hc
  unfold consRun
  rw [if_neg (by rwa [beq_iff_eq]), if_neg (by rw [hbreak]; exact Bool.false_ne_true)]
  match runs with
  | .word text :: rest =>
      exact ⟨List.cons_ne_nil _ _, List.forall_mem_cons.mpr ⟨hc, h.2.1⟩, h.2.2⟩
  | [] => exact ⟨List.cons_ne_nil _ _, List.forall_mem_singleton.mpr hc, trivial⟩
  | .spaces n :: rest => exact ⟨List.cons_ne_nil _ _, List.forall_mem_singleton.mpr hc, h⟩
  | .breaks ends :: rest => exact ⟨List.cons_ne_nil _ _, List.forall_mem_singleton.mpr hc, h⟩

end WellParted

/-- A text that needs no double marks is parted well. -/
theorem wellParted_runsOf {s : List Char} (hescapes : needsEscapes s = false)
    (hindented : hasIndentedLine s = false) : WellParted (runsOf s) := by
  induction s with
  | nil => trivial
  | cons c s ih =>
      obtain ⟨hescapes, hc, hspace⟩ := needsEscapes_cons hescapes
      obtain ⟨hindented, hbreak⟩ := hasIndentedLine_cons hindented
      have hparted := ih hescapes hindented
      rw [runsOf, List.foldr_cons, ← runsOf]
      by_cases hblank : c = ' '
      · rw [hblank]
        exact hparted.consSpace fun d hd => hspace d (by rwa [text_runsOf] at hd) hblank
      · cases hends : isTextBreak c with
        | true =>
            exact hparted.consBreak hends fun d hd => hbreak d (by rwa [text_runsOf] at hd) hends
        | false =>
            have hline : c ≠ '\n' := by
              rintro rfl
              revert hends
              decide
            exact hparted.consWord (isWordChar_iff.mpr ⟨hblank, hends, hc.resolve_left hline⟩)

/-! ## Reading back -/

/-- What a text that is written in its style is read as. -/
def readBack (s : List Char) : List Char :=
  if styleOf s = .single then (runsOf s).flatMap Run.read else s

/-- A text comes back: it holds no next-line control, or is written between double marks. -/
def Kept (s : List Char) : Prop := styleOf s = .single → nextLine ∉ s

theorem unified_eq_self {c : Char} (hc : isTextBreak c = true) (hnext : c ≠ nextLine) :
    unified c = c := by
  simp only [isTextBreak, Bool.or_eq_true, beq_iff_eq] at hc
  rcases hc with ((rfl | hc) | hc) | hc
  · rfl
  · exact absurd (Char.toNat_inj.mp hc) hnext
  · simp [unified, hc]
  · simp [unified, hc]

theorem unified_ne_nextLine (c : Char) : unified c ≠ nextLine := by
  unfold unified
  split
  next h =>
    rintro rfl
    revert h
    decide
  next => decide

/-- Line ends are read as they are, unless the control for the next line is among them. -/
theorem Run.read_breaks {ends : List Char} (hends : ∀ c ∈ ends, isTextBreak c = true)
    (hnext : nextLine ∉ ends) : (Run.breaks ends).read = ends := by
  have hself : ends.map unified = ends := by
    have hcongr : ends.map unified = ends.map id := List.map_congr_left fun c hc =>
      unified_eq_self (hends c hc) (ne_of_mem_of_not_mem hc hnext)
    rw [hcongr, List.map_id]
  cases ends with
  | nil => rfl
  | cons first more =>
      obtain ⟨hfirstSelf, hmoreSelf⟩ := List.cons.inj hself
      by_cases hfirst : first = '\n'
      · subst hfirst
        simp [read, writtenEnds, foldedEnds, hfirstSelf, hmoreSelf, folded]
      · simp [read, writtenEnds, foldedEnds, hfirstSelf, hmoreSelf, folded, hfirst]

/-- The next-line control is in nothing that is read of line ends. -/
theorem Run.nextLine_notMem_read_breaks (ends : List Char) : nextLine ∉ (Run.breaks ends).read := by
  rw [Run.read]
  generalize writtenEnds ends = written
  intro hmem
  cases written with
  | nil => cases hmem
  | cons first more =>
      have hmore : nextLine ∉ more.map unified := by
        intro hmem
        obtain ⟨c, _, hc⟩ := List.mem_map.mp hmem
        exact unified_ne_nextLine c hc
      change nextLine ∈ folded (unified first) (more.map unified) at hmem
      unfold folded at hmem
      split at hmem
      next =>
        rcases List.mem_cons.mp hmem with h | h
        · exact unified_ne_nextLine first h.symm
        · exact hmore h
      next =>
        split at hmem
        next => exact absurd (List.mem_singleton.mp hmem) (by decide)
        next => exact hmore hmem

/-- The control for the next line is in nothing that was read. -/
theorem nextLine_notMem_read {runs : List Run} (hruns : WellParted runs) :
    nextLine ∉ runs.flatMap Run.read := by
  induction runs with
  | nil => exact List.not_mem_nil
  | cons run runs ih =>
      rw [List.flatMap_cons, List.mem_append, not_or]
      cases run with
      | spaces count =>
          refine ⟨fun hmem => ?_, ih hruns.2.2⟩
          exact absurd (List.eq_of_mem_replicate hmem) (by decide)
      | breaks ends => exact ⟨Run.nextLine_notMem_read_breaks ends, ih hruns.2.2.2⟩
      | word text =>
          refine ⟨fun hmem => ?_, ih hruns.2.2⟩
          exact absurd (hruns.2.1 nextLine hmem) (by decide)

/-- A text without the control for the next line is read as it was. -/
theorem read_eq_text {runs : List Run} (hruns : WellParted runs)
    (hnext : nextLine ∉ runs.flatMap Run.text) :
    runs.flatMap Run.read = runs.flatMap Run.text := by
  induction runs with
  | nil => rfl
  | cons run runs ih =>
      rw [List.flatMap_cons, List.mem_append, not_or] at hnext
      rw [List.flatMap_cons, List.flatMap_cons]
      cases run with
      | spaces count => rw [ih hruns.2.2 hnext.2]; rfl
      | breaks ends => rw [ih hruns.2.2.2 hnext.2, Run.read_breaks hruns.2.1 hnext.1]; rfl
      | word text => rw [ih hruns.2.2 hnext.2]; rfl

theorem needsNoDouble_of_styleOf {s : List Char} (hstyle : styleOf s ≠ .double) :
    needsEscapes s = false ∧ hasIndentedLine s = false := by
  unfold styleOf at hstyle
  split at hstyle
  next => exact absurd rfl hstyle
  next h => simpa using h

/-- A text is read back as it was exactly if it is kept. -/
theorem readBack_eq_self_iff (s : List Char) : readBack s = s ↔ Kept s := by
  unfold readBack Kept
  split
  next hsingle =>
    obtain ⟨hescapes, hindented⟩ := needsNoDouble_of_styleOf (by rw [hsingle]; exact nofun)
    have hparted := wellParted_runsOf hescapes hindented
    have htext := text_runsOf s
    constructor
    · intro hread _
      rw [← hread]
      exact nextLine_notMem_read hparted
    · intro hnext
      have hread := read_eq_text hparted (by rw [htext]; exact hnext hsingle)
      rw [hread, htext]
  next hstyle => exact iff_of_true rfl fun hsingle => absurd hsingle hstyle

end Clickpath.Yaml
