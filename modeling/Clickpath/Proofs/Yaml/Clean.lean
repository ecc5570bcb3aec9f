import Clickpath.Chars.Lines
import Clickpath.Proofs.Yaml.Escaped
import Clickpath.Proofs.Yaml.Plain

/-! # Characters of written texts

Whatever a text holds, it is written in characters that a reader allows, and without the carriage
return, so that nothing is changed where line ends are made the same.
-/

namespace Clickpath.Yaml

/-- A character that a text may hold, other than the carriage return. -/
def isClean (c : Char) : Bool := isAllowed c && c != '\r'

theorem isClean_of_isVisible {c : Char} (hc : isVisible c = true) : isClean c = true := by
  have hreturn : c ≠ '\r' := by
    rintro rfl
    revert hc
    decide
  simp only [isVisible, Bool.or_eq_true, Bool.and_eq_true, decide_eq_true_eq, beq_iff_eq,
    bne_iff_ne] at hc
  simp only [isClean, isAllowed, Bool.and_eq_true, Bool.or_eq_true, decide_eq_true_eq, beq_iff_eq,
    bne_iff_ne]
  exact ⟨by omega, hreturn⟩

theorem isClean_of_isTextBreak {c : Char} (hc : isTextBreak c = true) : isClean c = true := by
  have hreturn := (isBreak_of_isTextBreak hc).2
  simp only [isTextBreak, Bool.or_eq_true, beq_iff_eq] at hc
  simp only [isClean, isAllowed, Bool.and_eq_true, Bool.or_eq_true, decide_eq_true_eq, beq_iff_eq,
    bne_iff_ne]
  refine ⟨?_, hreturn⟩
  rcases hc with ((rfl | hc) | hc) | hc
  · decide
  all_goals omega

theorem isClean_of_isDirect {c : Char} (hc : isDirect c = true) : isClean c = true := by
  have hreturn : c ≠ '\r' := by
    rintro rfl
    revert hc
    decide
  simp only [isDirect, Bool.or_eq_true, Bool.and_eq_true, decide_eq_true_eq, bne_iff_ne] at hc
  simp only [isClean, isAllowed, Bool.and_eq_true, Bool.or_eq_true, decide_eq_true_eq, beq_iff_eq,
    bne_iff_ne]
  exact ⟨by omega, hreturn⟩

@[simp]
theorem isClean_space : isClean ' ' = true := by decide

theorem clean_newLine (indent : Nat) : (newLine indent).all isClean = true := by
  simp [newLine, show isClean '\n' = true by decide]

theorem clean_word {text : List Char} (htext : ∀ c ∈ text, isWordChar c = true) :
    text.all isClean = true :=
  List.all_eq_true.mpr fun c hc => isClean_of_isVisible (isWordChar_iff.mp (htext c hc)).2.2

theorem clean_ends {ends : List Char} (hends : ∀ c ∈ ends, isTextBreak c = true) :
    ends.all isClean = true :=
  List.all_eq_true.mpr fun c hc => isClean_of_isTextBreak (hends c hc)

theorem clean_doubledMarks {text : List Char} (htext : text.all isClean = true) :
    (doubledMarks text).all isClean = true := by
  rw [List.all_eq_true] at htext ⊢
  intro c hc
  obtain ⟨d, hd, hc⟩ := List.mem_flatMap.mp hc
  split at hc
  · simp only [List.mem_cons, List.not_mem_nil, or_false, or_self] at hc
    rw [hc]
    decide
  · rw [List.mem_singleton.mp hc]
    exact htext d hd

/-- A plain text is written in characters that a text may hold. -/
theorem clean_writePlain {runs : List Run} (hruns : WellParted runs) (indent column : Nat) :
    (writePlain indent column runs).all isClean = true := by
  induction runs generalizing column with
  | nil => rfl
  | cons run runs ih =>
      cases run with
      | spaces count =>
          obtain ⟨_, _, hruns⟩ := hruns
          rw [writePlain]
          split <;> simp [clean_newLine, ih hruns]
      | breaks ends =>
          obtain ⟨_, hends, _, hruns⟩ := hruns
          simp [writePlain, clean_ends hends, ih hruns]
      | word text =>
          obtain ⟨_, htext, hruns⟩ := hruns
          simp [writePlain, clean_word htext, ih hruns]

/-- A text between single marks is written in characters that a text may hold. -/
theorem clean_writeRuns {runs : List Run} (hruns : WellParted runs) (indent column : Nat)
    (first : Bool) : (writeRuns indent first column runs).all isClean = true := by
  induction runs generalizing column first with
  | nil => rfl
  | cons run runs ih =>
      cases run with
      | spaces count =>
          obtain ⟨_, _, hruns⟩ := hruns
          rw [writeRuns]
          split <;> simp [clean_newLine, ih hruns]
      | breaks ends =>
          obtain ⟨_, hends, _, hruns⟩ := hruns
          have hwritten := clean_ends (isTextBreak_writtenEnds hends)
          simp [writeRuns, writeBreaks_eq, hwritten, ih hruns]
      | word text =>
          obtain ⟨_, htext, hruns⟩ := hruns
          simp [writeRuns, clean_doubledMarks (clean_word htext), ih hruns]

theorem clean_capitalHex (width code : Nat) : (capitalHex width code).all isClean = true := by
  rw [capitalHex_eq, List.all_eq_true]
  intro d hd
  obtain ⟨e, he, rfl⟩ := List.mem_map.mp hd
  obtain ⟨digit, hdigit, rfl⟩ := mem_hexDigits he
  have hall : ∀ n : Fin 16, isClean (capitalDigit (Chars.hexDigit n)) = true := by decide
  exact hall ⟨digit, hdigit⟩

/-- An escape is written in characters that a text may hold. -/
theorem clean_escapeOf (g : Glyph) : (escapeOf g).all isClean = true := by
  have hletters : ∀ entry ∈ escapeLetters, isClean entry.2 = true := by decide
  have hbackslash : isClean '\\' = true := by decide
  have hdigits (letter : Char) (hletter : isClean letter = true) (width code : Nat) :
      ('\\' :: letter :: capitalHex width code).all isClean = true := by
    simp [hbackslash, hletter, clean_capitalHex]
  cases g with
  | half h => exact hdigits 'u' (by decide) 4 h.unit
  | char c =>
      rw [escapeOf]
      split
      next letter hlookup =>
        obtain ⟨before, behind, hsplit, _⟩ := List.lookup_eq_some_iff.mp hlookup
        have hletter := hletters (c.toNat, letter) (by
          rw [hsplit]
          exact List.mem_append_right _ List.mem_cons_self)
        simpa [hbackslash] using hletter
      next =>
        split
        next => exact hdigits 'x' (by decide) 2 c.toNat
        next =>
          split
          next => exact hdigits 'u' (by decide) 4 c.toNat
          next => exact hdigits 'U' (by decide) 8 c.toNat

/-- A text between double marks is written in characters that a text may hold. -/
theorem clean_writeEscaped (s : List Glyph) (indent column : Nat) (first after : Bool) :
    (writeEscaped indent first after column s).all isClean = true := by
  have hbackslash : isClean '\\' = true := by decide
  have hfold : ∀ next, (foldDouble indent next).1.all isClean = true := by
    intro next
    unfold foldDouble
    split <;> simp [hbackslash, clean_newLine]
  induction s generalizing column first after with
  | nil => rfl
  | cons g s ih =>
      rw [writeEscaped]
      split
      next hdirect =>
        obtain ⟨c, rfl, hc⟩ := exists_char_of_is hdirect
        split <;> simp [isClean_of_isDirect hc, hfold, ih]
      next =>
        dsimp only
        split <;> simp [clean_escapeOf, hfold, ih]

theorem clean_writeDouble (s : List Glyph) (indent column : Nat) :
    (writeDouble indent column s).all isClean = true := by
  simp [writeDouble, clean_writeEscaped, show isClean '\x22' = true by decide]

/-- Every text is written in clean characters. -/
theorem clean_writeText (s : List Char) (indent column : Nat) :
    (writeText indent column s).all isClean = true := by
  unfold writeText
  split
  next hstyle =>
    obtain ⟨hescapes, hindented⟩ := needsNoDouble_of_styleOf (by rw [hstyle]; exact nofun)
    exact clean_writePlain (wellParted_runsOf hescapes hindented) indent column
  next hstyle =>
    obtain ⟨hescapes, hindented⟩ := needsNoDouble_of_styleOf (by rw [hstyle]; exact nofun)
    have hruns := clean_writeRuns (wellParted_runsOf hescapes hindented) indent (column + 1) true
    simp [writeSingle, hruns, show isClean '\'' = true by decide]
  next => exact clean_writeDouble (glyphsOf s) indent column

/-- A reader allows clean characters and changes none of their line ends. -/
theorem readable_of_clean {s : List Char} (hs : s.all isClean = true) :
    s.all isAllowed = true ∧ Chars.unifyLineEnds s = s := by
  induction s with
  | nil => exact ⟨rfl, rfl⟩
  | cons c s ih =>
      rw [List.all_cons, Bool.and_eq_true, isClean, Bool.and_eq_true, bne_iff_ne] at hs
      obtain ⟨⟨hallowed, hreturn⟩, hs⟩ := hs
      obtain ⟨hrest, hunify⟩ := ih hs
      refine ⟨by rw [List.all_cons, hallowed, hrest]; rfl, ?_⟩
      rw [Chars.unifyLineEnds]
      · rw [if_neg (by simpa using hreturn), hunify]
      · rintro rest rfl
        exact absurd rfl hreturn

end Clickpath.Yaml
