import Clickpath.Proofs.Chars.Reading
import Clickpath.Proofs.Yaml.Runs

/-! # Quoted texts

What is read of a text that was written between marks, with any text behind it. Between double marks
the text itself is read, however its lines were folded.
-/

namespace Clickpath.Yaml

/-! ## Blanks and line ends -/

def isInk (c : Char) : Bool := !isSpaceOrTab c && !isBreak c

/-- Something other than a blank or the end of a line comes first. -/
def InkFirst (s : List Char) : Prop := ∃ c rest, s = c :: rest ∧ isInk c = true

theorem isInk_iff {c : Char} : isInk c = true ↔ isSpaceOrTab c = false ∧ isBreak c = false := by
  simp [isInk]

theorem isInk_of_isWordChar {c : Char} (hc : isWordChar c = true) : isInk c = true := by
  simp only [isWordChar, Bool.and_eq_true, bne_iff_ne, ne_eq, Bool.not_eq_true'] at hc
  obtain ⟨⟨hspace, hends⟩, hvisible⟩ := hc
  have htab : c ≠ '\t' := by
    rintro rfl
    revert hvisible
    decide
  have hreturn : c ≠ '\r' := by
    rintro rfl
    revert hvisible
    decide
  simp only [isTextBreak, Bool.or_eq_false_iff] at hends
  rw [isInk_iff]
  constructor
  · simp [isSpaceOrTab, hspace, htab]
  · simp [isBreak, hends, hreturn]

theorem not_isSpaceOrTab_of_isTextBreak {c : Char} (hc : isTextBreak c = true) :
    isSpaceOrTab c = false := by
  rw [← Bool.not_eq_true]
  intro hblank
  rw [isSpaceOrTab, Bool.or_eq_true, beq_iff_eq, beq_iff_eq] at hblank
  rcases hblank with rfl | rfl <;> revert hc <;> decide

theorem Cursor.takeWhile_of_isTextBreak {c : Cursor} {ch : Char} {rest : List Char}
    (h : c.rest = ch :: rest) (hch : isTextBreak ch = true) :
    c.takeWhile isSpaceOrTab = ([], c) := by
  have hblank := not_isSpaceOrTab_of_isTextBreak hch
  rw [Cursor.takeWhile, h, List.takeWhile_cons_of_neg (by simp [hblank])]
  rfl

theorem takeWhile_spaces (count : Nat) {after : List Char} (hafter : InkFirst after) :
    (List.replicate count ' ' ++ after).takeWhile isSpaceOrTab = List.replicate count ' ' ∧
      (List.replicate count ' ' ++ after).dropWhile isSpaceOrTab = after := by
  obtain ⟨c, rest, rfl, hc⟩ := hafter
  have hspaces : (List.replicate count ' ').all isSpaceOrTab = true := by
    rw [List.all_replicate]
    simp [isSpaceOrTab]
  exact ⟨Chars.takeWhile_append_cons hspaces (isInk_iff.mp hc).1,
    Chars.dropWhile_append_cons hspaces (isInk_iff.mp hc).1⟩

theorem Cursor.lineBreak?_of_inkFirst {c : Cursor} {after : List Char} (h : c.rest = after)
    (hafter : InkFirst after) : c.lineBreak? = none := by
  obtain ⟨ch, rest, rfl, hch⟩ := hafter
  apply Cursor.lineBreak?_eq_none
  intro other hother
  rw [h] at hother
  obtain rfl := Option.some.inj hother
  exact (isInk_iff.mp hch).2

/-- Spaces within a quoted text are kept. -/
theorem quotedBlanks_spaces {c : Cursor} {count : Nat} {after : List Char}
    (h : c.rest = List.replicate count ' ' ++ after) (hafter : InkFirst after) :
    ∃ behind : Cursor, behind.rest = after ∧
      quotedBlanks c = .ok (List.replicate count ' ', behind) := by
  have hspaces := takeWhile_spaces count hafter
  have hrest : (c.takeWhile isSpaceOrTab).2.rest = after := by
    rw [Cursor.rest_takeWhile, h, hspaces.2]
  have hblanks : (c.takeWhile isSpaceOrTab).1 = List.replicate count ' ' := by
    rw [← hspaces.1, ← h]
    rfl
  have hpeek : (c.takeWhile isSpaceOrTab).2.peek.isNone = false := by
    obtain ⟨ch, rest, rfl, _⟩ := hafter
    rw [Cursor.peek, hrest]
    rfl
  refine ⟨_, hrest, ?_⟩
  unfold quotedBlanks
  simp only [Cursor.lineBreak?_of_inkFirst hrest hafter, hpeek, hblanks]
  rfl

/-- Behind line ends comes the indentation of the next line. -/
theorem quotedBreaks_ends {ends after : List Char} {indent : Nat} (hindent : 0 < indent)
    (hends : ∀ e ∈ ends, isTextBreak e = true) (hafter : InkFirst after) {c : Cursor}
    (h : c.rest = ends ++ (List.replicate indent ' ' ++ after)) {fuel : Nat}
    (hfuel : ends.length < fuel) :
    ∃ behind : Cursor, behind.rest = after ∧
      quotedBreaks fuel c = .ok (ends.map unified, behind) := by
  induction ends generalizing c fuel with
  | nil =>
      obtain ⟨fuel, rfl⟩ : ∃ n, fuel = n + 1 := ⟨fuel - 1, by omega⟩
      have hspaces := takeWhile_spaces indent hafter
      rw [List.nil_append] at h
      have hborder : c.atBorder = false := by
        apply Cursor.not_atBorder
        intro ch hch
        obtain ⟨n, rfl⟩ : ∃ n, indent = n + 1 := ⟨indent - 1, by omega⟩
        rw [h, List.replicate_succ, List.cons_append] at hch
        obtain rfl := Option.some.inj hch
        decide
      have hrest : (c.takeWhile isSpaceOrTab).2.rest = after := by
        rw [Cursor.rest_takeWhile, h, hspaces.2]
      refine ⟨_, hrest, ?_⟩
      unfold quotedBreaks
      simp only [hborder, Cursor.lineBreak?_of_inkFirst hrest hafter]
      rfl
  | cons e ends ih =>
      obtain ⟨fuel, rfl⟩ : ∃ n, fuel = n + 1 := ⟨fuel - 1, by omega⟩
      have he := hends e List.mem_cons_self
      rw [List.cons_append] at h
      have hborder : c.atBorder = false := by
        apply Cursor.not_atBorder
        intro ch hch
        rw [h] at hch
        obtain rfl := Option.some.inj hch
        constructor <;> rintro rfl <;> revert he <;> decide
      have htaken := Cursor.takeWhile_of_isTextBreak h he
      have hnext : c.next.rest = ends ++ (List.replicate indent ' ' ++ after) := by
        rw [Cursor.rest_next, h]
        rfl
      have hfuel' : ends.length < fuel := Nat.lt_of_succ_lt_succ hfuel
      obtain ⟨behind, hbehind, hread⟩ :=
        ih (fun other hother => hends other (List.mem_cons_of_mem _ hother)) hnext hfuel'
      refine ⟨behind, hbehind, ?_⟩
      unfold quotedBreaks
      simp only [hborder, htaken, Cursor.lineBreak?_of_isTextBreak h he, hread]
      rfl

/-- Line ends within a quoted text are folded, with the spaces behind them. -/
theorem quotedBlanks_ends {c : Cursor} {first : Char} {more after : List Char} {indent : Nat}
    (hindent : 0 < indent) (hends : ∀ e ∈ first :: more, isTextBreak e = true)
    (hafter : InkFirst after)
    (h : c.rest = first :: more ++ (List.replicate indent ' ' ++ after)) :
    ∃ behind : Cursor, behind.rest = after ∧
      quotedBlanks c = .ok (foldedEnds (first :: more), behind) := by
  have hfirst := hends first List.mem_cons_self
  rw [List.cons_append] at h
  have htaken := Cursor.takeWhile_of_isTextBreak h hfirst
  have hnext : c.next.rest = more ++ (List.replicate indent ' ' ++ after) := by
    rw [Cursor.rest_next, h]
    rfl
  have hfuel : more.length < c.next.rest.length + 1 := by
    rw [hnext, List.length_append]
    omega
  obtain ⟨behind, hbehind, hread⟩ := quotedBreaks_ends hindent
    (fun e he => hends e (List.mem_cons_of_mem _ he)) hafter hnext hfuel
  refine ⟨behind, hbehind, ?_⟩
  unfold quotedBlanks
  simp only [htaken, Cursor.lineBreak?_of_isTextBreak h hfirst, hread]
  rfl

/-! ## Parts of a quoted text -/

/-- The rest of a quoted text is read as some text, up to what stands behind the closing mark. -/
def Quotes (double : Bool) (rest : List Char) (text : List Glyph) (tail : List Char) : Prop :=
  ∀ (c : Cursor) (fuel : Nat) (done : List Glyph), c.rest = rest → rest.length < fuel →
    ∃ behind : Cursor, behind.rest = tail ∧
      quotedText double fuel done c = .ok (done.reverse ++ text, behind)

namespace Quotes

variable {double : Bool} {rest tail after : List Char} {text : List Glyph}

theorem closeSingle (htail : tail.head? ≠ some '\'') : Quotes false ('\'' :: tail) [] tail := by
  intro c fuel done h hfuel
  obtain ⟨fuel, rfl⟩ : ∃ n, fuel = n + 1 := ⟨fuel - 1, by omega⟩
  refine ⟨c.next, by rw [Cursor.rest_next, h]; rfl, ?_⟩
  unfold quotedText
  rw [h]
  simp [isSpaceOrTab, isBreak, htail]

theorem closeDouble (tail : List Char) : Quotes true ('\x22' :: tail) [] tail := by
  intro c fuel done h hfuel
  obtain ⟨fuel, rfl⟩ : ∃ n, fuel = n + 1 := ⟨fuel - 1, by omega⟩
  refine ⟨c.next, by rw [Cursor.rest_next, h]; rfl, ?_⟩
  unfold quotedText
  rw [h]
  simp [isSpaceOrTab, isBreak]

/-- A character that is no mark stands for itself. -/
theorem ink {ch : Char} (hch : isInk ch = true)
    (hmark : if double then ch ≠ '\\' ∧ ch ≠ '\x22' else ch ≠ '\'')
    (hrest : Quotes double rest text tail) :
    Quotes double (ch :: rest) (.char ch :: text) tail := by
  intro c fuel done h hfuel
  obtain ⟨fuel, rfl⟩ : ∃ n, fuel = n + 1 := ⟨fuel - 1, by omega⟩
  obtain ⟨behind, hbehind, hread⟩ := hrest c.next fuel (.char ch :: done)
    (by rw [Cursor.rest_next, h]; rfl) (by rw [List.length_cons] at hfuel; omega)
  refine ⟨behind, hbehind, ?_⟩
  obtain ⟨hblank, hbreak⟩ := isInk_iff.mp hch
  unfold quotedText
  rw [h]
  cases double <;> simp_all

/-- Between single marks, two marks stand for one. -/
theorem doubledMark (hrest : Quotes false rest text tail) :
    Quotes false ('\'' :: '\'' :: rest) (.char '\'' :: text) tail := by
  intro c fuel done h hfuel
  obtain ⟨fuel, rfl⟩ : ∃ n, fuel = n + 1 := ⟨fuel - 1, by omega⟩
  obtain ⟨behind, hbehind, hread⟩ := hrest (c.skip 2) fuel (.char '\'' :: done)
    (by rw [Cursor.rest_skip, h]; rfl) (by simp only [List.length_cons] at hfuel; omega)
  refine ⟨behind, hbehind, ?_⟩
  unfold quotedText
  rw [h]
  simp [isSpaceOrTab, isBreak, hread]

/-- What blanks are read as, the text behind them follows. -/
theorem blanks {blanks read : List Char} (hne : blanks ≠ [])
    (hblanks : ∀ ch ∈ blanks.head?, (isSpaceOrTab ch || isBreak ch) = true)
    (hread : ∀ c : Cursor, c.rest = blanks ++ after → ∃ behind : Cursor, behind.rest = after ∧
      quotedBlanks c = .ok (read, behind))
    (hrest : Quotes double after text tail) :
    Quotes double (blanks ++ after) (glyphsOf read ++ text) tail := by
  intro c fuel done h hfuel
  obtain ⟨fuel, rfl⟩ : ∃ n, fuel = n + 1 := ⟨fuel - 1, by omega⟩
  obtain ⟨between, hbetween, hblanksRead⟩ := hread c h
  have hpos := List.length_pos_iff.mpr hne
  obtain ⟨behind, hbehind, hrestRead⟩ := hrest between fuel
    ((glyphsOf read).reverse ++ done) hbetween (by rw [List.length_append] at hfuel; omega)
  refine ⟨behind, hbehind, ?_⟩
  obtain ⟨ch, more, rfl⟩ := List.exists_cons_of_ne_nil hne
  have hch := hblanks ch rfl
  unfold quotedText
  rw [h, List.cons_append]
  simp only [hch, if_true, hblanksRead, Bind.bind, Except.bind, hrestRead]
  simp

theorem spaces {count : Nat} (hcount : 0 < count) (hafter : InkFirst after)
    (hrest : Quotes double after text tail) :
    Quotes double (List.replicate count ' ' ++ after) (glyphsOf (List.replicate count ' ') ++ text)
      tail := by
  obtain ⟨n, rfl⟩ : ∃ n, count = n + 1 := ⟨count - 1, by omega⟩
  refine blanks (by simp) ?_ (fun c h => quotedBlanks_spaces h hafter) hrest
  intro ch hch
  obtain rfl := Option.some.inj hch
  decide

/-- Spaces that may be none. -/
theorem padding (count : Nat) (hafter : InkFirst after) (hrest : Quotes double after text tail) :
    Quotes double (List.replicate count ' ' ++ after) (glyphsOf (List.replicate count ' ') ++ text)
      tail := by
  cases count with
  | zero => exact hrest
  | succ count => exact spaces (Nat.succ_pos count) hafter hrest

/-- The rest of a quoted text may stand behind line ends. -/
theorem ends {ends : List Char} {indent : Nat} (hindent : 0 < indent) (hne : ends ≠ [])
    (hends : ∀ e ∈ ends, isTextBreak e = true) (hafter : InkFirst after)
    (hrest : Quotes double after text tail) :
    Quotes double (ends ++ (List.replicate indent ' ' ++ after))
      (glyphsOf (foldedEnds ends) ++ text) tail := by
  obtain ⟨first, more, rfl⟩ := List.exists_cons_of_ne_nil hne
  rw [← List.append_assoc]
  refine blanks (by simp) ?_ ?_ hrest
  · intro ch hch
    obtain rfl := Option.some.inj hch
    rw [(isBreak_of_isTextBreak (hends first List.mem_cons_self)).1, Bool.or_true]
  · intro c h
    rw [List.append_assoc] at h
    exact quotedBlanks_ends hindent hends hafter h

/-- A line that is folded at a space. -/
theorem newLine {indent : Nat} (hindent : 0 < indent) (hafter : InkFirst after)
    (hrest : Quotes double after text tail) :
    Quotes double (newLine indent ++ after) (.char ' ' :: text) tail :=
  ends hindent (List.cons_ne_nil '\n' []) (List.forall_mem_singleton.mpr (by decide)) hafter hrest

end Quotes

/-! ## Single marks -/

/-- A word between single marks is read back with each mark in it once. -/
theorem Quotes.word {word rest tail : List Char} {text : List Glyph}
    (hword : ∀ c ∈ word, isWordChar c = true) (hrest : Quotes false rest text tail) :
    Quotes false (doubledMarks word ++ rest) (glyphsOf word ++ text) tail := by
  induction word with
  | nil => exact hrest
  | cons c word ih =>
      have hread := ih fun other hother => hword other (List.mem_cons_of_mem _ hother)
      rw [doubledMarks, List.flatMap_cons, ← doubledMarks, List.append_assoc, glyphsOf_cons,
        List.cons_append]
      split
      next hc =>
        rw [beq_iff_eq.mp hc]
        exact hread.doubledMark
      next hc =>
        exact hread.ink (isInk_of_isWordChar (hword c List.mem_cons_self)) (by simpa using hc)

theorem inkFirst_doubledMarks {word rest : List Char} (hne : word ≠ [])
    (hword : ∀ c ∈ word, isWordChar c = true) : InkFirst (doubledMarks word ++ rest) := by
  obtain ⟨c, word, rfl⟩ := List.exists_cons_of_ne_nil hne
  have hink := isInk_of_isWordChar (hword c List.mem_cons_self)
  rw [doubledMarks, List.flatMap_cons]
  split
  next => exact ⟨'\'', _, rfl, by decide⟩
  next => exact ⟨c, _, rfl, hink⟩

/-- Behind spaces and line ends comes a word or the closing mark. -/
theorem inkFirst_writeRuns {indent column : Nat} {first : Bool} {runs : List Run} {tail : List Char}
    (hstarts : startsWord runs) (hruns : WellParted runs) :
    InkFirst (writeRuns indent first column runs ++ '\'' :: tail) := by
  match runs with
  | [] => exact ⟨'\'', tail, rfl, by decide⟩
  | .word text :: rest =>
      rw [writeRuns, List.append_assoc]
      exact inkFirst_doubledMarks hruns.1 hruns.2.1

theorem writtenEnds_ne_nil {ends : List Char} (hne : ends ≠ []) : writtenEnds ends ≠ [] := by
  unfold writtenEnds
  split
  next => exact List.cons_ne_nil _ _
  next => exact hne

theorem isTextBreak_writtenEnds {ends : List Char} (hends : ∀ e ∈ ends, isTextBreak e = true) :
    ∀ e ∈ writtenEnds ends, isTextBreak e = true := by
  unfold writtenEnds
  split
  next => exact List.forall_mem_cons.mpr ⟨by decide, hends⟩
  next => exact hends

theorem writeBreaks_eq (indent : Nat) (ends : List Char) :
    writeBreaks indent ends = writtenEnds ends ++ List.replicate indent ' ' := by
  unfold writeBreaks writtenEnds
  split <;> rfl

/-- A text between single marks is read back by its parts. -/
theorem Quotes.writeRuns {indent : Nat} (hindent : 0 < indent) {tail : List Char}
    (htail : tail.head? ≠ some '\'') {runs : List Run} (hruns : WellParted runs) (first : Bool)
    (column : Nat) :
    Quotes false (writeRuns indent first column runs ++ '\'' :: tail)
      (glyphsOf (runs.flatMap Run.read)) tail := by
  induction runs generalizing first column with
  | nil => exact .closeSingle htail
  | cons run rest ih =>
      rw [List.flatMap_cons, glyphsOf_append]
      cases run with
      | spaces count =>
          obtain ⟨hcount, hstarts, hrest⟩ := hruns
          rw [Yaml.writeRuns]
          split
          next hfold =>
            have hone : count = 1 := by
              simp only [Bool.and_eq_true, beq_iff_eq] at hfold
              exact hfold.1.1.1
            subst hone
            rw [List.append_assoc]
            exact .newLine hindent (inkFirst_writeRuns hstarts hrest) (ih hrest _ _)
          next =>
            rw [List.append_assoc]
            exact .spaces hcount (inkFirst_writeRuns hstarts hrest) (ih hrest _ _)
      | breaks ends =>
          obtain ⟨hne, hends, hstarts, hrest⟩ := hruns
          have hread := Quotes.ends hindent (writtenEnds_ne_nil hne) (isTextBreak_writtenEnds hends)
            (inkFirst_writeRuns hstarts hrest) (ih hrest false indent)
          rw [Yaml.writeRuns, writeBreaks_eq, List.append_assoc, List.append_assoc]
          exact hread
      | word text =>
          obtain ⟨hne, hword, hrest⟩ := hruns
          rw [Yaml.writeRuns, List.append_assoc]
          exact .word hword (ih hrest _ _)

/-- A text between single marks is read as its parts are. -/
theorem quotedScalar_writeSingle {indent column : Nat} (hindent : 0 < indent) {s tail : List Char}
    (hparted : WellParted (runsOf s)) (htail : tail.head? ≠ some '\'') {c : Cursor}
    (h : c.rest = writeSingle indent column s ++ tail) :
    ∃ behind : Cursor, behind.rest = tail ∧
      quotedScalar false c.next = .ok (glyphsOf ((runsOf s).flatMap Run.read), behind) := by
  have hrest : c.next.rest =
      writeRuns indent true (column + 1) (runsOf s) ++ '\'' :: tail := by
    rw [Cursor.rest_next, h, writeSingle, List.cons_append, List.cons_append, List.append_assoc]
    rfl
  have hread := Quotes.writeRuns hindent htail hparted true (column + 1) c.next
    (c.next.rest.length + 1) [] hrest (by rw [hrest]; omega)
  exact hread

end Clickpath.Yaml
