import Clickpath.Proofs.Yaml.Quoted

/-! # Texts without marks

A text that is written without marks is read as it was. It consists of words with spaces between
them. A line that is folded inside it starts deeper than the block that it stands in, so the text
goes on there, and the line behind it does not.
-/

namespace Clickpath.Yaml

/-! ## Sentences -/

/-- A word that no colon ends. -/
def PlainWord (word : List Char) : Prop :=
  word ≠ [] ∧ (∀ c ∈ word, isWordChar c = true) ∧ word.getLast? ≠ some ':'

/-- Words with spaces in front of each of them, none of which starts with a number sign. -/
def Continues : List Run → Prop
  | [] => True
  | .spaces count :: .word text :: rest =>
    0 < count ∧ PlainWord text ∧ text.head? ≠ some '#' ∧ Continues rest
  | _ => False

/-- A word and what continues it. -/
def Sentence : List Run → Prop
  | .word text :: rest => PlainWord text ∧ Continues rest
  | _ => False

theorem isBlankOrEnd_of_isWordChar {c : Char} (hc : isWordChar c = true) :
    isBlankOrEnd (some c) = false := by
  obtain ⟨hblank, hbreak⟩ := isInk_iff.mp (isInk_of_isWordChar hc)
  simp only [isSpaceOrTab, Bool.or_eq_false_iff] at hblank
  simp only [isBlankOrEnd, isSpaceOrEnd, endsLine, hbreak, Bool.or_false, Bool.or_eq_false_iff]
  exact ⟨by simpa using hblank.2, by simpa using hblank.1⟩

theorem isSteady_of_isWordChar {c : Char} (hc : isWordChar c = true) : isSteady c = true := by
  obtain ⟨_, hbreak⟩ := isInk_iff.mp (isInk_of_isWordChar hc)
  have hmark : c.toNat ≠ 0xFEFF := by
    intro h
    have hvisible := (isWordChar_iff.mp hc).2.2
    rw [isVisible, h] at hvisible
    revert hvisible
    decide
  simp [isSteady, hbreak, isByteOrderMark, hmark]

theorem hasInnerMark_cons {afterBlank : Bool} {c : Char} {s : List Char}
    (h : hasInnerMark afterBlank (c :: s) = false) :
    (c = ':' → isBlankOrEnd s.head? = false) ∧ (afterBlank = true → c ≠ '#') ∧
      hasInnerMark (isBlankOrEnd (some c)) s = false := by
  rw [hasInnerMark, Bool.or_eq_false_iff, Bool.or_eq_false_iff] at h
  obtain ⟨⟨hcolon, hnumber⟩, hrest⟩ := h
  exact ⟨fun hc => by simpa [hc] using hcolon, fun hb => by simpa [hb] using hnumber, hrest⟩

theorem head?_flatMap_text {text : List Char} (hne : text ≠ []) (rest : List Run) :
    ((Run.word text :: rest).flatMap Run.text).head? = text.head? := by
  obtain ⟨c, text, rfl⟩ := List.exists_cons_of_ne_nil hne
  rfl

/-- A space goes in front of a word, or joins the spaces that come next. -/
theorem continues_consRun {runs : List Run} (hne : runs ≠ [])
    (hnumber : (runs.flatMap Run.text).head? ≠ some '#')
    (hparted : Sentence runs ∨ Continues runs) : Continues (consRun ' ' runs) := by
  match runs with
  | .word text :: rest =>
      obtain ⟨hword, hcontinues⟩ := hparted.resolve_right id
      rw [head?_flatMap_text hword.1] at hnumber
      exact ⟨Nat.one_pos, hword, hnumber, hcontinues⟩
  | .spaces count :: rest =>
      have hcontinues := hparted.resolve_left id
      match rest with
      | .word text :: rest => exact ⟨Nat.succ_pos count, hcontinues.2⟩
  | .breaks ends :: rest => exact (hparted.elim id id).elim

/-- A character goes in front of a word, or is a word by itself. -/
theorem sentence_consRun {c : Char} {runs : List Run} (hc : isWordChar c = true)
    (hcolon : c = ':' → isBlankOrEnd (runs.flatMap Run.text).head? = false)
    (hparted : Sentence runs ∨ Continues runs) : Sentence (consRun c runs) := by
  obtain ⟨hspace, hbreak, _⟩ := isWordChar_iff.mp hc
  have halone : isBlankOrEnd (runs.flatMap Run.text).head? = true → PlainWord [c] := by
    intro hblank
    refine ⟨List.cons_ne_nil _ _, List.forall_mem_singleton.mpr hc, fun h => ?_⟩
    rw [hcolon (Option.some.inj h)] at hblank
    cases hblank
  unfold consRun
  rw [if_neg (by simpa using hspace), if_neg (by simp [hbreak])]
  match runs with
  | [] => exact ⟨halone rfl, trivial⟩
  | .word text :: rest =>
      obtain ⟨⟨hne, hword, hend⟩, hcontinues⟩ := hparted.resolve_right id
      refine ⟨⟨List.cons_ne_nil _ _, List.forall_mem_cons.mpr ⟨hc, hword⟩, ?_⟩, hcontinues⟩
      obtain ⟨d, text, rfl⟩ := List.exists_cons_of_ne_nil hne
      rwa [List.getLast?_cons_cons]
  | .spaces count :: rest =>
      have hcontinues := hparted.resolve_left id
      refine ⟨halone ?_, hcontinues⟩
      match rest with
      | .word text :: rest =>
          obtain ⟨n, rfl⟩ : ∃ n, count = n + 1 := ⟨count - 1, by have := hcontinues.1; omega⟩
          rfl
  | .breaks ends :: rest => exact (hparted.elim id id).elim

/-- A text of words and spaces without marks inside is a sentence, behind spaces if it starts with
one. -/
theorem sentence_or_continues_runsOf {afterBlank : Bool} {s : List Char}
    (hchars : ∀ c ∈ s, c = ' ' ∨ isWordChar c = true) (hlast : s.getLast? ≠ some ' ')
    (hmarks : hasInnerMark afterBlank s = false) :
    (s.head? ≠ some ' ' ∧ s ≠ [] → Sentence (runsOf s)) ∧
      (Sentence (runsOf s) ∨ Continues (runsOf s)) := by
  induction s generalizing afterBlank with
  | nil => exact ⟨fun h => absurd rfl h.2, .inr trivial⟩
  | cons c s ih =>
      obtain ⟨hcolon, -, hrest⟩ := hasInnerMark_cons hmarks
      obtain ⟨hc, hothers⟩ := List.forall_mem_cons.mp hchars
      have htext := text_runsOf s
      rw [runsOf, List.foldr_cons, ← runsOf]
      rcases hc with rfl | hc
      · obtain ⟨d, s, rfl⟩ : ∃ d rest, s = d :: rest := by
          cases s with
          | nil => exact absurd rfl hlast
          | cons d s => exact ⟨d, s, rfl⟩
        obtain ⟨-, hnumber, -⟩ := hasInnerMark_cons hrest
        have hparted := (ih hothers (by rwa [List.getLast?_cons_cons] at hlast) hrest).2
        refine ⟨fun h => absurd rfl h.1, .inr (continues_consRun ?_ ?_ hparted)⟩
        · intro hnil
          rw [hnil] at htext
          cases htext
        · rw [htext]
          exact fun h => hnumber rfl (Option.some.inj h)
      · have hlast' : s.getLast? ≠ some ' ' := by
          intro h
          cases s with
          | nil => cases h
          | cons d s => exact hlast (by rw [List.getLast?_cons_cons, h])
        have hsentence := sentence_consRun hc (by rwa [htext]) (ih hothers hlast' hrest).2
        exact ⟨fun _ => hsentence, .inl hsentence⟩

/-- What a text has to be for being written plain. -/
theorem of_styleOf_plain {s : List Char} (hstyle : styleOf s = .plain) :
    Tag.ofPlain s = .str ∧ hasOuterSpace s = false ∧ s.any isTextBreak = false ∧
      hasMarks s = false := by
  unfold styleOf at hstyle
  split at hstyle
  next => cases hstyle
  next =>
    split at hstyle
    next => cases hstyle
    next h =>
      simp only [Bool.or_eq_true, not_or, Bool.not_eq_true] at h
      obtain ⟨⟨⟨htag, houter⟩, hends⟩, hmarks⟩ := h
      exact ⟨by simpa using htag, houter, hends, hmarks⟩

/-- A text that is written plain is a sentence. -/
theorem sentence_of_styleOf {s : List Char} (hstyle : styleOf s = .plain) :
    Sentence (runsOf s) := by
  obtain ⟨hescapes, _⟩ := needsNoDouble_of_styleOf (by rw [hstyle]; exact nofun)
  obtain ⟨htag, houter, hends, hmarks⟩ := of_styleOf_plain hstyle
  rw [hasOuterSpace, Bool.or_eq_false_iff] at houter
  obtain ⟨c, s, rfl⟩ : ∃ c rest, s = c :: rest := by
    cases s with
    | nil => exact absurd htag (by decide)
    | cons c s => exact ⟨c, s, rfl⟩
  have hchars : ∀ d ∈ c :: s, d = ' ' ∨ isWordChar d = true := by
    intro d hd
    have hbreak : isTextBreak d = false := by simpa using List.any_eq_false.mp hends d hd
    rw [needsEscapes, Bool.or_eq_false_iff] at hescapes
    have hvisible := List.any_eq_false.mp hescapes.1 d hd
    have hline : d ≠ '\n' := by
      rintro rfl
      exact absurd hbreak (by decide)
    by_cases hspace : d = ' '
    · exact .inl hspace
    · exact .inr (isWordChar_iff.mpr ⟨hspace, hbreak, by simpa [hline] using hvisible⟩)
  have hinner : hasInnerMark false (c :: s) = false := by
    simp only [hasMarks, Bool.or_eq_false_iff] at hmarks
    obtain ⟨⟨⟨_, hleading⟩, hopening⟩, hrest⟩ := hmarks
    rw [hasInnerMark, hrest, Bool.and_false, Bool.or_false, Bool.or_false]
    by_cases hcolon : c = ':'
    · simpa [hcolon] using hopening
    · simp [hcolon]
  exact (sentence_or_continues_runsOf hchars (by simpa using houter.2) hinner).1
    ⟨by simpa using houter.1, List.cons_ne_nil c s⟩

/-! ## Lines behind a text -/

def isKeyChar (c : Char) : Bool := ('a' ≤ c && c ≤ 'z') || c == '_'

/-- A character of a key is one of a word. -/
theorem isWordChar_of_isKeyChar {c : Char} (hc : isKeyChar c = true) : isWordChar c = true := by
  have hcode : 0x5F ≤ c.toNat ∧ c.toNat ≤ 0x7A := by
    simp only [isKeyChar, Bool.or_eq_true, Bool.and_eq_true, decide_eq_true_eq, beq_iff_eq] at hc
    rcases hc with ⟨hfirst, hlast⟩ | rfl
    · have hfirst : 'a'.toNat ≤ c.toNat := hfirst
      have hlast : c.toNat ≤ 'z'.toNat := hlast
      have ha : 'a'.toNat = 0x61 := rfl
      have hz : 'z'.toNat = 0x7A := rfl
      omega
    · decide
  have hne : ∀ d : Char, d.toNat < 0x5F → c ≠ d := by
    rintro d hd rfl
    omega
  rw [isWordChar_iff]
  refine ⟨hne ' ' (by decide), ?_, ?_⟩
  · have hline := hne '\n' (by decide)
    simp only [isTextBreak, Bool.or_eq_false_iff, beq_eq_false_iff_ne]
    exact ⟨⟨⟨hline, by omega⟩, by omega⟩, by omega⟩
  · simp only [isVisible, Bool.or_eq_true, Bool.and_eq_true, decide_eq_true_eq]
    exact .inl (.inl (.inl (.inl ⟨by omega, by omega⟩)))

/-- The line behind an entry: an item or a key, or nothing at the end of the text. -/
def OpensLine : List Char → Prop
  | [] => True
  | '-' :: ' ' :: _ => True
  | c :: _ => isKeyChar c = true

theorem OpensLine.isWordChar {line : List Char} (hline : OpensLine line) :
    ∀ c ∈ line.head?, isWordChar c = true ∧ c ≠ '#' := by
  intro c hc
  unfold OpensLine at hline
  split at hline
  next => cases hc
  next =>
    obtain rfl := Option.some.inj hc
    exact ⟨by decide, by decide⟩
  next =>
    obtain rfl := Option.some.inj hc
    refine ⟨isWordChar_of_isKeyChar hline, ?_⟩
    rintro rfl
    exact absurd hline (by decide)

theorem OpensLine.not_atBorder {c : Cursor} (hline : OpensLine c.rest) : c.atBorder = false := by
  unfold OpensLine at hline
  split at hline
  next h => exact Cursor.not_atBorder (by rw [h]; exact nofun)
  next h =>
    unfold Cursor.atBorder
    rw [h]
    rfl
  next ch _ _ h =>
    apply Cursor.not_atBorder
    intro d hd
    rw [h] at hd
    obtain rfl := Option.some.inj hd
    constructor <;> rintro rfl <;> exact absurd hline (by decide)

/-! ## Parts of a plain text -/

theorem takeWhile_onlySpaces (count : Nat) {after : List Char} (hafter : after.head? ≠ some ' ') :
    (List.replicate count ' ' ++ after).takeWhile (· == ' ') = List.replicate count ' ' := by
  rw [List.takeWhile_append_of_pos (by simp)]
  cases after with
  | nil => simp
  | cons c after =>
      rw [List.takeWhile_cons_of_neg (by simpa using hafter), List.append_nil]

/-- A word ends at what no part of a text starts with. -/
theorem plainPart_word {word after : List Char} (hword : ∀ c ∈ word, isWordChar c = true)
    (hend : word.getLast? ≠ some ':') (hafter : plainPart false after = []) :
    plainPart false (word ++ after) = word := by
  induction word with
  | nil => exact hafter
  | cons c word ih =>
      obtain ⟨hc, hword⟩ := List.forall_mem_cons.mp hword
      obtain ⟨hblank, hbreak⟩ := isInk_iff.mp (isInk_of_isWordChar hc)
      have hend' : word.getLast? ≠ some ':' := by
        intro h
        cases word with
        | nil => cases h
        | cons d word => exact hend (by rw [List.getLast?_cons_cons, h])
      have hcolon : (c == ':' && endsColon false (word ++ after).head?) = false := by
        rw [Bool.and_eq_false_iff, beq_eq_false_iff_ne]
        cases word with
        | nil => exact .inl fun h => hend (congrArg some h)
        | cons d word =>
            right
            simp [endsColon, isBlankOrEnd_of_isWordChar (hword d List.mem_cons_self)]
      rw [List.cons_append, plainPart, hblank, hbreak, hcolon, ih hword hend']
      rfl

theorem plainPart_eq_nil {after : List Char} {c : Char} (hafter : after.head? = some c)
    (hc : (isSpaceOrTab c || isBreak c) = true) : plainPart false after = [] := by
  cases after with
  | nil => rfl
  | cons d after =>
      obtain rfl := Option.some.inj hafter
      rw [plainPart, if_pos hc]

theorem isSteady_space : ∀ c ∈ List.replicate n ' ', isSteady c = true := by
  intro c hc
  rw [List.eq_of_mem_replicate hc]
  decide

theorem skip_spaces {c : Cursor} {count : Nat} {after : List Char}
    (h : c.rest = List.replicate count ' ' ++ after) :
    c.skip count = ⟨after, c.index + count, c.line, c.column + count⟩ := by
  have hskip := Cursor.skip_of_isSteady h isSteady_space
  rwa [List.length_replicate] at hskip

/-- Spaces in front of a word belong to the text. -/
theorem plainGap_spaces {c : Cursor} {count : Nat} {after : List Char}
    (h : c.rest = List.replicate count ' ' ++ after) (hafter : InkFirst after) :
    plainGap c = ⟨List.replicate count ' ', c.skip count, false⟩ := by
  have hspaces : c.takeWhile (· == ' ') = (List.replicate count ' ', c.skip count) := by
    obtain ⟨ch, rest, rfl, hink⟩ := hafter
    have hfirst : (ch :: rest).head? ≠ some ' ' := by
      intro hspace
      obtain rfl := Option.some.inj hspace
      exact absurd hink (by decide)
    rw [Cursor.takeWhile, h, takeWhile_onlySpaces count hfirst, List.length_replicate]
  have hrest : (c.skip count).rest = after := by rw [skip_spaces h]
  unfold plainGap
  simp only [hspaces, Cursor.lineBreak?_of_inkFirst hrest hafter]

/-- Spaces within a line bring no line ends. -/
theorem plainBreaks_spaces {count : Nat} {after : List Char}
    (hafter : ∀ ch ∈ after.head?, isInk ch = true) {c : Cursor}
    (h : c.rest = List.replicate count ' ' ++ after) {fuel : Nat} (hfuel : count < fuel) :
    plainBreaks fuel c = (some [], c.skip count) := by
  induction count generalizing c fuel with
  | zero =>
      obtain ⟨fuel, rfl⟩ : ∃ n, fuel = n + 1 := ⟨fuel - 1, by omega⟩
      rw [List.replicate_zero, List.nil_append] at h
      have hpeek : ¬(c.peek == some ' ') = true := by
        rw [beq_iff_eq, Cursor.peek, h]
        intro hspace
        exact absurd (hafter ' ' hspace) (by decide)
      have hbreak : c.lineBreak? = none := by
        apply Cursor.lineBreak?_eq_none
        rw [h]
        exact fun ch hch => (isInk_iff.mp (hafter ch hch)).2
      rw [plainBreaks, if_neg hpeek, hbreak]
      rfl
  | succ count ih =>
      obtain ⟨fuel, rfl⟩ : ∃ n, fuel = n + 1 := ⟨fuel - 1, by omega⟩
      rw [List.replicate_succ, List.cons_append] at h
      have hpeek : (c.peek == some ' ') = true := by rw [Cursor.peek, h]; rfl
      rw [plainBreaks, if_pos hpeek, ih (by rw [Cursor.rest_next, h]; rfl) (by omega)]
      rfl

/-- A line end and the spaces behind it are read as a space. -/
theorem plainGap_line {c : Cursor} {count : Nat} {after : List Char}
    (h : c.rest = '\n' :: (List.replicate count ' ' ++ after))
    (hborder : c.next.atBorder = false) (hafter : ∀ ch ∈ after.head?, isInk ch = true) :
    ∃ behind : Cursor, behind.rest = after ∧ behind.column = count ∧
      plainGap c = ⟨[' '], behind, true⟩ := by
  have hnext := Cursor.next_of_isTextBreak h (by decide)
  have hrest : c.next.rest = List.replicate count ' ' ++ after := by rw [hnext]
  have hskip := skip_spaces hrest
  have hspaces : c.takeWhile (· == ' ') = ([], c) := by
    rw [Cursor.takeWhile, h]
    rfl
  have hfuel : count < c.next.rest.length + 1 := by
    rw [hrest, List.length_append, List.length_replicate]
    omega
  have hbreaks := plainBreaks_spaces hafter hrest hfuel
  refine ⟨c.next.skip count, by rw [hskip], by rw [hskip, hnext, Nat.zero_add], ?_⟩
  unfold plainGap
  simp only [hspaces, Cursor.lineBreak?_of_isTextBreak h (by decide), hborder, hbreaks]
  rfl

/-- A part of a plain text with nothing more of it behind the blanks is the last one. -/
theorem plainParts_last {indent : Int} {fuel : Nat} {blanks word : List Char} {crossed : Bool}
    {c : Cursor} {gap : Gap} (hnumber : c.peek ≠ some '#') (hpart : plainPart false c.rest = word)
    (hne : word ≠ []) (hgap : plainGap (c.skip word.length) = gap)
    (hover : gap.text = [] ∨ (gap.behind.column : Int) < indent) :
    plainParts false indent (fuel + 1) blanks crossed c =
      ⟨blanks ++ word, gap.behind, gap.crossesLine⟩ := by
  have hempty : word.isEmpty = false := by simpa using hne
  have hisOver : (gap.text.isEmpty || gap.behind.peek == some '#' ||
      (!false && decide ((gap.behind.column : Int) < indent))) = true := by
    rcases hover with hover | hover <;> simp [hover]
  unfold plainParts
  simp only [beq_eq_false_iff_ne.mpr hnumber, Bool.false_eq_true, if_false, hpart, hempty, hgap,
    hisOver, if_true]

/-- A part of a plain text with more of it behind the blanks. -/
theorem plainParts_more {indent : Int} {fuel : Nat} {blanks word : List Char} {crossed : Bool}
    {c : Cursor} {gap : Gap} (hnumber : c.peek ≠ some '#') (hpart : plainPart false c.rest = word)
    (hne : word ≠ []) (hgap : plainGap (c.skip word.length) = gap) (htext : gap.text ≠ [])
    (hnext : gap.behind.peek ≠ some '#') (hcolumn : indent ≤ gap.behind.column) :
    plainParts false indent (fuel + 1) blanks crossed c =
      let more := plainParts false indent fuel gap.text gap.crossesLine gap.behind
      ⟨blanks ++ word ++ more.text, more.behind, more.crossedLine⟩ := by
  have hempty : word.isEmpty = false := by simpa using hne
  have hisOver : (gap.text.isEmpty || gap.behind.peek == some '#' ||
      (!false && decide ((gap.behind.column : Int) < indent))) = false := by
    simp [htext, hnext, hcolumn]
  rw [plainParts]
  simp only [beq_eq_false_iff_ne.mpr hnumber, Bool.false_eq_true, if_false, hpart, hempty, hgap,
    hisOver]

section

variable {indent parent depth : Nat} {line : List Char}

theorem PlainWord.inkFirst {word : List Char} (hword : PlainWord word) (rest : List Char) :
    InkFirst (word ++ rest) := by
  obtain ⟨c, word, rfl⟩ := List.exists_cons_of_ne_nil hword.1
  exact ⟨c, word ++ rest, rfl, isInk_of_isWordChar (hword.2.1 c List.mem_cons_self)⟩

theorem PlainWord.peek_ne {word rest : List Char} (hword : PlainWord word)
    (hnumber : word.head? ≠ some '#') {c : Cursor} (h : c.rest = word ++ rest) :
    c.peek ≠ some '#' := by
  obtain ⟨d, word, rfl⟩ := List.exists_cons_of_ne_nil hword.1
  rw [Cursor.peek, h]
  exact hnumber

theorem PlainWord.skip {word rest : List Char} (hword : PlainWord word) {c : Cursor}
    (h : c.rest = word ++ rest) :
    c.skip word.length = ⟨rest, c.index + word.length, c.line, c.column + word.length⟩ :=
  Cursor.skip_of_isSteady h fun d hd => isSteady_of_isWordChar (hword.2.1 d hd)

theorem OpensLine.not_atBorder_behind (hline : OpensLine line) {c : Cursor}
    (h : c.rest = List.replicate depth ' ' ++ line) : c.atBorder = false := by
  cases depth with
  | zero =>
      apply OpensLine.not_atBorder
      rw [h]
      exact hline
  | succ depth =>
      apply Cursor.not_atBorder
      intro ch hch
      rw [h, List.replicate_succ] at hch
      obtain rfl := Option.some.inj hch
      decide

/-- The spaces between two words are read as they are, whether the line is folded there or not. -/
theorem plainGap_writePlain (hindent : parent < indent) {count column : Nat}
    {text after : List Char} {rest : List Run} (hcount : 0 < count) (htext : PlainWord text)
    {c : Cursor} (hcolumn : parent < c.column)
    (h : c.rest = writePlain indent column (.spaces count :: .word text :: rest) ++ after) :
    ∃ (between : Cursor) (column : Nat) (crossed : Bool),
      between.rest = text ++ (writePlain indent column rest ++ after) ∧
        between.rest.length < c.rest.length ∧ parent < between.column ∧
        plainGap c = ⟨List.replicate count ' ', between, crossed⟩ := by
  rw [writePlain] at h
  split at h
  next hfold =>
    obtain rfl : count = 1 := by
      rw [Bool.and_eq_true, beq_iff_eq] at hfold
      exact hfold.1
    rw [newLine, writePlain, List.cons_append, List.cons_append, List.append_assoc,
      List.append_assoc] at h
    obtain ⟨ch, others, hothers, hink⟩ :=
      htext.inkFirst (writePlain indent (indent + text.length) rest ++ after)
    have hborder : c.next.atBorder = false := by
      apply Cursor.not_atBorder
      intro ch hch
      obtain ⟨n, rfl⟩ : ∃ n, indent = n + 1 := ⟨indent - 1, by omega⟩
      rw [Cursor.rest_next, h, List.tail_cons, List.replicate_succ] at hch
      obtain rfl := Option.some.inj hch
      decide
    obtain ⟨between, hbetween, hcolumn', hgap⟩ := plainGap_line h hborder (by
      rw [hothers]
      intro d hd
      obtain rfl := Option.some.inj hd
      exact hink)
    refine ⟨between, _, true, hbetween, ?_, by omega, hgap⟩
    rw [hbetween, h]
    simp only [List.length_cons, List.length_append, List.length_replicate]
    omega
  next =>
    rw [writePlain, List.append_assoc, List.append_assoc] at h
    have hgap := plainGap_spaces h (htext.inkFirst _)
    have hskip := skip_spaces h
    refine ⟨c.skip count, _, false, by rw [hskip], ?_, ?_, hgap⟩
    · rw [hskip, h]
      simp only [List.length_append, List.length_replicate]
      omega
    · rw [hskip]
      exact Nat.lt_add_right count hcolumn

/-- The words of a plain text are read up to the line behind it. -/
theorem plainParts_writePlain (hindent : parent < indent) (hdepth : depth ≤ parent)
    (hline : OpensLine line) : ∀ {runs : List Run}, Continues runs →
    ∀ (blanks : List Char) (crossed : Bool) {word : List Char} {column fuel : Nat} {c : Cursor},
      PlainWord word → word.head? ≠ some '#' → parent < c.column →
      c.rest = word ++ (writePlain indent column runs ++
        '\n' :: (List.replicate depth ' ' ++ line)) →
      c.rest.length < fuel →
      ∃ behind : Cursor, behind.rest = line ∧ behind.column = depth ∧
        plainParts false (parent + 1) fuel blanks crossed c =
          ⟨blanks ++ (word ++ runs.flatMap Run.text), behind, true⟩
  | [], _, blanks, crossed, word, column, fuel, c, hword, hnumber, _, h, hfuel => by
      obtain ⟨fuel, rfl⟩ : ∃ n, fuel = n + 1 := ⟨fuel - 1, by omega⟩
      have hskip := hword.skip h
      have hrest : (c.skip word.length).rest = '\n' :: (List.replicate depth ' ' ++ line) := by
        rw [hskip]
        rfl
      have hborder : (c.skip word.length).next.atBorder = false :=
        hline.not_atBorder_behind (by rw [Cursor.rest_next, hrest]; rfl)
      obtain ⟨behind, hbehind, hcolumn, hgap⟩ := plainGap_line hrest hborder fun ch hch =>
        isInk_of_isWordChar (hline.isWordChar ch hch).1
      refine ⟨behind, hbehind, hcolumn, ?_⟩
      have hpart : plainPart false c.rest = word := by
        rw [h]
        exact plainPart_word hword.2.1 hword.2.2 (plainPart_eq_nil rfl (by decide))
      rw [plainParts_last (hword.peek_ne hnumber h) hpart hword.1 hgap (.inr (by
        change (behind.column : Int) < _
        omega)), List.flatMap_nil, List.append_nil]
  | .spaces count :: .word text :: rest, hruns, blanks, crossed, word, column, fuel, c, hword,
      hnumber, hcolumn, h, hfuel => by
      obtain ⟨fuel, rfl⟩ : ∃ n, fuel = n + 1 := ⟨fuel - 1, by omega⟩
      obtain ⟨hcount, htext, htextNumber, hrest⟩ := hruns
      have hskip := hword.skip h
      have hpart : plainPart false c.rest = word := by
        rw [h]
        refine plainPart_word hword.2.1 hword.2.2 ?_
        rw [writePlain]
        split
        next => exact plainPart_eq_nil rfl (by decide)
        next =>
          obtain ⟨n, rfl⟩ : ∃ n, count = n + 1 := ⟨count - 1, by omega⟩
          exact plainPart_eq_nil rfl (by decide)
      obtain ⟨between, column', crossed', hbetween, hlength, hcolumn', hgap⟩ :=
        plainGap_writePlain hindent hcount htext (c := c.skip word.length)
          (by rw [hskip]; exact Nat.lt_add_right _ hcolumn) (by rw [hskip])
      have hshorter : (c.skip word.length).rest.length ≤ c.rest.length := by
        rw [Cursor.rest_skip, List.length_drop]
        exact Nat.sub_le _ _
      have hfuel' : between.rest.length < fuel := by omega
      obtain ⟨behind, hbehind, hdepth', hread⟩ := plainParts_writePlain hindent hdepth hline hrest
        (List.replicate count ' ') crossed' htext htextNumber hcolumn' hbetween hfuel'
      refine ⟨behind, hbehind, hdepth', ?_⟩
      rw [plainParts_more (hword.peek_ne hnumber h) hpart hword.1 hgap
        (by rw [ne_eq, List.replicate_eq_nil_iff]; omega) (htext.peek_ne htextNumber hbetween)
        (by change _ ≤ (between.column : Int); omega), hread]
      simp [Run.text]

end

/-! ## Whole texts -/

/-- What a plain text starts with, so that it is taken for no other token. -/
def PlainFirst (s : List Char) : Prop :=
  ∃ c rest, s = c :: rest ∧ isWordChar c = true ∧ isLeadingMark c = false ∧
    ((c == '?' || c == ':' || c == '-') = true → isBlankOrEnd rest.head? = false)

theorem PlainFirst.peek_ne {c : Cursor} (hfirst : PlainFirst c.rest) : c.peek ≠ some '#' := by
  obtain ⟨ch, rest, hrest, _, hmark, _⟩ := hfirst
  rw [Cursor.peek, hrest]
  intro hnumber
  obtain rfl := Option.some.inj hnumber
  exact absurd hmark (by decide)

/-- A text that is written plain starts with no mark, whatever follows it. -/
theorem plainFirst_writePlain {s : List Char} (hstyle : styleOf s = .plain) (indent column : Nat)
    (after : List Char) : PlainFirst (writePlain indent column (runsOf s) ++ after) := by
  obtain ⟨_, _, _, hmarks⟩ := of_styleOf_plain hstyle
  have hsentence := sentence_of_styleOf hstyle
  have htext := text_runsOf s
  generalize runsOf s = runs at hsentence htext
  match runs with
  | .word (c :: text) :: rest =>
      obtain ⟨⟨_, hword, _⟩, hcontinues⟩ := hsentence
      obtain rfl : s = c :: (text ++ rest.flatMap Run.text) := htext.symm
      simp only [hasMarks, Bool.or_eq_false_iff] at hmarks
      obtain ⟨⟨⟨_, hleading⟩, hopening⟩, _⟩ := hmarks
      refine ⟨c, text ++ writePlain indent (column + (c :: text).length) rest ++ after, rfl,
        hword c List.mem_cons_self, hleading, fun hc => ?_⟩
      rw [Bool.or_eq_true, Bool.or_eq_true] at hc
      have hnext : isBlankOrEnd (text ++ rest.flatMap Run.text).head? = false := by
        rcases hc with (hc | hc) | hc <;> simpa [hc] using hopening
      cases text with
      | cons d text => exact hnext
      | nil =>
          -- A mark alone would be followed by a blank, or end the text.
          match rest, hcontinues with
          | [], _ => exact absurd hnext (by decide)
          | .spaces (n + 1) :: .word _ :: _, _ =>
              have hspace : isBlankOrEnd (some ' ') = false := hnext
              exact absurd hspace (by decide)
          | .spaces 0 :: .word _ :: _, hcontinues => exact absurd hcontinues.1 (Nat.lt_irrefl 0)
  | .word [] :: _ => exact absurd rfl hsentence.1.1

/-- A plain text is read as its words, up to the line behind it. -/
theorem plainScalar_writePlain {indent parent depth : Nat} {line : List Char}
    (hindent : parent < indent) (hdepth : depth ≤ parent) (hline : OpensLine line)
    {runs : List Run} (hruns : Sentence runs) {column : Nat} {c : Cursor}
    (hfirst : PlainFirst c.rest) (hcolumn : parent < c.column)
    (h : c.rest = writePlain indent column runs ++ '\n' :: (List.replicate depth ' ' ++ line)) :
    ∃ behind : Cursor, behind.rest = line ∧ behind.column = depth ∧
      plainScalar false parent c = ⟨runs.flatMap Run.text, behind, true⟩ := by
  match runs with
  | .word text :: rest =>
      obtain ⟨hword, hcontinues⟩ := hruns
      rw [writePlain, List.append_assoc] at h
      have hnumber : text.head? ≠ some '#' := by
        have hpeek := hfirst.peek_ne
        obtain ⟨d, text, rfl⟩ := List.exists_cons_of_ne_nil hword.1
        rwa [Cursor.peek, h] at hpeek
      exact plainParts_writePlain hindent hdepth hline hcontinues [] false hword hnumber hcolumn h
        (Nat.lt_succ_self _)

/-- A key is read up to the colon behind it. -/
theorem plainScalar_key {parent : Int} {name rest : List Char} (hname : PlainWord name)
    (hblank : isBlankOrEnd rest.head? = true) {c : Cursor} (hfirst : PlainFirst c.rest)
    (h : c.rest = name ++ ':' :: rest) :
    plainScalar false parent c = ⟨name, c.skip name.length, false⟩ := by
  have hskip := hname.skip h
  have hpart : plainPart false c.rest = name := by
    rw [h]
    refine plainPart_word hname.2.1 hname.2.2 ?_
    rw [plainPart]
    simp [isSpaceOrTab, isBreak, endsColon, hblank]
  have hrest : (c.skip name.length).rest = List.replicate 0 ' ' ++ ':' :: rest := by
    rw [hskip]
    rfl
  have hgap := plainGap_spaces hrest ⟨':', rest, rfl, by decide⟩
  unfold plainScalar
  rw [plainParts_last hfirst.peek_ne hpart hname.1 hgap (.inl rfl)]
  rfl

end Clickpath.Yaml
