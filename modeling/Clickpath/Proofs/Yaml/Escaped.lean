import Clickpath.Proofs.Yaml.Quoted

/-! # Texts between double marks

A text between double marks is read as it was, also if it is torn. An escape stands for its
character or half of a pair, a line may be folded behind a backslash, and a backslash in front of a
space keeps it from being taken for indentation.
-/

namespace Clickpath

def Glyph.code : Glyph → Nat
  | .char c => c.toNat
  | .half h => h.unit

theorem Glyph.code_lt (g : Glyph) : g.code < 0x110000 := by
  cases g with
  | char c =>
      have hvalid : c.toNat < 0xD800 ∨ 0xDFFF < c.toNat ∧ c.toNat < 0x110000 := c.valid
      simp only [code]
      omega
  | half h => exact Nat.lt_of_le_of_lt h.inRange.2 (by decide)

/-- No character has the code of half of a pair, so a code stands for one glyph alone. -/
theorem Glyph.ofCode_code (g : Glyph) : ofCode g.code = g := by
  cases g with
  | char c =>
      have hvalid : c.toNat < 0xD800 ∨ 0xDFFF < c.toNat ∧ c.toNat < 0x110000 := c.valid
      have hwhole : ¬(0xD800 ≤ c.toNat ∧ c.toNat ≤ 0xDFFF) := by omega
      rw [code, ofCode, dif_neg hwhole, Char.ofNat_toNat]
  | half h => exact dif_pos h.inRange

namespace Yaml

/-! ## Escapes -/

def capitalDigit (c : Char) : Char := if 'a' ≤ c then Char.ofNat (c.toNat - 32) else c

theorem capitalHex_eq (width code : Nat) :
    capitalHex width code = (Chars.hexDigits width code).map capitalDigit := rfl

theorem mem_hexDigits {width n : Nat} {c : Char} (hc : c ∈ Chars.hexDigits width n) :
    ∃ digit < 16, c = Chars.hexDigit digit := by
  induction width generalizing n with
  | zero => cases hc
  | succ width ih =>
      rcases List.mem_append.mp hc with hc | hc
      · exact ih hc
      · exact ⟨n % 16, Nat.mod_lt _ (by decide), List.mem_singleton.mp hc⟩

theorem hexValue?_capitalDigit {digit : Nat} (hdigit : digit < 16) :
    Chars.hexValue? (capitalDigit (Chars.hexDigit digit)) = some digit := by
  have hall : ∀ n : Fin 16,
      Chars.hexValue? (capitalDigit (Chars.hexDigit n)) = some n.val := by decide
  exact hall ⟨digit, hdigit⟩

/-- A code is read back from its digits. -/
theorem hexNumber_capitalHex {width code : Nat} (hcode : code < Nat.pow 16 width) :
    Chars.hexNumber (capitalHex width code) = code := by
  have hvalues : ∀ digits : List Char, (∀ c ∈ digits, ∃ digit < 16, c = Chars.hexDigit digit) →
      (digits.map capitalDigit).map Chars.hexValue? = digits.map Chars.hexValue? := by
    intro digits hdigits
    rw [List.map_map]
    apply List.map_congr_left
    intro c hc
    obtain ⟨digit, hdigit, rfl⟩ := hdigits c hc
    exact (hexValue?_capitalDigit hdigit).trans (Chars.hexValue?_hexDigit hdigit).symm
  have hnumber : ∀ digits : List Char, Chars.hexNumber digits =
      (digits.map Chars.hexValue?).foldl (fun total value => total * 16 + value.getD 0) 0 := by
    intro digits
    rw [List.foldl_map]
    rfl
  rw [hnumber, capitalHex_eq, hvalues _ fun c hc => mem_hexDigits hc, ← hnumber,
    Chars.hexNumber_hexDigits_of_lt hcode]

theorem isHexDigit_of_mem_capitalHex {width code : Nat} {c : Char}
    (hc : c ∈ capitalHex width code) : Chars.isHexDigit c = true := by
  rw [capitalHex_eq] at hc
  obtain ⟨d, hd, rfl⟩ := List.mem_map.mp hc
  obtain ⟨digit, hdigit, rfl⟩ := mem_hexDigits hd
  rw [Chars.isHexDigit, hexValue?_capitalDigit hdigit]
  rfl

theorem length_capitalHex (width code : Nat) : (capitalHex width code).length = width := by
  rw [capitalHex_eq, List.length_map, Chars.length_hexDigits]

/-- A code is read back from behind its backslash. -/
theorem hexCode?_capitalHex {width code : Nat} (hcode : code < Nat.pow 16 width) {c : Cursor}
    {rest : List Char} (h : c.rest = capitalHex width code ++ rest) :
    hexCode? width c = some code := by
  have htake : c.rest.take width = capitalHex width code := by
    rw [h, List.take_left' (length_capitalHex width code)]
  have hdigits : (capitalHex width code).all Chars.isHexDigit = true :=
    List.all_eq_true.mpr fun c hc => isHexDigit_of_mem_capitalHex hc
  unfold hexCode?
  simp only [htake, length_capitalHex, hdigits, hexNumber_capitalHex hcode]
  simp

theorem glyphOfCode_code (g : Glyph) : glyphOfCode g.code = .ok g := by
  have hcode := g.code_lt
  have hlarge : ¬g.code ≥ 0x80000000 := by omega
  have hbeyond : ¬g.code > 0x10FFFF := by omega
  rw [glyphOfCode, if_neg hlarge, if_neg hbeyond, Glyph.ofCode_code]

/-- What is written behind a backslash is read as some text, whatever follows it. -/
def Escapes (body : List Char) (text : List Glyph) : Prop :=
  ∀ (c : Cursor) (rest : List Char), c.rest = body ++ rest →
    ∃ behind : Cursor, behind.rest = rest ∧ escape c = .ok (text, behind)

theorem Cursor.lineBreak?_of_head {c : Cursor} {ch : Char} {rest : List Char}
    (h : c.rest = ch :: rest) (hch : isBreak ch = false) : c.lineBreak? = none := by
  apply Cursor.lineBreak?_eq_none
  intro other hother
  rw [h] at hother
  obtain rfl := Option.some.inj hother
  exact hch

theorem escapes_letter {letter : Char} {code : Nat} (hbreak : isBreak letter = false)
    (hletter : escapes.lookup letter = some code) :
    Escapes [letter] [.char (Char.ofNat code)] := by
  intro c rest h
  refine ⟨c.next, by rw [Cursor.rest_next, h]; rfl, ?_⟩
  have hpeek : c.peek = some letter := by rw [Cursor.peek, h]; rfl
  unfold escape
  simp only [Cursor.lineBreak?_of_head h hbreak, hpeek, hletter]

/-- A letter and as many digits as it asks for stand for the glyph with their code. -/
theorem escapes_code {letter : Char} {size : Nat} {g : Glyph} (hbreak : isBreak letter = false)
    (hletter : escapes.lookup letter = none) (hsize : codeSizes.lookup letter = some size)
    (hcode : g.code < Nat.pow 16 size) : Escapes (letter :: capitalHex size g.code) [g] := by
  intro c rest h
  have hpeek : c.peek = some letter := by rw [Cursor.peek, h]; rfl
  have hnext : c.next.rest = capitalHex size g.code ++ rest := by
    rw [Cursor.rest_next, h]
    rfl
  refine ⟨c.next.skip size, ?_, ?_⟩
  · rw [Cursor.rest_skip, hnext, List.drop_left' (length_capitalHex size g.code)]
  · unfold escape
    simp only [Cursor.lineBreak?_of_head h hbreak, hpeek, hletter, hsize,
      hexCode?_capitalHex hcode hnext, glyphOfCode_code, Bind.bind, Except.bind]

/-- Every character but the plain ones has an escape that is read as this character. -/
theorem exists_escapeOf_char (ch : Char) :
    ∃ body, escapeOf (.char ch) = '\\' :: body ∧ Escapes body [.char ch] := by
  unfold escapeOf
  dsimp only
  cases hlookup : escapeLetters.lookup ch.toNat with
  | some letter =>
      have hall : ∀ entry ∈ escapeLetters,
          isBreak entry.2 = false ∧ escapes.lookup entry.2 = some entry.1 := by decide
      obtain ⟨before, behind, hletters, _⟩ := List.lookup_eq_some_iff.mp hlookup
      have hmem : (ch.toNat, letter) ∈ escapeLetters := by
        rw [hletters]
        exact List.mem_append_right _ List.mem_cons_self
      obtain ⟨hbreak, hletter⟩ := hall _ hmem
      have hread := escapes_letter hbreak hletter
      rw [Char.ofNat_toNat] at hread
      exact ⟨_, rfl, hread⟩
  | none =>
      dsimp only
      split
      next hsmall =>
        exact ⟨_, rfl, escapes_code (g := .char ch) (by decide) (by decide) (by decide)
          (Nat.lt_succ_of_le hsmall)⟩
      next =>
        split
        next hmiddle =>
          exact ⟨_, rfl, escapes_code (g := .char ch) (by decide) (by decide) (by decide)
            (Nat.lt_succ_of_le hmiddle)⟩
        next =>
          have hcode : (Glyph.char ch).code < Nat.pow 16 8 :=
            Nat.lt_trans (Glyph.char ch).code_lt (by decide)
          exact ⟨_, rfl, escapes_code (by decide) (by decide) (by decide) hcode⟩

/-- The escape of a character, or of half of a pair, stands for it. -/
theorem exists_escapeOf (g : Glyph) : ∃ body, escapeOf g = '\\' :: body ∧ Escapes body [g] := by
  cases g with
  | char ch => exact exists_escapeOf_char ch
  | half h =>
      have hcode : (Glyph.half h).code < Nat.pow 16 4 :=
        Nat.lt_of_le_of_lt h.inRange.2 (by decide)
      exact ⟨_, rfl, escapes_code (by decide) (by decide) (by decide) hcode⟩

/-- A line that is folded behind a backslash adds nothing. -/
theorem Quotes.foldedLine {indent : Nat} (hindent : 0 < indent) {after tail : List Char}
    {text : List Glyph} (hafter : InkFirst after) (hrest : Quotes true after text tail) :
    Quotes true ('\\' :: (Yaml.newLine indent ++ after)) text tail := by
  intro c fuel done h hfuel
  obtain ⟨fuel, rfl⟩ : ∃ n, fuel = n + 1 := ⟨fuel - 1, by omega⟩
  have hnext : c.next.rest = '\n' :: (List.replicate indent ' ' ++ after) := by
    rw [Cursor.rest_next, h]
    rfl
  have hline : c.next.next.rest = [] ++ (List.replicate indent ' ' ++ after) := by
    rw [Cursor.rest_next, hnext]
    rfl
  have hroom : ([] : List Char).length < c.next.next.rest.length + 1 := Nat.succ_pos _
  obtain ⟨between, hbetween, hfold⟩ :=
    quotedBreaks_ends hindent (List.forall_mem_nil _) hafter hline hroom
  obtain ⟨behind, hbehind, hread⟩ := hrest between fuel done hbetween (by
    simp only [List.length_cons, List.length_append] at hfuel
    omega)
  refine ⟨behind, hbehind, ?_⟩
  have hescape : escape c.next = .ok ([], between) := by
    unfold escape
    simp only [Cursor.lineBreak?_of_isTextBreak hnext (by decide), hfold]
    rfl
  unfold quotedText
  rw [h]
  simp [isSpaceOrTab, isBreak, hescape, Bind.bind, Except.bind, hread]

/-- A backslash and what comes behind it stand for some text. -/
theorem Quotes.escaped {body rest tail : List Char} {got text : List Glyph}
    (hbody : Escapes body got) (hrest : Quotes true rest text tail) :
    Quotes true ('\\' :: (body ++ rest)) (got ++ text) tail := by
  intro c fuel done h hfuel
  obtain ⟨fuel, rfl⟩ : ∃ n, fuel = n + 1 := ⟨fuel - 1, by omega⟩
  obtain ⟨between, hbetween, hescape⟩ := hbody c.next rest (by rw [Cursor.rest_next, h]; rfl)
  obtain ⟨behind, hbehind, hread⟩ := hrest between fuel (got.reverse ++ done) hbetween (by
    simp only [List.length_cons, List.length_append] at hfuel
    omega)
  refine ⟨behind, hbehind, ?_⟩
  unfold quotedText
  rw [h]
  simp [isSpaceOrTab, isBreak, hescape, Bind.bind, Except.bind, hread]

/-! ## Whole texts -/

theorem isDirect_space : isDirect ' ' = true := by decide

theorem exists_char_of_is {sort : Char → Bool} {g : Glyph} (h : g.is sort = true) :
    ∃ c, g = .char c ∧ sort c = true := by
  cases g with
  | char c => exact ⟨c, rfl, h⟩
  | half _ => cases h

/-- A character that stands for itself between double marks is a space, or it is neither blank nor
a mark. -/
theorem ink_of_isDirect {c : Char} (hc : isDirect c = true) (hspace : c ≠ ' ') :
    isInk c = true ∧ c ≠ '\\' ∧ c ≠ '\x22' := by
  simp only [isDirect, Bool.and_eq_true, Bool.or_eq_true, bne_iff_ne, ne_eq,
    decide_eq_true_eq] at hc
  obtain ⟨⟨⟨⟨⟨hquote, hbackslash⟩, _⟩, hline⟩, hparagraph⟩, hrange⟩ := hc
  have hne : ∀ other : Char, other.toNat < 0x20 ∨ other.toNat = 0x85 → c ≠ other := by
    rintro other hother rfl
    omega
  have htab := hne '\t' (by decide)
  have hfeed := hne '\n' (by decide)
  have hreturn := hne '\r' (by decide)
  have hnext : c.toNat ≠ 0x85 := by omega
  refine ⟨isInk_iff.mpr ⟨?_, ?_⟩, hbackslash, hquote⟩
  · simp [isSpaceOrTab, hspace, htab]
  · simp [isBreak, hfeed, hreturn, hnext, hline, hparagraph]

section

variable {indent : Nat} {tail : List Char}

/-- What is written of a text that does not start with a space starts with no blank. -/
theorem inkFirst_writeEscaped {s : List Glyph} (hs : ∀ g ∈ s.head?, g ≠ .char ' ')
    (first after : Bool) (column : Nat) :
    InkFirst (writeEscaped indent first after column s ++ '\x22' :: tail) := by
  cases s with
  | nil => exact ⟨'\x22', tail, rfl, by decide⟩
  | cons g s =>
      have hg := hs g rfl
      rw [writeEscaped]
      split
      next hdirect =>
        obtain ⟨c, rfl, hc⟩ := exists_char_of_is hdirect
        have hink := (ink_of_isDirect hc (by simpa using hg)).1
        split
        next =>
          rw [foldDouble, if_neg (by simpa using hg)]
          exact ⟨'\\', _, rfl, by decide⟩
        next => exact ⟨c, _, rfl, hink⟩
      next =>
        obtain ⟨body, hbody, _⟩ := exists_escapeOf g
        simp only [hbody]
        split <;> exact ⟨'\\', _, rfl, by decide⟩

/-- The rest of a text is read as it was, also behind spaces that were written before. -/
def QuotesRest (indent : Nat) (s : List Glyph) (tail : List Char) : Prop :=
  ∀ count first after column,
    Quotes true (List.replicate count ' ' ++
      (writeEscaped indent first after column s ++ '\x22' :: tail))
      (glyphsOf (List.replicate count ' ') ++ s) tail

namespace QuotesRest

variable {s : List Glyph}

theorem now (h : QuotesRest indent s tail) (first after : Bool) (column : Nat) :
    Quotes true (writeEscaped indent first after column s ++ '\x22' :: tail) s tail :=
  h 0 first after column

theorem inkFirst_backslash (rest : List Char) : InkFirst ('\\' :: rest) :=
  ⟨'\\', rest, rfl, by decide⟩

theorem escapes_space : Escapes [' '] [.char (Char.ofNat 0x20)] :=
  escapes_letter (by decide) (by decide)

/-- A text with a space in front is read as it was if the rest is. -/
theorem space (hindent : 0 < indent) (h : QuotesRest indent s tail) :
    QuotesRest indent (.char ' ' :: s) tail := by
  intro count first after column
  rw [writeEscaped, Glyph.is_char, if_pos isDirect_space]
  split
  next hfold =>
    -- The backslash behind the indentation keeps the space.
    have hread := (h.now false false (indent + 2)).escaped escapes_space
    have hline := hread.foldedLine hindent (inkFirst_backslash _)
    have hpadded := hline.padding count (inkFirst_backslash _)
    simpa [foldDouble, List.append_assoc] using hpadded
  next =>
    have hread := h (count + 1) false false (column + 1)
    simpa [List.replicate_succ', List.append_assoc] using hread

theorem direct {c : Char} (hindent : 0 < indent) (hc : isDirect c = true) (hspace : c ≠ ' ')
    (h : QuotesRest indent s tail) : QuotesRest indent (.char c :: s) tail := by
  intro count first after column
  obtain ⟨hink, hmark⟩ := ink_of_isDirect hc hspace
  rw [writeEscaped, Glyph.is_char, if_pos hc]
  split
  next hfold =>
    have hread := (h.now false false (indent + 1)).ink hink (by simpa using hmark)
    have hline := hread.foldedLine hindent ⟨c, _, rfl, hink⟩
    have hpadded := hline.padding count (inkFirst_backslash _)
    simpa [foldDouble, hspace, List.append_assoc] using hpadded
  next =>
    have hread := (h.now false false (column + 1)).ink hink (by simpa using hmark)
    have hpadded := hread.padding count ⟨c, _, rfl, hink⟩
    simpa using hpadded

/-- A rest that starts with a space, behind the backslash that keeps this space. -/
theorem keptSpace (h : QuotesRest indent s tail) (first after : Bool) {column : Nat}
    (hcolumn : column ≤ pageWidth) :
    Quotes true
      ('\\' :: (writeEscaped indent first after column (.char ' ' :: s) ++ '\x22' :: tail))
      (.char ' ' :: s) tail := by
  have hread := (h.now false false (column + 1)).escaped escapes_space
  have hshort : ¬pageWidth < column := Nat.not_lt.mpr hcolumn
  rw [writeEscaped]
  simpa [isDirect_space, hshort] using hread

/-- A text with an escape in front is read as it was if the rest is, whether or not the line is
folded behind the escape. -/
theorem escaped {g : Glyph} (hindent : 0 < indent) (hnarrow : indent + 1 ≤ pageWidth)
    (hg : g.is isDirect = false) (h : QuotesRest indent s tail)
    (hspace : ∀ rest, s = .char ' ' :: rest → QuotesRest indent rest tail) :
    QuotesRest indent (g :: s) tail := by
  intro count first after column
  obtain ⟨body, hbody, hescape⟩ := exists_escapeOf g
  rw [writeEscaped, if_neg (by simp [hg])]
  simp only [hbody]
  split
  next hfold =>
    by_cases hnext : s.head? = some (.char ' ')
    · obtain ⟨rest, rfl⟩ : ∃ rest, s = .char ' ' :: rest := by
        cases s with
        | nil => cases hnext
        | cons d rest =>
            obtain rfl := Option.some.inj hnext
            exact ⟨rest, rfl⟩
      have hread := (hspace rest rfl).keptSpace false true hnarrow
      have hline := hread.foldedLine hindent (inkFirst_backslash _)
      have hpadded := (hline.escaped hescape).padding count (inkFirst_backslash _)
      simpa [foldDouble, hnext, List.append_assoc] using hpadded
    · have hfirst : ∀ d ∈ s.head?, d ≠ .char ' ' := by
        rintro d hd rfl
        exact hnext hd
      have hread := h.now false true indent
      have hline := hread.foldedLine hindent (inkFirst_writeEscaped hfirst _ _ _)
      have hpadded := (hline.escaped hescape).padding count (inkFirst_backslash _)
      simpa [foldDouble, hnext, List.append_assoc] using hpadded
  next =>
    have hread := (h.now false true (column + ('\\' :: body).length)).escaped hescape
    have hpadded := hread.padding count (inkFirst_backslash _)
    simpa [List.append_assoc] using hpadded

end QuotesRest

/-- Every text is read back, also from behind spaces that were written before. -/
theorem quotesRest (hindent : 0 < indent) (hnarrow : indent + 1 ≤ pageWidth) (s : List Glyph) :
    QuotesRest indent s tail ∧ ∀ rest, s = .char ' ' :: rest → QuotesRest indent rest tail := by
  induction s with
  | nil =>
      refine ⟨fun count first after column => ?_, nofun⟩
      exact .padding count ⟨'\x22', tail, rfl, by decide⟩ (.closeDouble tail)
  | cons g s ih =>
      obtain ⟨ih, ihSpace⟩ := ih
      refine ⟨?_, fun rest hrest => (List.cons.inj hrest).2 ▸ ih⟩
      by_cases hspace : g = .char ' '
      · rw [hspace]
        exact ih.space hindent
      · cases hg : g.is isDirect with
        | true =>
            obtain ⟨c, rfl, hc⟩ := exists_char_of_is hg
            exact ih.direct hindent hc (by simpa using hspace)
        | false => exact ih.escaped hindent hnarrow hg ihSpace

end

/-- A text between double marks is read as it was. -/
theorem quotedScalar_writeDouble {indent column : Nat} (hindent : 0 < indent)
    (hnarrow : indent + 1 ≤ pageWidth) {s : List Glyph} {tail : List Char} {c : Cursor}
    (h : c.rest = writeDouble indent column s ++ tail) :
    ∃ behind : Cursor, behind.rest = tail ∧
      quotedScalar true c.next = .ok (s, behind) := by
  have hrest : c.next.rest =
      writeEscaped indent true false (column + 1) s ++ '\x22' :: tail := by
    rw [Cursor.rest_next, h, writeDouble, List.cons_append, List.cons_append, List.append_assoc]
    rfl
  have hread : QuotesRest indent s tail := (quotesRest hindent hnarrow s).1
  exact hread.now true false (column + 1) c.next (c.next.rest.length + 1) [] hrest
    (by rw [hrest]; exact Nat.lt_succ_self _)

end Yaml

end Clickpath
