import Clickpath.Json.Literal
import Clickpath.Proofs.Chars.Reading
import Clickpath.Proofs.Script.Lexis

/-! # Closed texts

A text is closed if it ends in code, so that whatever stands behind it is read as if it stood alone.
Literals are closed whatever texts they hold, and so are plain code and comments with the ends of
their lines. What is left of each of them is said here once for all.
-/

namespace Clickpath.Script.Dialect

/-! ## Escapes -/

theorem resolve_backslash_some {behind : List Nat} {length unit : Nat}
    (hcode : letterCode? behind = some (length, unit)) :
    resolve 0 false (backslash :: behind) = unit :: resolve length false behind := by
  rw [resolve, hcode, if_neg (by decide)]

theorem resolve_backslash_none {behind : List Nat} (hcode : letterCode? behind = none) :
    resolve 0 false (backslash :: behind) = backslash :: resolve 0 true behind := by
  rw [resolve, hcode, if_neg (by decide)]

theorem resolve_odd (code : Nat) (behind : List Nat) :
    resolve 0 true (code :: behind) = code :: resolve 0 false behind := by
  rw [resolve, Bool.or_true, if_pos rfl]

/-- A backslash and a character that opens no letter code are read as they are, and what stands
behind them is read as if it stood alone. -/
theorem settled_escape (l : Dialect) {c : Char} (hsmall : c.toNat < 0x10000) (hc : c ≠ 'u') :
    l.Settled ['\\', c] [backslash, c.toNat] := by
  have hcodes : ['\\', c].flatMap l.codes = [backslash, c.toNat] := by
    rw [List.flatMap_cons, List.flatMap_cons, codes_of_lt l hsmall, codes_of_lt l (by decide)]
    rfl
  intro rest
  cases l with
  | java =>
      -- The backslash remains, and behind it the character is read as it is, whatever it is.
      have hnone : letterCode? (c.toNat :: rest.flatMap java.codes) = none := by
        have hletter : ¬isLetterU c.toNat = true := by
          rw [isLetterU, beq_iff_eq, Char.toNat_inj]
          exact hc
        rw [letterCode?, List.takeWhile_cons_of_neg hletter]
        rfl
      rw [read_java, read_java, List.flatMap_append, hcodes, List.cons_append,
        List.singleton_append, resolve_backslash_none hnone, resolve_odd]
      rfl
  | javaScript => rw [settled_of_ne_java (by decide) ['\\', c] rest, hcodes]
  | python => rw [settled_of_ne_java (by decide) ['\\', c] rest, hcodes]

/-- Hexadecimal digits are characters of ASCII, and neither quotation marks nor backslashes. -/
theorem of_isHexDigit {c : Char} (hc : Chars.isHexDigit c = true) :
    c.toNat < 0x80 ∧ c ≠ 'u' ∧ c ≠ '\x22' ∧ c ≠ '\\' := by
  have hsmall : c.toNat < 0x80 := by
    rw [Chars.isHexDigit, Chars.hexValue?] at hc
    simp only [Char.le_def, UInt32.le_iff_toNat_le, Bool.and_eq_true, decide_eq_true_eq] at hc
    have hcode : c.toNat = c.val.toNat := rfl
    split at hc
    next h => exact Nat.lt_of_le_of_lt (hcode ▸ h.2) (by decide)
    next =>
      split at hc
      next h => exact Nat.lt_of_le_of_lt (hcode ▸ h.2) (by decide)
      next =>
        split at hc
        next h => exact Nat.lt_of_le_of_lt (hcode ▸ h.2) (by decide)
        next => cases hc
  refine ⟨hsmall, ?_, ?_, ?_⟩
  · rintro rfl
    exact absurd hc (by decide)
  · rintro rfl
    exact absurd hc (by decide)
  · rintro rfl
    exact absurd hc (by decide)

/-- A letter that no other follows opens a letter code if it has four digits. -/
theorem letterCode?_letter {codes : List Nat}
    (hfirst : ∀ code ∈ codes.head?, isLetterU code = false) :
    letterCode? ('u'.toNat :: codes) =
      if (codes.take 4).length == 4 && ((codes.take 4).map Char.ofNat).all Chars.isHexDigit then
        some (5, Chars.hexNumber ((codes.take 4).map Char.ofNat))
      else none := by
  have hletters : ('u'.toNat :: codes).takeWhile isLetterU = ['u'.toNat] := by
    rw [List.takeWhile_cons_of_pos (by decide)]
    cases codes with
    | nil => rfl
    | cons code codes =>
        rw [List.takeWhile_cons_of_neg (Bool.eq_false_iff.mp (hfirst code rfl))]
  unfold letterCode?
  rw [hletters]
  rfl

/-- The digits behind a letter are the letter code. -/
theorem letterCode?_hexDigits {unit : Nat} (hunit : unit < 0x10000) (rest : List Nat) :
    letterCode? ('u'.toNat :: ((Chars.hexDigits 4 unit).map Char.toNat ++ rest)) =
      some (5, unit) := by
  have hlength := Chars.length_hexDigits 4 unit
  have hdigits : (((Chars.hexDigits 4 unit).map Char.toNat ++ rest).take 4).map Char.ofNat =
      Chars.hexDigits 4 unit := by
    have hback : Char.ofNat ∘ Char.toNat = id := funext Char.ofNat_toNat
    rw [List.take_left' (by rw [List.length_map, hlength]), List.map_map, hback, List.map_id]
  have hcount : (((Chars.hexDigits 4 unit).map Char.toNat ++ rest).take 4).length = 4 := by
    rw [← List.length_map Char.ofNat, hdigits, hlength]
  have hfirst : ∀ code ∈ ((Chars.hexDigits 4 unit).map Char.toNat ++ rest).head?,
      isLetterU code = false := by
    cases hwritten : Chars.hexDigits 4 unit with
    | nil => rw [hwritten] at hlength; cases hlength
    | cons first digits =>
        have hmem : first ∈ Chars.hexDigits 4 unit := hwritten ▸ List.mem_cons_self
        have hne := (of_isHexDigit (Chars.isHexDigit_of_mem_hexDigits hmem)).2.1
        rintro _ ⟨⟩
        rw [isLetterU, beq_eq_false_iff_ne]
        exact fun h => hne (Char.toNat_inj.mp h)
  rw [letterCode?_letter hfirst, hcount, hdigits, Chars.all_isHexDigit_hexDigits,
    Chars.hexNumber_hexDigits_of_lt hunit]
  rfl

/-- The codes of an escape are those of its letter and its digits. -/
theorem flatMap_codes_unitEscape (l : Dialect) (unit : Nat) :
    (Json.unitEscape unit).flatMap l.codes =
      backslash :: 'u'.toNat :: (Chars.hexDigits 4 unit).map Char.toNat := by
  have hsmall : ∀ c ∈ Json.unitEscape unit, l.codes c = [c.toNat] := by
    intro c hc
    apply codes_of_lt
    rcases List.mem_cons.mp hc with rfl | hc
    · decide
    · rcases List.mem_cons.mp hc with rfl | hc
      · decide
      · have := (of_isHexDigit (Chars.isHexDigit_of_mem_hexDigits hc)).1
        omega
  rw [List.flatMap_def, List.map_congr_left hsmall, ← List.flatMap_def, ← List.map_eq_flatMap]
  rfl

/-- An escape with digits is read as the code unit where letter codes are resolved. -/
theorem settled_unitEscape_java {unit : Nat} (hunit : unit < 0x10000) :
    java.Settled (Json.unitEscape unit) [unit] := by
  intro rest
  -- Once a letter code is resolved, all of its codes are passed over, whichever they are.
  have hdrop : ∀ (skipped tail : List Nat) (length : Nat), skipped.length = length →
      resolve length false (skipped ++ tail) = resolve 0 false tail := by
    intro skipped tail
    induction skipped with
    | nil =>
        rintro _ rfl
        rfl
    | cons c skipped ih =>
        rintro _ rfl
        exact ih _ rfl
  rw [read_java, read_java, List.flatMap_append, flatMap_codes_unitEscape, List.cons_append,
    List.cons_append, resolve_backslash_some (letterCode?_hexDigits hunit _), ← List.cons_append]
  refine congrArg (unit :: ·) (hdrop _ _ 5 ?_)
  rw [List.length_cons, List.length_map, Chars.length_hexDigits]

/-! ## Contents of literals -/

/-- A text inside of a literal does not end it, and leaves no escape open. -/
def InLiteral (l : Dialect) (s : List Char) : Prop :=
  ∃ out, l.Settled s out ∧
    ∀ rest, erase l.markCodes .literal (out ++ rest) = erase l.markCodes .literal rest

theorem InLiteral.nil (l : Dialect) : l.InLiteral [] := ⟨[], .nil l, fun _ => rfl⟩

theorem InLiteral.append {l : Dialect} {s t : List Char} (hs : l.InLiteral s)
    (ht : l.InLiteral t) : l.InLiteral (s ++ t) := by
  obtain ⟨out, hout, herase⟩ := hs
  obtain ⟨more, hmore, herase'⟩ := ht
  refine ⟨out ++ more, hout.append hmore, ?_⟩
  intro rest
  rw [List.append_assoc, herase, herase']

/-- What has neither marks nor backslashes leaves a literal as it is. -/
theorem erase_literal_append {mark out : List Nat}
    (hout : ∀ code ∈ out, code ≠ backslash ∧ code ≠ quote) (rest : List Nat) :
    erase mark .literal (out ++ rest) = erase mark .literal rest := by
  induction out with
  | nil => rfl
  | cons code out ih =>
      obtain ⟨hbackslash, hquote⟩ := hout code List.mem_cons_self
      rw [List.cons_append, erase, if_neg (by rwa [beq_iff_eq]), if_neg (by rwa [beq_iff_eq]),
        ih fun other hother => hout other (List.mem_cons_of_mem _ hother)]

theorem erase_escape (mark : List Nat) (code : Nat) (rest : List Nat) :
    erase mark .literal (backslash :: code :: rest) = erase mark .literal rest :=
  rfl

theorem inLiteral_escape (l : Dialect) {c : Char} (hsmall : c.toNat < 0x10000) (hc : c ≠ 'u') :
    l.InLiteral ['\\', c] :=
  ⟨_, settled_escape l hsmall hc, erase_escape _ _⟩

/-- An escape by four digits leaves no escape open, in none of the languages. -/
theorem inLiteral_unitEscape (l : Dialect) {unit : Nat} (hunit : unit < 0x10000)
    (hbackslash : unit ≠ backslash) (hquote : unit ≠ quote) :
    l.InLiteral (Json.unitEscape unit) := by
  by_cases hl : l = java
  · subst hl
    refine ⟨_, settled_unitEscape_java hunit, erase_literal_append ?_⟩
    intro code hcode
    rw [List.mem_singleton.mp hcode]
    exact ⟨hbackslash, hquote⟩
  · refine ⟨_, settled_of_ne_java hl _, ?_⟩
    intro rest
    -- The letter is what the backslash escapes; the digits behind it are like other characters.
    rw [flatMap_codes_unitEscape, List.cons_append, List.cons_append, erase_escape]
    apply erase_literal_append
    intro code hcode
    obtain ⟨c, hc, rfl⟩ := List.mem_map.mp hcode
    obtain ⟨_, _, hcquote, hcbackslash⟩ := of_isHexDigit (Chars.isHexDigit_of_mem_hexDigits hc)
    exact ⟨fun h => hcbackslash (Char.toNat_inj.mp h), fun h => hcquote (Char.toNat_inj.mp h)⟩

/-- A character by its code units leaves no escape open. -/
theorem inLiteral_unicodeEscape (l : Dialect) {c : Char} (hbackslash : c ≠ '\\')
    (hquote : c ≠ '\x22') : l.InLiteral (Json.unicodeEscape c) := by
  rw [Json.unicodeEscape]
  split
  next hsmall =>
    exact inLiteral_unitEscape l hsmall (fun h => hbackslash (Char.toNat_inj.mp h))
      (fun h => hquote (Char.toNat_inj.mp h))
  next =>
    have hmax : c.toNat < 0x110000 := by
      have := c.valid
      rcases this with h | h
      · exact Nat.lt_trans h (by decide)
      · exact h.2
    have hback : backslash < 0xD800 := by decide
    have hquot : quote < 0xD800 := by decide
    apply InLiteral.append
    · apply inLiteral_unitEscape <;> omega
    · apply inLiteral_unitEscape <;> omega

/-- A character stays in its literal as it is written. -/
theorem inLiteral_literalChar (l : Dialect) (ascii : Bool) (c : Char) :
    l.InLiteral (Json.literalChar ascii c) := by
  rw [Json.literalChar]
  split
  next => exact inLiteral_escape l (by decide) (by decide)
  next hquote =>
  rw [beq_iff_eq] at hquote
  split
  next => exact inLiteral_escape l (by decide) (by decide)
  next hbackslash =>
  rw [beq_iff_eq] at hbackslash
  have hplain : l.InLiteral [c] := by
    have hcodes : [c].flatMap l.codes = l.codes c := List.flatMap_singleton _ _
    refine ⟨l.codes c, ?_, erase_literal_append ?_⟩
    · rw [← hcodes]
      exact settled_of_notMem l (by rw [List.mem_singleton]; exact Ne.symm hbackslash)
    · intro code hcode
      exact ⟨ne_of_mem_codes hcode (by decide) hbackslash,
        ne_of_mem_codes hcode (by decide) hquote⟩
  have hunicode := inLiteral_unicodeEscape l hbackslash hquote
  -- Which of the other characters are escaped does not matter: they may stand as they are, too.
  repeat' split
  all_goals first
    | exact inLiteral_escape l (by decide) (by decide)
    | exact hunicode
    | exact hplain

theorem inLiteral_flatMap (l : Dialect) (ascii : Bool) (s : List Char) :
    l.InLiteral (s.flatMap (Json.literalChar ascii)) := by
  induction s with
  | nil => exact .nil l
  | cons c s ih =>
      rw [List.flatMap_cons]
      exact (inLiteral_literalChar l ascii c).append ih

/-! ## Closed texts -/

/-- A text ends in code, so that what stands behind it is read as if it stood alone. -/
def Closed (l : Dialect) (s : List Char) : Prop :=
  ∀ rest, l.skeleton (s ++ rest) = l.skeleton s ++ l.skeleton rest

theorem skeleton_nil (l : Dialect) : l.skeleton [] = [] := by
  cases l <;> rfl

theorem closed_nil (l : Dialect) : l.Closed [] := by
  intro rest
  rw [skeleton_nil]
  rfl

theorem Closed.append {l : Dialect} {s t : List Char} (hs : l.Closed s) (ht : l.Closed t) :
    l.Closed (s ++ t) := by
  intro rest
  rw [List.append_assoc, hs, ht, hs, List.append_assoc]

/-- What is left of a text, if that is the same before all texts. -/
theorem skeleton_eq_of_forall {l : Dialect} {s : List Char} {out : List Nat}
    (hs : ∀ rest, l.skeleton (s ++ rest) = out ++ l.skeleton rest) : l.skeleton s = out := by
  have hempty := hs []
  rw [List.append_nil, skeleton_nil, List.append_nil] at hempty
  exact hempty

theorem closed_of_forall {l : Dialect} {s : List Char} {out : List Nat}
    (hs : ∀ rest, l.skeleton (s ++ rest) = out ++ l.skeleton rest) : l.Closed s := by
  intro rest
  rw [hs, skeleton_eq_of_forall hs]

/-- A mark starts with a character of its own. -/
theorem isPrefixOf_markCodes {l : Dialect} {code : Nat} (hslash : code ≠ '/'.toNat)
    (hhash : code ≠ '#'.toNat) (rest : List Nat) :
    l.markCodes.isPrefixOf (code :: rest) = false := by
  have hslash' : ('/'.toNat == code) = false := beq_eq_false_iff_ne.mpr (Ne.symm hslash)
  have hhash' : ('#'.toNat == code) = false := beq_eq_false_iff_ne.mpr (Ne.symm hhash)
  cases l with
  | java => rw [markCodes, mark, List.map_cons, List.isPrefixOf_cons_cons, hslash', Bool.false_and]
  | javaScript =>
      rw [markCodes, mark, List.map_cons, List.isPrefixOf_cons_cons, hslash', Bool.false_and]
  | python => rw [markCodes, mark, List.map_cons, List.isPrefixOf_cons_cons, hhash', Bool.false_and]

/-- Nothing of a text is left of its literal but the marks. -/
theorem skeleton_literalChars_append (l : Dialect) (ascii : Bool) (s rest : List Char) :
    l.skeleton (Json.literalChars ascii s ++ rest) = [quote, quote] ++ l.skeleton rest := by
  obtain ⟨out, hout, herase⟩ := inLiteral_flatMap l ascii s
  have hmark : l.Settled ['\x22'] [quote] := by
    have hsettled : l.Settled ['\x22'] (['\x22'].flatMap l.codes) :=
      settled_of_notMem l (by decide)
    rwa [List.flatMap_singleton, codes_of_lt l (by decide)] at hsettled
  have hread : l.Settled (Json.literalChars ascii s) ([quote] ++ out ++ [quote]) :=
    (hmark.append hout).append hmark
  have hprefix : ∀ tail, l.markCodes.isPrefixOf (quote :: tail) = false :=
    isPrefixOf_markCodes (by decide) (by decide)
  rw [skeleton, hread, List.append_assoc, List.append_assoc, List.singleton_append, erase, hprefix,
    if_neg Bool.false_ne_true, if_pos (beq_self_eq_true _), herase]
  rfl

/-- A literal is closed, and only its quotation marks are left. -/
theorem closed_literal (l : Dialect) (ascii : Bool) (s : String) :
    l.Closed (Json.literal ascii s).toList ∧
      l.skeleton (Json.literal ascii s).toList = [quote, quote] := by
  rw [Json.literal, String.toList_ofList]
  have hleft := skeleton_literalChars_append l ascii s.toList
  exact ⟨closed_of_forall hleft, skeleton_eq_of_forall hleft⟩

/-- A character that opens nothing, in any of the languages. -/
def isPlain (c : Char) : Bool := !(['\x22', '\\', '/', '#'].contains c)

theorem ne_of_isPlain {c : Char} (hc : isPlain c = true) :
    c ≠ '\x22' ∧ c ≠ '\\' ∧ c ≠ '/' ∧ c ≠ '#' := by
  refine ⟨?_, ?_, ?_, ?_⟩ <;> rintro rfl <;> exact absurd hc (by decide)

theorem erase_code_append {l : Dialect} {out : List Nat}
    (hout : ∀ code ∈ out, code ≠ quote ∧ code ≠ '/'.toNat ∧ code ≠ '#'.toNat) (rest : List Nat) :
    erase l.markCodes .code (out ++ rest) = out ++ erase l.markCodes .code rest := by
  induction out with
  | nil => rfl
  | cons code out ih =>
      obtain ⟨hquote, hslash, hhash⟩ := hout code List.mem_cons_self
      rw [List.cons_append, erase, isPrefixOf_markCodes hslash hhash, if_neg Bool.false_ne_true,
        if_neg (by rwa [beq_iff_eq]),
        ih fun other hother => hout other (List.mem_cons_of_mem _ hother), List.cons_append]

/-- Plain text is left as it is. -/
theorem skeleton_plain_append (l : Dialect) {s : List Char} (hs : s.all isPlain = true)
    (rest : List Char) : l.skeleton (s ++ rest) = s.flatMap l.codes ++ l.skeleton rest := by
  have hbackslash : '\\' ∉ s := fun hmem => (ne_of_isPlain (List.all_eq_true.mp hs _ hmem)).2.1 rfl
  rw [skeleton, settled_of_notMem l hbackslash, skeleton]
  apply erase_code_append
  intro code hcode
  obtain ⟨c, hc, hcode⟩ := List.mem_flatMap.mp hcode
  obtain ⟨hquote, _, hslash, hhash⟩ := ne_of_isPlain (List.all_eq_true.mp hs c hc)
  exact ⟨ne_of_mem_codes hcode (by decide) hquote, ne_of_mem_codes hcode (by decide) hslash,
    ne_of_mem_codes hcode (by decide) hhash⟩

/-- Plain code is closed and left as it is. -/
theorem closed_plain (l : Dialect) {s : List Char} (hs : s.all isPlain = true) :
    l.Closed s ∧ l.skeleton s = s.flatMap l.codes :=
  ⟨closed_of_forall (skeleton_plain_append l hs),
    skeleton_eq_of_forall (skeleton_plain_append l hs)⟩

theorem closed_lineEnd (l : Dialect) : l.Closed ['\n'] ∧ l.skeleton ['\n'] = [lineEnd] := by
  have hplain := closed_plain l (s := ['\n']) (by decide)
  rwa [List.flatMap_singleton, codes_of_lt l (by decide)] at hplain

/-! ## Comments -/

theorem erase_comment_append {mark out : List Nat} (hout : lineEnd ∉ out) (rest : List Nat) :
    erase mark .comment (out ++ lineEnd :: rest) = lineEnd :: erase mark .code rest := by
  induction out with
  | nil => rfl
  | cons code out ih =>
      rw [List.mem_cons, not_or] at hout
      rw [List.cons_append, erase, if_neg (by rw [beq_iff_eq]; exact Ne.symm hout.1), ih hout.2]

/-- The mark of a comment and the codes behind it, up to the end of the line, are taken away. -/
theorem erase_markCodes_append (l : Dialect) {out : List Nat} (hout : lineEnd ∉ out)
    (rest : List Nat) :
    erase l.markCodes .code (l.markCodes ++ out ++ lineEnd :: rest) =
      lineEnd :: erase l.markCodes .code rest := by
  have hends : lineEnd ∉ l.markCodes := by cases l <;> decide
  rw [List.append_assoc]
  have hprefix : l.markCodes.isPrefixOf (l.markCodes ++ (out ++ lineEnd :: rest)) = true :=
    List.isPrefixOf_iff_prefix.mpr (List.prefix_append _ _)
  cases hmark : l.markCodes with
  | nil => cases l <;> cases hmark
  | cons first more =>
      rw [hmark] at hends hprefix
      have hmore : lineEnd ∉ more ++ out := by
        intro hmem
        cases List.mem_append.mp hmem with
        | inl hmem => exact hends (List.mem_cons_of_mem _ hmem)
        | inr hmem => exact hout hmem
      rw [List.cons_append] at hprefix ⊢
      rw [erase, hprefix, if_pos rfl, ← List.append_assoc, erase_comment_append hmore]

/-- A comment reaches to the end of its line, if its text has no line end and, where letter codes
are resolved, no backslash either. -/
theorem skeleton_comment_append (l : Dialect) {text : List Char} (hend : '\n' ∉ text)
    (hbackslash : l = java → '\\' ∉ text) (rest : List Char) :
    l.skeleton (l.mark ++ text ++ ['\n'] ++ rest) = [lineEnd] ++ l.skeleton rest := by
  have hsettled : l.Settled text (text.flatMap l.codes) := by
    by_cases hl : l = java
    · exact settled_of_notMem l (hbackslash hl)
    · exact settled_of_ne_java hl text
  have hmark : l.Settled l.mark l.markCodes := by
    have hcodes : l.mark.flatMap l.codes = l.markCodes := by cases l <;> rfl
    rw [← hcodes]
    exact settled_of_notMem l (by cases l <;> decide)
  have hline : l.Settled ['\n'] [lineEnd] := by
    have hcodes : ['\n'].flatMap l.codes = [lineEnd] := by cases l <;> rfl
    rw [← hcodes]
    exact settled_of_notMem l (by decide)
  have hcodes : lineEnd ∉ text.flatMap l.codes := by
    intro hmem
    obtain ⟨c, hc, hcode⟩ := List.mem_flatMap.mp hmem
    exact ne_of_mem_codes hcode (by decide) (ne_of_mem_of_not_mem hc hend) rfl
  rw [skeleton, (hmark.append hsettled).append hline, List.append_assoc, List.singleton_append,
    erase_markCodes_append l hcodes]
  rfl

/-- A comment with the end of its line is closed, and the end of the line is left. -/
theorem closed_comment (l : Dialect) {text : List Char} (hend : '\n' ∉ text)
    (hbackslash : l = java → '\\' ∉ text) :
    l.Closed (l.mark ++ text ++ ['\n']) ∧ l.skeleton (l.mark ++ text ++ ['\n']) = [lineEnd] := by
  have hleft := skeleton_comment_append l hend hbackslash
  exact ⟨closed_of_forall hleft, skeleton_eq_of_forall hleft⟩

end Clickpath.Script.Dialect
