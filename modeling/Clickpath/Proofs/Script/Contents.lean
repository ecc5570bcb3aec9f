import Clickpath.Proofs.Script.ClosedTexts
import Clickpath.Proofs.Script.Literal

/-! # Reading literals

A literal is read from the codes of a script, as its language reads them. Where letter codes are
resolved before literals are told apart from code, what they stand for is inside of a literal as if
it had been written there; elsewhere they are escapes of the literal, and it can be read from the
characters as they stand. Either way the literal of a text denotes that text.
-/

namespace Clickpath.Script.Dialect

/-! ## Reading -/

/-- How many codes an escape takes behind its backslash, and the unit for which it stands. A letter
code is an escape unless it was to be resolved before, and has one letter then. -/
def escapeIn? (l : Dialect) (behind : List Nat) : Option (Nat × Nat) :=
  match behind with
  | [] => none
  | c :: _ =>
    if isLetterU c then
      if l = java then none else (letterCode? behind).filter fun found => found.1 == 5
    else (escape? (Char.ofNat c)).map fun unit => (1, unit)

/-- The units of a code that stands for itself; half of a pair is a unit of its own. -/
def unitsOf (l : Dialect) (code : Nat) : List Nat :=
  match charOf? code with
  | some c => l.units c
  | none => [code]

def endsLine (l : Dialect) (code : Nat) : Bool := (charOf? code).any l.isLineEnd

/-- Adds units in front of those that were read from codes. -/
def withUnits (units : List Nat) (read : Option (List Nat × List Nat)) :
    Option (List Nat × List Nat) :=
  read.map fun (more, behind) => (units ++ more, behind)

/-- The units of a literal up to its closing quotation mark, and the codes behind that. It is given
how many codes belong to an escape that was read. -/
def contents? (l : Dialect) : Nat → List Nat → Option (List Nat × List Nat)
  | _, [] => none
  | skip + 1, _ :: rest => l.contents? skip rest
  | 0, c :: rest =>
    if c == quote then some ([], rest)
    else if c == backslash then
      match l.escapeIn? rest with
      | some (length, unit) => withUnits [unit] (l.contents? length rest)
      | none => none
    else if l.endsLine c then none
    else withUnits (l.unitsOf c) (l.contents? 0 rest)

/-- Three quotation marks open a text of many lines, which is a literal of another kind. -/
def opensTextBlock (l : Dialect) (codes : List Nat) : Bool :=
  l != javaScript && [quote, quote, quote].isPrefixOf codes

/-- The string that the literal at the front of codes denotes, and the codes behind the literal. -/
def stringIn? (l : Dialect) (codes : List Nat) : Option (String × List Nat) :=
  match codes with
  | [] => none
  | c :: rest =>
    if c != quote || l.opensTextBlock codes then none
    else match l.contents? 0 rest with
      | some (units, behind) => (l.characters? units).map fun s => (String.ofList s, behind)
      | none => none

/-! ## Units -/

theorem withUnits_withUnits (first second : List Nat) (read : Option (List Nat × List Nat)) :
    withUnits first (withUnits second read) = withUnits (first ++ second) read := by
  simp [withUnits, Function.comp_def]

theorem withUnits_nil (read : Option (List Nat × List Nat)) : withUnits [] read = read := by
  simp [withUnits]

/-- The codes of an escape are passed over, whichever they are. -/
theorem contents?_append {l : Dialect} {length : Nat} {passed : List Nat}
    (hlength : passed.length = length) (rest : List Nat) :
    l.contents? length (passed ++ rest) = l.contents? 0 rest := by
  subst hlength
  induction passed with
  | nil => rfl
  | cons c passed ih => exact ih

theorem contents?_escape {l : Dialect} {passed rest : List Nat} {unit : Nat}
    (hescape : l.escapeIn? (passed ++ rest) = some (passed.length, unit)) :
    l.contents? 0 (backslash :: (passed ++ rest)) = withUnits [unit] (l.contents? 0 rest) := by
  have hbackslash : (backslash == quote) = false := by decide
  rw [contents?, hbackslash, if_neg Bool.false_ne_true, if_pos (beq_self_eq_true _), hescape]
  exact congrArg (withUnits [unit]) (contents?_append rfl rest)

theorem contents?_plain {l : Dialect} {code : Nat} (hquote : code ≠ quote)
    (hbackslash : code ≠ backslash) (hend : l.endsLine code = false) (rest : List Nat) :
    l.contents? 0 (code :: rest) = withUnits (l.unitsOf code) (l.contents? 0 rest) := by
  rw [contents?, beq_eq_false_iff_ne.mpr hquote, beq_eq_false_iff_ne.mpr hbackslash, hend]
  rfl

/-- A text inside of a literal is read as these units, whatever stands behind it. -/
def Spells (l : Dialect) (s : List Char) (units : List Nat) : Prop :=
  ∃ out, l.Settled s out ∧
    ∀ rest, l.contents? 0 (out ++ rest) = withUnits units (l.contents? 0 rest)

theorem Spells.nil (l : Dialect) : l.Spells [] [] :=
  ⟨[], .nil l, fun _ => (withUnits_nil _).symm⟩

theorem Spells.append {l : Dialect} {s t : List Char} {units more : List Nat}
    (hs : l.Spells s units) (ht : l.Spells t more) : l.Spells (s ++ t) (units ++ more) := by
  obtain ⟨out, hout, hunits⟩ := hs
  obtain ⟨out', hout', hmore⟩ := ht
  refine ⟨out ++ out', hout.append hout', ?_⟩
  intro rest
  rw [List.append_assoc, hunits, hmore, withUnits_withUnits]

/-! ## Characters as they are written -/

/-- A letter behind a backslash is read as the unit for which it stands. -/
theorem spells_escape (l : Dialect) {letter : Char} {unit : Nat}
    (hletter : escape? letter = some unit) : l.Spells ['\\', letter] [unit] := by
  have hne : letter ≠ 'u' := by
    rintro rfl
    cases hletter
  have hsmall : letter.toNat < 0x10000 := by
    unfold escape? at hletter
    split at hletter <;> first | decide | cases hletter
  refine ⟨_, settled_escape l hsmall hne, ?_⟩
  intro rest
  have hescape : l.escapeIn? ([letter.toNat] ++ rest) = some (1, unit) := by
    have hu : isLetterU letter.toNat = false := by
      rw [isLetterU, beq_eq_false_iff_ne]
      exact fun h => hne (Char.toNat_inj.mp h)
    rw [List.singleton_append, escapeIn?, hu, if_neg Bool.false_ne_true, Char.ofNat_toNat, hletter]
    rfl
  exact contents?_escape hescape

/-- A code unit that opens and ends nothing stands in a literal as it is. -/
theorem contents?_unit {unit : Nat} (hsmall : unit < 0x10000)
    (hspecial : ∀ c ∈ ['\x22', '\\', '\n', '\r'], unit ≠ c.toNat) (rest : List Nat) :
    java.contents? 0 (unit :: rest) = withUnits [unit] (java.contents? 0 rest) := by
  have hquote : unit ≠ quote := hspecial _ (by decide)
  have hbackslash : unit ≠ backslash := hspecial _ (by decide)
  have hunits : java.endsLine unit = false ∧ java.unitsOf unit = [unit] := by
    rw [endsLine, unitsOf, charOf?]
    split
    next hvalid =>
      have hcode : (Char.ofNat unit).toNat = unit := by
        rw [Char.ofNat, dif_pos hvalid]
        rfl
      constructor
      · have hline : Char.ofNat unit ≠ '\n' := by
          intro h
          exact hspecial '\n' (by decide) (by rw [← hcode, h])
        have hreturn : Char.ofNat unit ≠ '\r' := by
          intro h
          exact hspecial '\r' (by decide) (by rw [← hcode, h])
        simp [isLineEnd, hline, hreturn]
      · simp [units, utf16, hcode, hsmall]
    next => exact ⟨rfl, rfl⟩
  rw [contents?_plain hquote hbackslash hunits.1, hunits.2]

/-- An escape by four digits is read as its unit, unless a letter code for a mark or a line end
would be resolved to that. -/
theorem spells_unitEscape (l : Dialect) {unit : Nat} (hsmall : unit < 0x10000)
    (hspecial : ∀ c ∈ ['\x22', '\\', '\n', '\r'], unit ≠ c.toNat) :
    l.Spells (Json.unitEscape unit) [unit] := by
  by_cases hl : l = java
  · subst hl
    exact ⟨_, settled_unitEscape_java hsmall, contents?_unit hsmall hspecial⟩
  · refine ⟨_, settled_of_ne_java hl _, ?_⟩
    intro rest
    rw [flatMap_codes_unitEscape]
    apply contents?_escape
    have hcode := letterCode?_hexDigits hsmall rest
    rw [List.cons_append] at *
    rw [escapeIn?, if_pos (by decide), if_neg hl, hcode]
    simp [Chars.length_hexDigits]

/-- A character that is none of the special ones may be written by its code units. -/
theorem spells_unicodeEscape (l : Dialect) {c : Char} (hc : c ∉ ['\x22', '\\', '\n', '\r']) :
    l.Spells (Json.unicodeEscape c) (utf16 c) := by
  have hvalid : c.toNat < 0x110000 := by
    rcases c.valid with h | h
    · exact Nat.lt_trans h (by decide)
    · exact h.2
  unfold Json.unicodeEscape utf16
  split
  next hsmall =>
    refine spells_unitEscape l hsmall ?_
    rintro special hspecial heq
    exact hc (Char.toNat_inj.mp heq ▸ hspecial)
  next hlarge =>
    -- Halves of pairs lie beyond all special characters.
    have hspecial : ∀ unit, 0xD800 ≤ unit → ∀ c ∈ ['\x22', '\\', '\n', '\r'], unit ≠ c.toNat := by
      intro unit hunit special hmem heq
      have hsmall : ['\x22', '\\', '\n', '\r'].all (fun c => c.toNat < 0xD800) = true := by decide
      have := of_decide_eq_true (List.all_eq_true.mp hsmall special hmem)
      omega
    exact (spells_unitEscape l (by omega) (hspecial _ (Nat.le_add_right _ _))).append
      (spells_unitEscape l (by omega) (hspecial _ (by omega)))

/-- A character that means nothing in a literal is read as itself. -/
theorem spells_plain {l : Dialect} {c : Char} (hquote : c ≠ '\x22') (hbackslash : c ≠ '\\')
    (hend : l.isLineEnd c = false) (hcodes : l.codes c = [c.toNat]) : l.Spells [c] (l.units c) := by
  have hsettled : l.Settled [c] ([c].flatMap l.codes) :=
    settled_of_notMem l (by rw [List.mem_singleton]; exact Ne.symm hbackslash)
  rw [List.flatMap_singleton, hcodes] at hsettled
  refine ⟨_, hsettled, ?_⟩
  intro rest
  have hread : l.endsLine c.toNat = false ∧ l.unitsOf c.toNat = l.units c := by
    rw [endsLine, unitsOf, charOf?_toNat]
    exact ⟨hend, rfl⟩
  rw [List.singleton_append, contents?_plain (fun h => hquote (Char.toNat_inj.mp h))
    (fun h => hbackslash (Char.toNat_inj.mp h)) hread.1, hread.2]

/-- A character is read as its units, however it is written in a literal of the language. -/
theorem spells_literalChar (l : Dialect) (c : Char) :
    l.Spells (Json.literalChar l.asciiLiterals c) (l.units c) := by
  have hunits (hsmall : c.toNat < 0x10000) : l.units c = [c.toNat] := by
    cases l with
    | python => rfl
    | java | javaScript => exact if_pos hsmall
  by_cases hc : c ∈ ['\x22', '\\', '\n', '\r']
  · -- The special characters have escapes with a letter, so that no letter code is needed for them.
    have hescape : ∃ letter, Json.literalChar l.asciiLiterals c = ['\\', letter] ∧
        escape? letter = some c.toNat := by
      simp only [List.mem_cons, List.not_mem_nil, or_false] at hc
      rcases hc with rfl | rfl | rfl | rfl <;> exact ⟨_, rfl, rfl⟩
    obtain ⟨letter, hwritten, hletter⟩ := hescape
    rw [hwritten, hunits (escape?_lt hletter)]
    exact spells_escape l hletter
  · have hspelled := literalChar_spelled l.asciiLiterals c
    generalize Json.literalChar l.asciiLiterals c = written at hspelled
    cases hspelled with
    | escape letter hletter =>
        rw [hunits (escape?_lt hletter)]
        exact spells_escape l hletter
    | unicode hcode =>
        have hutf16 : utf16 c = l.units c := by
          rcases hcode with hsmall | hascii
          · rw [hunits (by omega), utf16, if_pos (by omega)]
          · cases l with
            | python => cases hascii
            | java | javaScript => rfl
        rw [← hutf16]
        exact spells_unicodeEscape l hc
    | plain hquote hbackslash hvisible hplain =>
        have hcodes : l.codes c = [c.toNat] := by
          cases l with
          | java => exact if_pos (by have : c.toNat ≤ 0x7E := by simpa [asciiLiterals] using hplain
                                     omega)
          | javaScript | python => rfl
        exact spells_plain hquote hbackslash (isLineEnd_of_plain hvisible hplain) hcodes

theorem spells_flatMap (l : Dialect) (s : List Char) :
    l.Spells (s.flatMap (Json.literalChar l.asciiLiterals)) (s.flatMap l.units) := by
  induction s with
  | nil => exact .nil l
  | cons c s ih =>
      rw [List.flatMap_cons, List.flatMap_cons]
      exact (spells_literalChar l c).append ih

/-! ## Literals -/

theorem settled_quote (l : Dialect) : l.Settled ['\x22'] [quote] := by
  have hsettled : l.Settled ['\x22'] (['\x22'].flatMap l.codes) :=
    settled_of_notMem l (by decide)
  rwa [List.flatMap_singleton, codes_of_lt l (by decide)] at hsettled

/-- A literal is not taken for the opening of a text block if no further quotation mark follows. -/
theorem opensTextBlock_eq_false {l : Dialect} {out units rest : List Nat}
    (hread : l.contents? 0 (out ++ quote :: rest) = some (units, rest))
    (hrest : rest.head? ≠ some quote) :
    l.opensTextBlock (quote :: (out ++ quote :: rest)) = false := by
  rw [opensTextBlock, Bool.and_eq_false_iff]
  right
  rw [← Bool.not_eq_true, List.isPrefixOf_iff_prefix]
  rintro ⟨more, hmore⟩
  -- The contents would end at the second mark, and the third would be what is behind them.
  have hcodes : out ++ quote :: rest = quote :: quote :: more := (List.cons.inj hmore).2.symm
  rw [hcodes, contents?, if_pos (beq_self_eq_true _)] at hread
  obtain ⟨_, rfl⟩ := Prod.mk.inj (Option.some.inj hread)
  exact hrest rfl

/-- A literal denotes the text for which it was written, and what stands behind it is read as if it
stood alone. -/
theorem stringIn?_literal (l : Dialect) (s : String) {rest : List Char}
    (hrest : (l.read rest).head? ≠ some quote) :
    l.stringIn? (l.read ((Json.literal l.asciiLiterals s).toList ++ rest)) =
      some (s, l.read rest) := by
  obtain ⟨out, hout, hcontents⟩ := spells_flatMap l s.toList
  have hclosing : ∀ more, l.contents? 0 (out ++ quote :: more) =
      some (s.toList.flatMap l.units, more) := by
    intro more
    rw [hcontents, contents?, if_pos (beq_self_eq_true _)]
    simp [withUnits]
  have hcodes : l.read ((Json.literal l.asciiLiterals s).toList ++ rest) =
      quote :: (out ++ quote :: l.read rest) := by
    have hsettled := ((settled_quote l).append hout).append (settled_quote l)
    rw [Json.literal, String.toList_ofList, Json.literalChars]
    refine (hsettled rest).trans ?_
    simp
  have hopens : (quote != quote || l.opensTextBlock (quote :: (out ++ quote :: l.read rest))) =
      false := by
    rw [bne_self_eq_false, Bool.false_or]
    exact opensTextBlock_eq_false (hclosing _) hrest
  rw [hcodes, stringIn?, hopens, if_neg Bool.false_ne_true, hclosing]
  simp only [characters?_units, Option.map_some, String.ofList_toList]

/-! ## Reading characters -/

def prepend (units : List Nat) (read : Option (List Nat × List Char)) :
    Option (List Nat × List Char) :=
  read.map fun (more, behind) => (units ++ more, behind)

/-- The units of a literal up to its closing quotation mark, and what stands behind that. -/
def literalBody? (l : Dialect) : List Char → Option (List Nat × List Char)
  | '\\' :: 'u' :: a :: b :: c :: d :: rest =>
    if [a, b, c, d].all Chars.isHexDigit then
      prepend [Chars.hexNumber [a, b, c, d]] (l.literalBody? rest)
    else none
  | '\\' :: c :: rest =>
    match escape? c with
    | some unit => prepend [unit] (l.literalBody? rest)
    | none => none
  | c :: rest =>
    if c == '\x22' then some ([], rest)
    else if c == '\\' || l.isLineEnd c then none
    else prepend (l.units c) (l.literalBody? rest)
  | [] => none

/-- The string that a literal denotes, and what stands behind the literal. -/
def literal? (l : Dialect) : List Char → Option (String × List Char)
  | '\x22' :: rest =>
    match l.literalBody? rest with
    | some (units, behind) => (l.characters? units).map fun s => (String.ofList s, behind)
    | none => none
  | _ => none

theorem map_ofNat_take (s : List Char) :
    ((s.map Char.toNat).take 4).map Char.ofNat = s.take 4 := by
  rw [← List.map_take, List.map_map, show Char.ofNat ∘ Char.toNat = id from
    funext Char.ofNat_toNat, List.map_id]

/-- A letter code is an escape of the literal if it was not resolved before. -/
theorem escapeIn?_letter {l : Dialect} (hl : l ≠ java) (behind : List Char) :
    l.escapeIn? (('u' :: behind).map Char.toNat) =
      if (behind.take 4).length == 4 && (behind.take 4).all Chars.isHexDigit then
        some (5, Chars.hexNumber (behind.take 4))
      else none := by
  rw [List.map_cons, escapeIn?, if_pos (by decide), if_neg hl]
  by_cases hfirst : behind.head? = some 'u'
  · obtain ⟨rest, rfl⟩ := List.head?_eq_some_iff.mp hfirst
    have hhex : (('u' :: rest).take 4).all Chars.isHexDigit = false := rfl
    rw [hhex, Bool.and_false, if_neg Bool.false_ne_true, letterCode?, List.map_cons,
      List.takeWhile_cons_of_pos (by decide), List.takeWhile_cons_of_pos (by decide)]
    split
    next => simp
    next => rfl
  · rw [letterCode?_letter, map_ofNat_take, ← List.map_take, List.length_map]
    · split <;> rfl
    · intro code hcode
      rw [List.head?_map, Option.mem_def, Option.map_eq_some_iff] at hcode
      obtain ⟨c, hc, rfl⟩ := hcode
      rw [isLetterU, beq_eq_false_iff_ne]
      exact fun h => hfirst (Char.toNat_inj.mp h ▸ hc)

theorem contents?_noEscape {l : Dialect} {rest : List Nat} (hescape : l.escapeIn? rest = none) :
    l.contents? 0 (backslash :: rest) = none := by
  rw [contents?, if_neg (by decide), if_pos (beq_self_eq_true _), hescape]

theorem escapeIn?_map_toNat {l : Dialect} {c : Char} (hc : c ≠ 'u') (rest : List Char) :
    l.escapeIn? ((c :: rest).map Char.toNat) = (escape? c).map fun unit => (1, unit) := by
  have hletter : isLetterU c.toNat = false := by
    rw [isLetterU, beq_eq_false_iff_ne]
    exact fun h => hc (Char.toNat_inj.mp h)
  rw [List.map_cons, escapeIn?, hletter, if_neg Bool.false_ne_true, Char.ofNat_toNat]

theorem endsLine_toNat (l : Dialect) (c : Char) : l.endsLine c.toNat = l.isLineEnd c := by
  rw [endsLine, charOf?_toNat]
  rfl

theorem toNat_ne {c other : Char} (h : ¬(c == other) = true) : c.toNat ≠ other.toNat :=
  fun hcode => h (beq_iff_eq.mpr (Char.toNat_inj.mp hcode))

theorem withUnits_map (units : List Nat) (read : Option (List Nat × List Char)) :
    withUnits units (read.map fun (more, behind) => (more, behind.map Char.toNat)) =
      (prepend units read).map fun (more, behind) => (more, behind.map Char.toNat) := by
  cases read <;> rfl

/-- Four digits have to stand behind the letter of a letter code. -/
theorem contents?_letterCode {l : Dialect} (hl : l ≠ java) (a b c d : Char) (rest : List Char) :
    l.contents? 0 (('\\' :: 'u' :: a :: b :: c :: d :: rest).map Char.toNat) =
      if [a, b, c, d].all Chars.isHexDigit then
        withUnits [Chars.hexNumber [a, b, c, d]] (l.contents? 0 (rest.map Char.toNat))
      else none := by
  have hletter := escapeIn?_letter hl (a :: b :: c :: d :: rest)
  split
  next hhex =>
    have hescape : l.escapeIn? ((['u', a, b, c, d].map Char.toNat) ++ rest.map Char.toNat) =
        some (5, Chars.hexNumber [a, b, c, d]) := by
      rw [← List.map_append]
      refine hletter.trans ?_
      simpa using hhex
    exact contents?_escape hescape
  next hhex =>
    refine contents?_noEscape (hletter.trans (if_neg ?_))
    simpa using hhex

/-- A letter that opens no letter code is an escape of its own, or none. -/
theorem contents?_letter {l : Dialect} (hl : l ≠ java) {c : Char} {rest : List Char}
    (hcode : ∀ a b c' d behind, c = 'u' → rest = a :: b :: c' :: d :: behind → False) :
    l.contents? 0 (('\\' :: c :: rest).map Char.toNat) =
      (escape? c).bind fun unit => withUnits [unit] (l.contents? 0 (rest.map Char.toNat)) := by
  by_cases hc : c = 'u'
  · subst hc
    refine contents?_noEscape ((escapeIn?_letter hl rest).trans (if_neg fun h => ?_))
    have hcount := beq_iff_eq.mp (Bool.and_eq_true_iff.mp h).1
    match rest, hcount with
    | a :: b :: c :: d :: behind, _ => exact hcode a b c d behind rfl rfl
  · have hescape := escapeIn?_map_toNat (l := l) hc rest
    cases hunit : escape? c with
    | some unit =>
        rw [hunit] at hescape
        have hread : l.escapeIn? ([c.toNat] ++ rest.map Char.toNat) = some (1, unit) := hescape
        exact contents?_escape hread
    | none =>
        rw [hunit] at hescape
        exact contents?_noEscape hescape

/-- A literal does not go on behind the end of its line. -/
theorem contents?_lineEnd {l : Dialect} {c : Char} (hend : l.isLineEnd c = true)
    (rest : List Char) : l.contents? 0 ((c :: rest).map Char.toNat) = none := by
  have hother : ∀ special ∈ ['\x22', '\\'], ¬(c == special) = true := by
    intro special hspecial h
    rw [beq_iff_eq.mp h] at hend
    cases l <;> simp at hspecial <;> rcases hspecial with rfl | rfl <;> cases hend
  have hquote : (c.toNat == quote) = false :=
    beq_eq_false_iff_ne.mpr (toNat_ne (hother _ (by simp)))
  have hbackslash : (c.toNat == backslash) = false :=
    beq_eq_false_iff_ne.mpr (toNat_ne (hother _ (by simp)))
  rw [List.map_cons, contents?, hquote, hbackslash, endsLine_toNat, hend]
  rfl

/-- Where letter codes are escapes of literals, the contents of a literal are read alike from codes
and from characters. -/
theorem contents?_map_toNat {l : Dialect} (hl : l ≠ java) (s : List Char) :
    l.contents? 0 (s.map Char.toNat) =
      (l.literalBody? s).map fun (units, behind) => (units, behind.map Char.toNat) := by
  -- The cases are those of the reader of characters: a letter code or what only looks like one,
  -- another escape or none, the closing mark, a stop, a plain character, and the end.
  induction s using literalBody?.induct (l := l) with
  | case1 a b c d rest hhex ih =>
      rw [contents?_letterCode hl, literalBody?, if_pos hhex, if_pos hhex, ih, withUnits_map]
  | case2 a b c d rest hhex =>
      rw [contents?_letterCode hl, literalBody?, if_neg hhex, if_neg hhex, Option.map_none]
  | case3 c rest hcode unit hunit ih =>
      rw [contents?_letter hl hcode, literalBody?, hunit]
      · exact (congrArg (withUnits [unit]) ih).trans (withUnits_map _ _)
      · exact hcode
  | case4 c rest hcode hnone =>
      rw [contents?_letter hl hcode, literalBody?, hnone]
      · rfl
      · exact hcode
  | case5 c rest hcode hone hquote =>
      rw [literalBody?, if_pos hquote, beq_iff_eq.mp hquote]
      · rfl
      · exact hcode
      · exact hone
  | case6 c rest hcode hone hquote hstop =>
      rw [literalBody?, if_neg hquote, if_pos hstop]
      · rcases Bool.or_eq_true_iff.mp hstop with hbackslash | hend
        · cases rest with
          | nil => rw [beq_iff_eq.mp hbackslash]; rfl
          | cons first rest => exact (hone first rest (beq_iff_eq.mp hbackslash) rfl).elim
        · exact contents?_lineEnd hend rest
      · exact hcode
      · exact hone
  | case7 c rest hcode hone hquote hplain ih =>
      obtain ⟨hbackslash, hend⟩ := Bool.or_eq_false_iff.mp (Bool.eq_false_iff.mpr hplain)
      rw [literalBody?, if_neg hquote, if_neg hplain]
      · have hunits : l.unitsOf c.toNat = l.units c := by rw [unitsOf, charOf?_toNat]
        rw [List.map_cons, contents?_plain (toNat_ne hquote)
          (toNat_ne (Bool.eq_false_iff.mp hbackslash)) ((endsLine_toNat l c).trans hend), ih,
          hunits, withUnits_map]
      · exact hcode
      · exact hone
  | case8 => rfl

/-- Where letter codes are escapes of literals, the characters of a literal are read as its codes
are, unless these open a text of many lines. -/
theorem stringIn?_map_toNat {l : Dialect} (hl : l ≠ java) {s : List Char}
    (hopens : l.opensTextBlock (s.map Char.toNat) = false) :
    l.stringIn? (s.map Char.toNat) =
      (l.literal? s).map fun (text, behind) => (text, behind.map Char.toNat) := by
  cases s with
  | nil => rfl
  | cons c rest =>
      rw [List.map_cons, stringIn?]
      by_cases hquote : c = '\x22'
      · subst hquote
        rw [if_neg (by rw [← List.map_cons, hopens]; decide), contents?_map_toNat hl, literal?]
        cases l.literalBody? rest with
        | none => rfl
        | some read => cases hread : l.characters? read.1 <;> simp [hread]
      · have hother : (c.toNat != quote) = true :=
          bne_iff_ne.mpr fun h => hquote (Char.toNat_inj.mp h)
        rw [hother, Bool.true_or, if_pos rfl, literal?]
        · rfl
        · rintro _ ⟨⟩
          exact hquote rfl

/-- A literal is read from the characters of a line as the text for which it was written, and ends
where it does. -/
theorem literal?_literal {l : Dialect} (hl : l ≠ java) (s : String) (rest : List Char) :
    l.literal? ((Json.literal l.asciiLiterals s).toList ++ rest) = some (s, rest) := by
  obtain ⟨out, hout, hcontents⟩ := spells_flatMap l s.toList
  have hread (text : List Char) : l.read text = text.map Char.toNat := by
    rw [read, if_neg hl]
    cases l with
    | java => exact absurd rfl hl
    | javaScript | python => exact List.map_eq_flatMap.symm
  have hbody : (l.literalBody?
      (s.toList.flatMap (Json.literalChar l.asciiLiterals) ++ '\x22' :: rest)).map
        (fun (units, behind) => (units, behind.map Char.toNat)) =
      some (s.toList.flatMap l.units, rest.map Char.toNat) := by
    rw [← contents?_map_toNat hl, ← hread, hout, hread, hcontents, List.map_cons, contents?,
      if_pos (by decide)]
    simp [withUnits]
  obtain ⟨⟨units, behind⟩, hread, hpair⟩ := Option.map_eq_some_iff.mp hbody
  obtain ⟨rfl, hbehind⟩ := Prod.mk.inj hpair
  obtain rfl := (List.map_inj_right fun _ _ => Char.toNat_inj.mp).mp hbehind
  rw [Json.literal, String.toList_ofList, Json.literalChars]
  simp [literal?, hread, characters?_units]

end Clickpath.Script.Dialect
