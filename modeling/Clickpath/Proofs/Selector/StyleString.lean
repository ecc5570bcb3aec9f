import Clickpath.Proofs.Chars.Classes
import Clickpath.Proofs.Chars.Reading
import Clickpath.Proofs.Script.Literal
import Clickpath.Selector.Native

/-! # Strings of style rules

A string of a style rule ends at its own quotation mark. A backslash in it opens an escape: up to
six hexadecimal digits are a code point, and any other character stands for itself. The value of a
selector is written into a condition with the escapes of another language, which mean the same for
quotation marks and backslashes only. So the condition asks for the value if and only if all of its
characters are visible characters of ASCII.
-/

namespace Clickpath

namespace StyleString

/-! ## Reading -/

def isNewLine (c : Char) : Bool := ['\n', '\r', '\x0c'].contains c

/-- How many characters of white space belong to an escape by digits in front of a text. The two
characters of one end of a line count as one. -/
def spaceTaken : List Char → Nat
  | '\r' :: '\n' :: _ => 2
  | c :: _ => if [' ', '\t'].contains c || isNewLine c then 1 else 0
  | [] => 0

def codeCharacter (code : Nat) : Char :=
  if code ≠ 0 ∧ code.isValidChar then Char.ofNat code else '\uFFFD'

/-- The character for which an escape stands, and how many characters it takes behind its backslash.
An escaped end of a line is not read. -/
def escape? (behind : List Char) : Option (Char × Nat) :=
  let digits := (behind.takeWhile Chars.isHexDigit).take 6
  if digits.isEmpty then
    match behind with
    | [] => none
    | c :: _ => if isNewLine c then none else some (c, 1)
  else
    some (codeCharacter (Chars.hexNumber digits),
      digits.length + spaceTaken (behind.drop digits.length))

/-- The characters of a string up to its closing quotation mark, and what stands behind that. It is
given how many characters belong to an escape that was read. -/
def contents? : Nat → List Char → Option (List Char × List Char)
  | _, [] => none
  | skip + 1, _ :: rest => contents? skip rest
  | 0, c :: rest =>
    if c == '\x22' then some ([], rest)
    else if c == '\\' then
      match escape? rest with
      | some (found, length) =>
        (contents? length rest).map fun (more, behind) => (found :: more, behind)
      | none => none
    else if isNewLine c then none
    else (contents? 0 rest).map fun (more, behind) => (c :: more, behind)

/-- The text that a string denotes which is all of a condition between its two other parts. -/
def within? (before behind : String) (condition : String) : Option String :=
  match Chars.after? before.toList condition.toList with
  | some ('\x22' :: rest) =>
    (contents? 0 rest).bind fun (found, rest) =>
      if rest = behind.toList then some (String.ofList found) else none
  | _ => none

/-! ## Escapes -/

/-- A backslash in front of a character that is no hexadecimal digit lets it stand for itself. -/
theorem contents?_escaped {c : Char} (hdigit : Chars.isHexDigit c = false)
    (hline : isNewLine c = false) (rest : List Char) :
    contents? 0 ('\\' :: c :: rest) =
      (contents? 0 rest).map fun (more, behind) => (c :: more, behind) := by
  have hescape : escape? (c :: rest) = some (c, 1) := by
    simp [escape?, hdigit, hline]
  rw [contents?, if_neg (by decide), if_pos (by decide), hescape]
  rfl

theorem contents?_plain {c : Char} (hquote : c ≠ '\x22') (hbackslash : c ≠ '\\')
    (hline : isNewLine c = false) (rest : List Char) :
    contents? 0 (c :: rest) =
      (contents? 0 rest).map fun (more, behind) => (c :: more, behind) := by
  rw [contents?, if_neg (by simpa using hquote), if_neg (by simpa using hbackslash), hline,
    if_neg Bool.false_ne_true]

/-- A number does not get smaller when digits are added to it. -/
theorem le_foldl_hexValue (digits : List Char) (total : Nat) :
    total ≤
      digits.foldl (fun total digit => total * 16 + (Chars.hexValue? digit).getD 0) total := by
  induction digits generalizing total with
  | nil => exact Nat.le_refl _
  | cons digit digits ih =>
      exact Nat.le_trans (Nat.le_trans (Nat.le_mul_of_pos_right total (by decide))
        (Nat.le_add_right _ _)) (ih _)

/-- A hexadecimal digit behind a backslash is the first of a code point, which is no smaller. -/
theorem escape?_digit {letter : Char} {value : Nat} (hvalue : Chars.hexValue? letter = some value)
    (rest : List Char) :
    ∃ code length, value ≤ code ∧ escape? (letter :: rest) = some (codeCharacter code, length) := by
  have hdigit : Chars.isHexDigit letter = true := by
    rw [Chars.isHexDigit, hvalue]
    rfl
  have hdigits : ((letter :: rest).takeWhile Chars.isHexDigit).take 6 =
      letter :: (rest.takeWhile Chars.isHexDigit).take 5 := by
    rw [List.takeWhile_cons_of_pos hdigit]
    rfl
  have hescape : escape? (letter :: rest) =
      some (codeCharacter (Chars.hexNumber (letter :: (rest.takeWhile Chars.isHexDigit).take 5)),
        (letter :: (rest.takeWhile Chars.isHexDigit).take 5).length + spaceTaken
          ((letter :: rest).drop (letter :: (rest.takeWhile Chars.isHexDigit).take 5).length)) := by
    rw [escape?, hdigits]
    rfl
  refine ⟨_, _, ?_, hescape⟩
  rw [Chars.hexNumber, List.foldl_cons, hvalue, Nat.zero_mul, Nat.zero_add]
  exact le_foldl_hexValue _ _

theorem codeCharacter_ne {c : Char} {code : Nat} (hbelow : c.toNat < code)
    (hreplacement : c ≠ '\uFFFD') : codeCharacter code ≠ c := by
  rintro rfl
  rw [codeCharacter] at hbelow hreplacement
  split at hbelow
  next hvalid =>
    rw [Char.ofNat, dif_pos hvalid.2] at hbelow
    exact absurd hbelow (Nat.lt_irrefl code)
  next hinvalid => exact hreplacement (if_neg hinvalid)

/-! ## Written characters -/

/-- A visible character of ASCII is read as itself. -/
theorem contents?_visible {c : Char} (hc : Chars.isVisibleAscii c = true) (rest : List Char) :
    contents? 0 (Json.literalChar true c ++ rest) =
      (contents? 0 rest).map fun (more, behind) => (c :: more, behind) := by
  obtain ⟨hlow, hhigh⟩ := Chars.isVisibleAscii_iff.mp hc
  by_cases hspecial : c = '\x22' ∨ c = '\\'
  · rcases hspecial with rfl | rfl <;> exact contents?_escaped (by decide) (by decide) rest
  · obtain ⟨hquote, hbackslash⟩ := not_or.mp hspecial
    have hline : isNewLine c = false := by
      rw [isNewLine, ← Bool.not_eq_true, List.contains_iff_mem]
      intro hmem
      have hsmall : ['\n', '\r', '\x0c'].all (fun c => c.toNat < 0x20) = true := by decide
      have := of_decide_eq_true (List.all_eq_true.mp hsmall c hmem)
      omega
    have hwritten : Json.literalChar true c = [c] := by
      have hne (other : Char) (hother : other.toNat < 0x20) : (c == other) = false := by
        rw [beq_eq_false_iff_ne]
        rintro rfl
        omega
      have hnot (code : Nat) (hcode : code < 0x20) : (c.toNat == code) = false := by
        rw [beq_eq_false_iff_ne]
        omega
      simp only [Json.literalChar, beq_eq_false_iff_ne.mpr hquote,
        beq_eq_false_iff_ne.mpr hbackslash, hne '\n' (by decide), hne '\r' (by decide),
        hne '\t' (by decide), hnot 0x0C (by decide), hnot 0x08 (by decide), Bool.false_eq_true,
        if_false, Nat.not_lt.mpr hlow, Nat.not_lt.mpr hhigh, decide_false, Bool.and_false]
    rw [hwritten]
    exact contents?_plain hquote hbackslash hline rest

/-- The first character of what is read is the one behind the backslash, if that is no hexadecimal
digit. -/
theorem head?_contents?_escaped {letter : Char} (hdigit : Chars.isHexDigit letter = false)
    (hline : isNewLine letter = false) {rest found behind : List Char}
    (hread : contents? 0 ('\\' :: letter :: rest) = some (found, behind)) :
    found.head? = some letter := by
  rw [contents?_escaped hdigit hline, Option.map_eq_some_iff] at hread
  obtain ⟨read, _, heq⟩ := hread
  cases heq
  rfl

/-- The first character of what is read has a code point that is no smaller than the digit behind
the backslash. -/
theorem head?_contents?_digit {letter : Char} {value : Nat}
    (hvalue : Chars.hexValue? letter = some value) {rest found behind : List Char}
    (hread : contents? 0 ('\\' :: letter :: rest) = some (found, behind)) :
    ∃ code, value ≤ code ∧ found.head? = some (codeCharacter code) := by
  obtain ⟨code, length, hcode, hescape⟩ := escape?_digit hvalue rest
  rw [contents?, if_neg (by decide), if_pos (by decide), hescape, Option.map_eq_some_iff] at hread
  obtain ⟨read, _, heq⟩ := hread
  cases heq
  exact ⟨code, hcode, rfl⟩

/-- Any other character is read as something that starts differently, if at all. -/
theorem head?_contents?_ne {c : Char} (hc : Chars.isVisibleAscii c = false)
    {rest found behind : List Char}
    (hread : contents? 0 (Json.literalChar true c ++ rest) = some (found, behind)) :
    found.head? ≠ some c := by
  intro hhead
  -- A letter that stands for itself cannot be the character, which is not visible.
  have hletter {letter : Char} (hdigit : Chars.isHexDigit letter = false)
      (hvisible : Chars.isVisibleAscii letter = true) (hline : isNewLine letter = false)
      {rest : List Char} (hread : contents? 0 ('\\' :: letter :: rest) = some (found, behind)) :
      False := by
    rw [head?_contents?_escaped hdigit hline hread, Option.some.injEq] at hhead
    rw [hhead, hc] at hvisible
    cases hvisible
  -- Nor can a code point that is larger than that of the character.
  have hdigit {letter : Char} {value : Nat} (hvalue : Chars.hexValue? letter = some value)
      (hbelow : c.toNat < value) (hcontrol : c.toNat < 0x20) {rest : List Char}
      (hread : contents? 0 ('\\' :: letter :: rest) = some (found, behind)) : False := by
    obtain ⟨code, hcode, hfirst⟩ := head?_contents?_digit hvalue hread
    rw [hfirst, Option.some.injEq] at hhead
    refine codeCharacter_ne (Nat.lt_of_lt_of_le hbelow hcode) ?_ hhead
    rintro rfl
    exact absurd hcontrol (by decide)
  have hspelled := Script.Dialect.literalChar_spelled true c
  generalize Json.literalChar true c = written at hspelled hread
  cases hspelled with
  | escape letter hunit =>
      unfold Script.Dialect.escape? at hunit
      split at hunit
      -- Of these letters, two are hexadecimal digits.
      case h_4 | h_7 =>
        have hcode : c.toNat = _ := (Option.some.inj hunit).symm
        exact hdigit rfl (by rw [hcode]; decide) (by rw [hcode]; decide) hread
      case h_9 => cases hunit
      all_goals exact hletter (by decide) (by decide) (by decide) hread
  | unicode _ =>
      obtain ⟨digits, hescape⟩ : ∃ digits, Json.unicodeEscape c = '\\' :: 'u' :: digits := by
        unfold Json.unicodeEscape
        split
        next => exact ⟨_, rfl⟩
        next => exact ⟨_, rfl⟩
      rw [hescape] at hread
      exact hletter (by decide) (by decide) (by decide) hread
  | plain _ _ hvisible hplain =>
      have : Chars.isVisibleAscii c = true :=
        Chars.isVisibleAscii_iff.mpr ⟨hvisible, by simpa using hplain⟩
      rw [hc] at this
      cases this

/-- A written text is read back if and only if all of its characters are visible characters of
ASCII. -/
theorem contents?_literalChar_iff (s rest : List Char) :
    contents? 0 (s.flatMap (Json.literalChar true) ++ '\x22' :: rest) = some (s, rest) ↔
      s.all Chars.isVisibleAscii = true := by
  induction s with
  | nil => exact iff_of_true rfl rfl
  | cons c s ih =>
      rw [List.flatMap_cons, List.append_assoc, List.all_cons, Bool.and_eq_true]
      cases hc : Chars.isVisibleAscii c with
      | true =>
          rw [contents?_visible hc, Option.map_eq_some_iff, ← ih]
          constructor
          · rintro ⟨_, hread, heq⟩
            cases heq
            exact ⟨rfl, hread⟩
          · rintro ⟨_, hread⟩
            exact ⟨_, hread, rfl⟩
      | false =>
          refine iff_of_false (fun hread => ?_) fun h => Bool.false_ne_true h.1
          exact head?_contents?_ne hc hread rfl

/-- A literal between two other parts denotes its text if and only if all of its characters are
visible characters of ASCII. -/
theorem within?_literal_iff (before behind raw : String) :
    within? before behind (before ++ Json.literal true raw ++ behind) = some raw ↔
      raw.toList.all Chars.isVisibleAscii = true := by
  have hfront : Chars.after? before.toList
      (before ++ Json.literal true raw ++ behind).toList =
        some ('\x22' ::
          (raw.toList.flatMap (Json.literalChar true) ++ '\x22' :: behind.toList)) := by
    rw [String.toList_append, String.toList_append, List.append_assoc, Chars.after?_append,
      Json.literal, String.toList_ofList, Json.literalChars, List.append_assoc]
    rfl
  have hread : within? before behind (before ++ Json.literal true raw ++ behind) =
      (contents? 0 (raw.toList.flatMap (Json.literalChar true) ++ '\x22' :: behind.toList)).bind
        fun (found, rest) => if rest = behind.toList then some (String.ofList found) else none := by
    rw [within?, hfront]
    rfl
  rw [hread, ← contents?_literalChar_iff raw.toList behind.toList, Option.bind_eq_some_iff]
  constructor
  · rintro ⟨⟨found, rest⟩, hcontents, hfound⟩
    obtain ⟨hrest, hfound⟩ := Option.ite_none_right_eq_some.mp hfound
    rw [hcontents, hrest, ← Option.some.inj hfound, String.toList_ofList]
  · intro hcontents
    exact ⟨_, hcontents, Option.ite_none_right_eq_some.mpr ⟨rfl, by rw [String.ofList_toList]⟩⟩

end StyleString

namespace Selector

/-- What stands around the value of a selector in the condition by which a browser driver finds the
element. -/
def conditionParts? : SelectorKind → Option (String × String)
  | .name => some ("[name=", "]")
  | .linkText => some ("a:text-is(", ")")
  | .partialLinkText => some ("a:has-text(", ")")
  | .id | .css | .xpath | .text => none

/-- The condition of a selector asks for its value if and only if all characters of the value are
visible characters of ASCII. -/
theorem native_denotes_iff {s : Selector} {kind : SelectorKind} (hkind : s.kind = some kind)
    {before behind : String} (hparts : conditionParts? kind = some (before, behind)) :
    StyleString.within? before behind s.native = some s.raw ↔
      s.raw.toList.all Chars.isVisibleAscii = true := by
  have hnative : s.native = before ++ Json.literal true s.raw ++ behind := by
    rw [native, hkind]
    cases kind <;> cases hparts <;> rfl
  rw [hnative]
  exact StyleString.within?_literal_iff before behind s.raw

/-- The condition for a field whose name is one accented letter asks for another name. -/
theorem native_denotes_accented :
    let s : Selector := ⟨some .name, "é", by decide⟩
    s.kind = some .name ∧ conditionParts? .name = some ("[name=", "]") ∧
      s.native = "[name=\"\\u00e9\"]" ∧
      StyleString.within? "[name=" "]" s.native = some "u00e9" ∧
      StyleString.within? "[name=" "]" s.native ≠ some s.raw := by
  refine ⟨rfl, rfl, by decide, by decide, ?_⟩
  intro hdenotes
  exact absurd ((native_denotes_iff rfl rfl).mp hdenotes) (by decide)

end Selector

end Clickpath
