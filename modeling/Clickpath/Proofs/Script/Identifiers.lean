import Clickpath.Proofs.Chars.Categories
import Clickpath.Proofs.Chars.Words
import Clickpath.Proofs.Script.FixedLines
import Clickpath.Proofs.Script.Layout

/-! # Names that the languages accept

The names of a class and of a test function are made of word characters, and no digit comes first.
The languages ask for more: numerals that are neither letters nor decimal digits have no place in an
identifier, nor has, in one of the languages, the letter that is kept for patterns, and some words
are reserved. Whatever else a test is called, its names are accepted.
-/

namespace Clickpath.Script

/-! ## Identifiers -/

def isLetter (c : Char) : Bool :=
  Chars.isAlphanumeric c && !isDecimal c && !Chars.isOtherNumeral c

/-- What a language asks of an identifier. -/
structure IdentifierRule where
  /-- Characters that may come first. They may come later as well. -/
  starts : Char → Bool
  /-- Characters that may come later besides. -/
  follows : Char → Bool
  /-- Words that the language keeps for itself. -/
  reserved : List String

namespace IdentifierRule

variable (rule : IdentifierRule)

/-- The character may stand in an identifier, other than as the first. -/
def continues (c : Char) : Bool := rule.starts c || rule.follows c

/-- There is a first character that may come first, and the others may come later. -/
structure Shaped (s : List Char) : Prop where
  head : s.head?.any rule.starts = true
  tail : ∀ c ∈ s.tail, rule.continues c = true

/-- The name is an identifier, and none of the reserved words. -/
structure Legal (name : String) : Prop where
  shaped : rule.Shaped name.toList
  unreserved : name ∉ rule.reserved

/-- Identifiers of Java. The reserved words are its keywords and literals. -/
def java : IdentifierRule where
  starts c := isLetter c || Chars.isConnector c || Chars.isCurrency c
  follows c := isDecimal c || Chars.isMark c || Chars.isIgnorable c
  reserved :=
    ["abstract", "assert", "boolean", "break", "byte", "case", "catch", "char", "class", "const",
      "continue", "default", "do", "double", "else", "enum", "extends", "final", "finally", "float",
      "for", "goto", "if", "implements", "import", "instanceof", "int", "interface", "long",
      "native", "new", "package", "private", "protected", "public", "return", "short", "static",
      "strictfp", "super", "switch", "synchronized", "this", "throw", "throws", "transient", "try",
      "void", "volatile", "while", "_", "true", "false", "null"]

/-- The one letter that is kept for patterns, the vertical tilde. -/
def verticalTilde : Char := '\u2E2F'

/-- Identifiers of JavaScript. A few characters have a place in them that their category does not
give them. -/
def javaScript : IdentifierRule where
  starts c := isLetter c && c != verticalTilde || c == '$' || c == '_' ||
    Chars.inRanges [(0x1885, 0x1886), (0x2118, 0x2118), (0x212E, 0x212E), (0x309B, 0x309C)] c.toNat
  follows c := isDecimal c || Chars.isMark c || Chars.isConnector c ||
    Chars.inRanges [(0xB7, 0xB7), (0x387, 0x387), (0x1369, 0x1371), (0x19DA, 0x19DA),
      (0x200C, 0x200D)] c.toNat
  reserved :=
    ["await", "break", "case", "catch", "class", "const", "continue", "debugger", "default",
      "delete", "do", "else", "enum", "export", "extends", "false", "finally", "for", "function",
      "if", "import", "in", "instanceof", "new", "null", "return", "super", "switch", "this",
      "throw", "true", "try", "typeof", "var", "void", "while", "with", "yield"]

/-- Identifiers of Python, as they are before letters are brought into their plain forms. -/
def python : IdentifierRule where
  starts c := isLetter c || c == '_'
  follows c := isDecimal c || Chars.isMark c
  reserved :=
    ["False", "None", "True", "and", "as", "assert", "async", "await", "break", "class", "continue",
      "def", "del", "elif", "else", "except", "finally", "for", "from", "global", "if", "import",
      "in", "is", "lambda", "nonlocal", "not", "or", "pass", "raise", "return", "try", "while",
      "with", "yield"]

variable {rule} {s : List Char} {c : Char}

theorem continues_of_starts (hc : rule.starts c = true) : rule.continues c = true := by
  rw [continues, hc, Bool.true_or]

theorem continues_of_follows (hc : rule.follows c = true) : rule.continues c = true := by
  rw [continues, hc, Bool.or_true]

theorem Shaped.continues (hs : rule.Shaped s) : ∀ c ∈ s, rule.continues c = true := by
  cases s with
  | nil => exact List.forall_mem_nil _
  | cons first rest => exact List.forall_mem_cons.mpr ⟨continues_of_starts hs.head, hs.tail⟩

theorem Shaped.append (hs : rule.Shaped s) {t : List Char}
    (ht : ∀ c ∈ t, rule.continues c = true) : rule.Shaped (s ++ t) := by
  cases s with
  | nil => exact absurd hs.head Bool.false_ne_true
  | cons first rest => exact ⟨hs.head, List.forall_mem_append.mpr ⟨hs.tail, ht⟩⟩

end IdentifierRule

open IdentifierRule

/-! ## Word characters in identifiers -/

/-- A word character is a letter, a decimal digit, the low line or a numeral of another kind. -/
theorem letter_or_decimal_or_line_of_isWord {c : Char} (hc : Chars.isWord c = true)
    (hnumeral : Chars.isOtherNumeral c = false) :
    isLetter c = true ∨ isDecimal c = true ∨ c = '_' := by
  rw [Chars.isWord, Bool.or_eq_true, beq_iff_eq] at hc
  rcases hc with hc | hc
  · cases hdecimal : isDecimal c with
    | false => exact .inl (by rw [isLetter, hc, hdecimal, hnumeral]; rfl)
    | true => exact .inr (.inl rfl)
  · exact .inr (.inr hc)

/-- The rule has a place for a character: in front, unless it is a digit, and behind. -/
def IdentifierRule.Admits (rule : IdentifierRule) (c : Char) : Prop :=
  (Chars.isDigit c = false → rule.starts c = true) ∧ rule.continues c = true

theorem IdentifierRule.admits_of_starts {rule : IdentifierRule} {c : Char}
    (hc : rule.starts c = true) : rule.Admits c :=
  ⟨fun _ => hc, continues_of_starts hc⟩

theorem IdentifierRule.admits_of_decimal {rule : IdentifierRule} {c : Char}
    (hc : isDecimal c = true) (hfollows : rule.follows c = true) : rule.Admits c := by
  refine ⟨fun hdigit => ?_, continues_of_follows hfollows⟩
  exact absurd (Chars.isDigit_of_decimalValue? hc) (Bool.eq_false_iff.mp hdigit)

theorem IdentifierRule.shaped_of_admits {rule : IdentifierRule} {first : Char} {rest : List Char}
    (hdigit : Chars.isDigit first = false) (h : ∀ c ∈ first :: rest, rule.Admits c) :
    rule.Shaped (first :: rest) := by
  obtain ⟨hfirst, hrest⟩ := List.forall_mem_cons.mp h
  exact ⟨hfirst.1 hdigit, fun c hc => (hrest c hc).2⟩

section Admitted

variable {c : Char}

theorem java_admits (hc : Chars.isWord c = true) (hnumeral : Chars.isOtherNumeral c = false) :
    java.Admits c := by
  rcases letter_or_decimal_or_line_of_isWord hc hnumeral with hletter | hdecimal | rfl
  · exact admits_of_starts (by simp only [java, hletter, Bool.true_or])
  · exact admits_of_decimal hdecimal (by simp only [java, hdecimal, Bool.true_or])
  · have hconnector : Chars.isConnector '_' = true := by decide
    exact admits_of_starts (by simp only [java, hconnector, Bool.or_true, Bool.true_or])

theorem javaScript_admits (hc : Chars.isWord c = true) (hnumeral : Chars.isOtherNumeral c = false)
    (hne : c ≠ verticalTilde) : javaScript.Admits c := by
  rcases letter_or_decimal_or_line_of_isWord hc hnumeral with hletter | hdecimal | rfl
  · have htilde : (c != verticalTilde) = true := bne_iff_ne.mpr hne
    exact admits_of_starts (by
      simp only [javaScript, hletter, htilde, Bool.and_self, Bool.true_or])
  · exact admits_of_decimal hdecimal (by simp only [javaScript, hdecimal, Bool.true_or])
  · exact admits_of_starts (by simp only [javaScript, BEq.rfl, Bool.or_true, Bool.true_or])

theorem python_admits (hc : Chars.isWord c = true) (hnumeral : Chars.isOtherNumeral c = false) :
    python.Admits c := by
  rcases letter_or_decimal_or_line_of_isWord hc hnumeral with hletter | hdecimal | rfl
  · exact admits_of_starts (by simp only [python, hletter, Bool.true_or])
  · exact admits_of_decimal hdecimal (by simp only [python, hdecimal, Bool.true_or])
  · exact admits_of_starts (by simp only [python, BEq.rfl, Bool.or_true])

/-- Numerals of other kinds have no place in an identifier. -/
theorem not_continues_of_isOtherNumeral (hc : Chars.isOtherNumeral c = true) :
    java.continues c = false ∧ python.continues c = false := by
  obtain ⟨hmark, hconnector, hcurrency, hignorable⟩ := Chars.others_of_isOtherNumeral hc
  have hdecimal : isDecimal c = false := Chars.decimalValue?_of_isOtherNumeral hc
  have hletter : isLetter c = false := by
    rw [isLetter, hc, Bool.not_true, Bool.and_false]
  have hline : (c == '_') = false :=
    beq_eq_false_iff_ne.mpr (Chars.ne_of_isOtherNumeral hc (by decide))
  constructor
  · simp only [continues, java, hletter, hconnector, hcurrency, hdecimal, hmark, hignorable,
      Bool.or_self]
  · simp only [continues, python, hletter, hline, hdecimal, hmark, Bool.or_self]

end Admitted

/-! ## The name of a class -/

theorem mem_wordChars_iff {s : List Char} {c : Char} (hc : Chars.isWord c = true) :
    c ∈ wordChars s ↔ c ∈ s := by
  rw [wordChars, List.mem_filter, and_iff_left hc]

/-- What the word characters of a test's name are made into as the name of a class. -/
inductive NamesClass (chars : List Char) : List Char → Prop
  | replaced (hchars : chars = []) : NamesClass chars "GeneratedTest".toList
  | lengthened {first : Char} {rest : List Char} (hchars : chars = first :: rest)
      (hdigit : Chars.isDigit first = true) : NamesClass chars ("Test".toList ++ chars)
  | kept {first : Char} {rest : List Char} (hchars : chars = first :: rest)
      (hdigit : Chars.isDigit first = false) : NamesClass chars chars

theorem toList_append_ofList (before : String) (s : List Char) :
    (before ++ String.ofList s).toList = before.toList ++ s := by
  rw [String.toList_append, String.toList_ofList]

/-- The name of a class is the word characters of the name, with a word in front or instead if that
has to be. -/
theorem namesClass (name : String) :
    NamesClass (wordChars name.toList) (className name).toList := by
  rw [className]
  split
  next hname => exact .replaced hname
  next first rest hname =>
    rw [← hname]
    split
    next hdigit =>
      rw [toList_append_ofList]
      exact .lengthened hname hdigit
    next hdigit =>
      rw [String.toList_ofList]
      exact .kept hname (Bool.eq_false_iff.mpr hdigit)

def startsPlainly (word : String) : Bool :=
  word.toList.head?.any fun c => c == '_' || 'a' ≤ c && c ≤ 'z'

theorem not_isDigit_of_plain {c : Char} (hc : (c == '_' || 'a' ≤ c && c ≤ 'z') = true) :
    Chars.isDigit c = false := by
  rw [Bool.or_eq_true, Bool.and_eq_true, decide_eq_true_eq, decide_eq_true_eq, beq_iff_eq] at hc
  rcases hc with rfl | hletter
  · decide
  · have hapart : Chars.apart [(0x61, 0x7A)] Chars.digitRanges = true := by decide
    apply Chars.inRanges_eq_false_of_apart hapart
    exact Chars.inRanges_eq_true_iff.mpr ⟨_, List.mem_singleton_self _, hletter⟩

namespace NamesClass

variable {chars text : List Char}

theorem mem (h : NamesClass chars text) {c : Char} (hc : c ∈ chars) : c ∈ text := by
  cases h with
  | replaced hchars =>
      rw [hchars] at hc
      cases hc
  | lengthened => exact List.mem_append_right _ hc
  | kept => exact hc

/-- The name of a class is an identifier if the language has a place for all of its word
characters. -/
theorem shaped {rule : IdentifierRule}
    (hfixed : ∀ c ∈ "GeneratedTest".toList ++ "Test".toList, rule.Admits c)
    (h : NamesClass chars text) (hadmits : ∀ c ∈ chars, rule.Admits c) : rule.Shaped text := by
  obtain ⟨hgenerated, htest⟩ := List.forall_mem_append.mp hfixed
  cases h with
  | replaced => exact shaped_of_admits (by decide) hgenerated
  | lengthened => exact (shaped_of_admits (by decide) htest).append fun c hc => (hadmits c hc).2
  | kept hchars hdigit =>
      rw [hchars] at hadmits ⊢
      exact shaped_of_admits hdigit hadmits

/-- A text is among words that start with small letters or the low line only if it was there before
it was lengthened or replaced. -/
theorem mem_words_iff {words : List String} (hwords : words.all startsPlainly = true)
    (h : NamesClass chars text) : String.ofList text ∈ words ↔ String.ofList chars ∈ words := by
  have hnot {other : List Char}
      (hother : ∀ c ∈ other.head?, Chars.isDigit c = true ∨ c = 'G' ∨ c = 'T') :
      String.ofList other ∉ words := by
    intro hmem
    have hstarts := List.all_eq_true.mp hwords _ hmem
    rw [startsPlainly, String.toList_ofList, Option.any_eq_true] at hstarts
    obtain ⟨c, hc, hplain⟩ := hstarts
    rcases hother c hc with hdigit | rfl | rfl
    · have hnone := not_isDigit_of_plain hplain
      rw [hdigit] at hnone
      cases hnone
    · exact absurd hplain (by decide)
    · exact absurd hplain (by decide)
  cases h with
  | replaced hchars =>
      refine iff_of_false (hnot ?_) (hnot ?_)
      · rintro c ⟨⟩
        exact .inr (.inl rfl)
      · rw [hchars]
        exact fun _ hc => nomatch hc
  | lengthened hchars hdigit =>
      refine iff_of_false (hnot ?_) (hnot ?_)
      · rintro c ⟨⟩
        exact .inr (.inr rfl)
      · rw [hchars]
        rintro c ⟨⟩
        exact .inl hdigit
  | kept => rfl

end NamesClass

/-! ## The name of a test function -/

theorem mem_intercalate_iff {separator c : Char} (hc : c ≠ separator) (parts : List (List Char)) :
    c ∈ [separator].intercalate parts ↔ c ∈ parts.flatten := by
  induction parts with
  | nil => rfl
  | cons part parts ih =>
      cases parts with
      | nil => simp
      | cons next parts =>
          rw [List.intercalate_cons_cons, List.mem_append, List.mem_append, List.mem_singleton,
            or_iff_left hc, ih, List.flatten_cons (l := part), List.mem_append]

/-- Numerals of other kinds go from the name of a test into that of its function, and come from
there. -/
theorem mem_functionName_iff {numeral : Char} (hnumeral : Chars.isOtherNumeral numeral = true)
    (name : String) : numeral ∈ (functionName name).toList ↔ numeral ∈ name.toList := by
  have hword := Chars.isWord_of_isOtherNumeral hnumeral
  have hblank := Chars.not_isBlank_of_isWord hword
  have hjoined : numeral ∈ wordChars
      (['_'].intercalate (Chars.words Chars.isBlank (Chars.lower (Chars.trim name.toList)))) ↔
      numeral ∈ name.toList := by
    rw [mem_wordChars_iff hword,
      mem_intercalate_iff (Chars.ne_of_isOtherNumeral hnumeral (by decide)), Chars.flatten_words,
      List.mem_filter, hblank, Bool.not_false, and_iff_left rfl, Chars.mem_lower_iff hnumeral,
      Chars.trim_eq_strip, Chars.mem_strip_iff hblank]
  have hfixed : ("test_generated".toList ++ "test_".toList).any Chars.isOtherNumeral = false := by
    decide
  have hnot : numeral ∉ "test_generated".toList ++ "test_".toList :=
    fun hmem => List.any_eq_false.mp hfixed numeral hmem hnumeral
  obtain ⟨hgenerated, htest⟩ := not_or.mp (mt List.mem_append.mpr hnot)
  rw [← hjoined, functionName]
  split
  next hname =>
    rw [hname]
    exact iff_of_false hgenerated List.not_mem_nil
  next =>
    rw [toList_append_ofList]
    exact List.mem_append.trans (or_iff_right htest)

theorem test_isPrefix_functionName (name : String) :
    "test_".toList <+: (functionName name).toList := by
  rw [functionName]
  split
  next => exact ⟨"generated".toList, rfl⟩
  next =>
    rw [String.toList_append]
    exact List.prefix_append _ _

/-! ## Legal names -/

set_option maxRecDepth 8000 in
/-- What stands in front of names, or in their place, is made of letters and the low line. -/
theorem fixed_plain : ∀ c ∈ "GeneratedTest".toList ++ "Test".toList ++ "test_".toList,
    Chars.isWord c = true ∧ Chars.isOtherNumeral c = false ∧ c ≠ verticalTilde := by
  intro c hc
  have hword : ("GeneratedTest".toList ++ "Test".toList ++ "test_".toList).all Chars.isWord =
      true := by
    decide
  have hnumeral : ("GeneratedTest".toList ++ "Test".toList ++ "test_".toList).any
      Chars.isOtherNumeral = false := by
    decide
  exact ⟨List.all_eq_true.mp hword c hc, Bool.eq_false_iff.mpr (List.any_eq_false.mp hnumeral c hc),
    ne_of_mem_of_not_mem hc (by decide)⟩

/-- Reserved words start with small letters or the low line, and unlike the names of functions. -/
theorem starts_reserved : (java.reserved ++ javaScript.reserved).all startsPlainly = true ∧
    python.reserved.all (fun word => !"test_".toList.isPrefixOf word.toList) = true := by
  decide +kernel

set_option maxRecDepth 8000 in
/-- The vertical tilde is a word character that has no place in JavaScript. -/
theorem verticalTilde_left_out :
    Chars.isWord verticalTilde = true ∧ javaScript.continues verticalTilde = false := by
  decide

/-- A class can be named after a test in both languages exactly if no other numeral and no vertical
tilde is in the name, and it leaves no reserved word. -/
theorem className_legal_iff (name : String) :
    java.Legal (className name) ∧ javaScript.Legal (className name) ↔
      (∀ c ∈ name.toList, Chars.isOtherNumeral c = false ∧ c ≠ verticalTilde) ∧
        String.ofList (wordChars name.toList) ∉ java.reserved ++ javaScript.reserved := by
  have hform := namesClass name
  have hreserved : className name ∈ java.reserved ++ javaScript.reserved ↔
      String.ofList (wordChars name.toList) ∈ java.reserved ++ javaScript.reserved := by
    rw [← hform.mem_words_iff starts_reserved.1, String.ofList_toList]
  rw [← hreserved, List.mem_append, not_or]
  constructor
  · rintro ⟨hjava, hscript⟩
    have hmem {c : Char} (hword : Chars.isWord c = true) (hc : c ∈ name.toList) :
        c ∈ (className name).toList := hform.mem ((mem_wordChars_iff hword).mpr hc)
    refine ⟨fun c hc => ⟨?_, ?_⟩, hjava.unreserved, hscript.unreserved⟩
    · rw [Bool.eq_false_iff]
      intro hnumeral
      have hcontinues := hjava.shaped.continues c
        (hmem (Chars.isWord_of_isOtherNumeral hnumeral) hc)
      rw [(not_continues_of_isOtherNumeral hnumeral).1] at hcontinues
      cases hcontinues
    · rintro rfl
      have hcontinues := hscript.shaped.continues _ (hmem verticalTilde_left_out.1 hc)
      rw [verticalTilde_left_out.2] at hcontinues
      cases hcontinues
  · rintro ⟨hname, hjava, hscript⟩
    have hword {c : Char} (hc : c ∈ wordChars name.toList) :
        Chars.isWord c = true ∧ Chars.isOtherNumeral c = false ∧ c ≠ verticalTilde :=
      ⟨isWord_of_mem_wordChars hc, hname c (List.mem_filter.mp hc).1⟩
    have hfixed := (List.forall_mem_append.mp fixed_plain).1
    refine ⟨⟨hform.shaped (fun c hc => ?_) fun c hc => ?_, hjava⟩,
      hform.shaped (fun c hc => ?_) fun c hc => ?_, hscript⟩
    · exact java_admits (hfixed c hc).1 (hfixed c hc).2.1
    · exact java_admits (hword hc).1 (hword hc).2.1
    · exact javaScript_admits (hfixed c hc).1 (hfixed c hc).2.1 (hfixed c hc).2.2
    · exact javaScript_admits (hword hc).1 (hword hc).2.1 (hword hc).2.2

/-- A function can be named after a test exactly if no other numeral is in the name. -/
theorem functionName_legal_iff (name : String) : python.Legal (functionName name) ↔
    ∀ c ∈ name.toList, Chars.isOtherNumeral c = false := by
  constructor
  · rintro hlegal c hc
    rw [Bool.eq_false_iff]
    intro hnumeral
    have hcontinues := hlegal.shaped.continues c ((mem_functionName_iff hnumeral name).mpr hc)
    rw [(not_continues_of_isOtherNumeral hnumeral).2] at hcontinues
    cases hcontinues
  · intro hname
    have hadmits : ∀ c ∈ (functionName name).toList, python.Admits c := by
      intro c hc
      refine python_admits (isWord_of_mem_functionName hc) ?_
      rw [Bool.eq_false_iff]
      intro hnumeral
      exact absurd hnumeral
        (Bool.eq_false_iff.mp (hname c ((mem_functionName_iff hnumeral name).mp hc)))
    obtain ⟨rest, hrest⟩ := test_isPrefix_functionName name
    constructor
    · rw [← hrest] at hadmits ⊢
      exact shaped_of_admits (by decide) hadmits
    · intro hmem
      have hnot := List.all_eq_true.mp starts_reserved.2 _ hmem
      rw [List.isPrefixOf_iff_prefix.mpr ⟨rest, hrest⟩] at hnot
      cases hnot

/-- The name of a class is accepted by both languages exactly if the test is called by no numeral of
another kind, by no vertical tilde, and by no reserved word. The name of a test function is accepted
exactly if the test is called by no such numeral. -/
theorem names_legal_iff (name : String) :
    (java.Legal (className name) ∧ javaScript.Legal (className name) ↔
      (∀ c ∈ name.toList, Chars.isOtherNumeral c = false ∧ c ≠ verticalTilde) ∧
        String.ofList (wordChars name.toList) ∉ java.reserved ++ javaScript.reserved) ∧
    (python.Legal (functionName name) ↔ ∀ c ∈ name.toList, Chars.isOtherNumeral c = false) :=
  ⟨className_legal_iff name, functionName_legal_iff name⟩

/-- A test can be called by a reserved word, or by a fraction. -/
theorem names_not_legal :
    ¬(java.Legal (className "class") ∧ javaScript.Legal (className "class")) ∧
      ¬(java.Legal (className "\u00BD") ∧ javaScript.Legal (className "\u00BD")) ∧
      ¬python.Legal (functionName "\u00BD") := by
  refine ⟨fun h => ?_, fun h => ?_, fun h => ?_⟩
  · have hclass : "class" ∈ java.reserved ++ javaScript.reserved := by simp [java]
    have hwords : wordChars "class".toList = "class".toList := by decide
    apply ((names_legal_iff "class").1.mp h).2
    rwa [hwords, String.ofList_toList]
  · exact absurd (((names_legal_iff "\u00BD").1.mp h).1 '\u00BD' (by decide)).1 (by decide)
  · exact absurd ((names_legal_iff "\u00BD").2.mp h '\u00BD' (by decide)) (by decide)

end Clickpath.Script
