import Clickpath.Json.Literal
import Clickpath.Json.Reader
import Clickpath.Proofs.Chars.Reading
import Clickpath.Proofs.Script.Lexis

/-! # Units of literals

How a literal of a language is written, and what its parts denote. An escape stands for one unit of
a string: a code point in Python, where halves of pairs are not joined, and a UTF-16 code unit
elsewhere, where they are.
-/

namespace Clickpath.Script

namespace Dialect

def isLineEnd : Dialect → Char → Bool
  | javaScript, c => ['\n', '\r', '\u2028', '\u2029'].contains c
  | java, c | python, c => ['\n', '\r'].contains c

def units : Dialect → Char → List Nat
  | java, c | javaScript, c => utf16 c
  | python, c => [c.toNat]

/-- The unit for which a letter behind a backslash stands. Other escapes, in which the languages
differ, are not read. -/
def escape? : Char → Option Nat
  | '\x22' => some 0x22
  | '\'' => some 0x27
  | '\\' => some 0x5C
  | 'b' => some 0x08
  | 't' => some 0x09
  | 'n' => some 0x0A
  | 'f' => some 0x0C
  | 'r' => some 0x0D
  | _ => none

/-- The character with a code point, unless that is half of a pair or beyond all planes. -/
def charOf? (code : Nat) : Option Char := if code.isValidChar then some (Char.ofNat code) else none

/-- The characters of UTF-16 code units, with pairs joined. -/
def joinPairs? : List Nat → Option (List Char)
  | high :: low :: rest =>
    if Json.isHighUnit high && Json.isLowUnit low then
      (joinPairs? rest).map (Json.pairChar high low :: ·)
    else
      match charOf? high with
      | some c => (joinPairs? (low :: rest)).map (c :: ·)
      | none => none
  | [unit] => (charOf? unit).map fun c => [c]
  | [] => some []

def characters? : Dialect → List Nat → Option (List Char)
  | java, units | javaScript, units => joinPairs? units
  | python, units => units.mapM charOf?

/-- The literals of a language keep to ASCII unless halves of pairs are not joined in it. -/
def asciiLiterals : Dialect → Bool
  | java | javaScript => true
  | python => false

/-- The ways in which a character is written in a literal. -/
inductive Spelled (ascii : Bool) (c : Char) : List Char → Prop
  | escape (letter : Char) (hletter : escape? letter = some c.toNat) :
      Spelled ascii c ['\\', letter]
  | unicode (hcode : c.toNat < 0x20 ∨ ascii = true) : Spelled ascii c (Json.unicodeEscape c)
  | plain (hquote : c ≠ '\x22') (hbackslash : c ≠ '\\') (hvisible : 0x20 ≤ c.toNat)
      (hplain : (ascii && c.toNat > 0x7E) = false) : Spelled ascii c [c]

/-- Each character is written in one of the ways that a reader knows. -/
theorem literalChar_spelled (ascii : Bool) (c : Char) :
    Spelled ascii c (Json.literalChar ascii c) := by
  unfold Json.literalChar
  split
  next h => exact .escape '\x22' (by rw [beq_iff_eq.mp h]; rfl)
  next hquote =>
  split
  next h => exact .escape '\\' (by rw [beq_iff_eq.mp h]; rfl)
  next hbackslash =>
  split
  next h => exact .escape 'n' (by rw [beq_iff_eq.mp h]; rfl)
  next =>
  split
  next h => exact .escape 'r' (by rw [beq_iff_eq.mp h]; rfl)
  next =>
  split
  next h => exact .escape 't' (by rw [beq_iff_eq.mp h]; rfl)
  next =>
  split
  next h => exact .escape 'f' (by rw [beq_iff_eq.mp h]; rfl)
  next =>
  split
  next h => exact .escape 'b' (by rw [beq_iff_eq.mp h]; rfl)
  next =>
  split
  next h => exact .unicode (.inl h)
  next hvisible =>
  split
  next h => exact .unicode (.inr (Bool.and_eq_true_iff.mp h).1)
  next hplain =>
    exact .plain (by simpa using hquote) (by simpa using hbackslash) (Nat.le_of_not_lt hvisible)
      (eq_false_of_ne_true hplain)

/-! ## Ends of lines -/

theorem mem_of_isLineEnd {l : Dialect} {c : Char} (hc : l.isLineEnd c = true) :
    c ∈ ['\n', '\r', '\u2028', '\u2029'] := by
  cases l with
  | javaScript => simpa [isLineEnd] using hc
  | java | python =>
      have hfirst : c ∈ ['\n', '\r'] := by simpa [isLineEnd] using hc
      exact List.mem_append_left ['\u2028', '\u2029'] hfirst

/-- A class of characters that has no end of a line. -/
theorem isLineEnd_eq_false {l : Dialect} {c : Char} (class? : Char → Bool)
    (hclass : ['\n', '\r', '\u2028', '\u2029'].all (fun c => !class? c) = true)
    (hc : class? c = true) : l.isLineEnd c = false := by
  rw [← Bool.not_eq_true]
  intro hend
  have hnot := List.all_eq_true.mp hclass c (mem_of_isLineEnd hend)
  rw [hc] at hnot
  cases hnot

/-- A character that stands for itself in a literal ends no line. -/
theorem isLineEnd_of_plain {l : Dialect} {c : Char} (hvisible : 0x20 ≤ c.toNat)
    (hplain : (l.asciiLiterals && c.toNat > 0x7E) = false) : l.isLineEnd c = false := by
  have hne (other : Char) (hother : other.toNat < 0x20) : c ≠ other := by
    rintro rfl
    omega
  have hline := hne '\n' (by decide)
  have hreturn := hne '\r' (by decide)
  cases l with
  | java | python => simp [isLineEnd, hline, hreturn]
  | javaScript =>
      -- A visible character of ASCII is none of the two separators beyond it.
      have hsmall : c.toNat ≤ 0x7E := by simpa [asciiLiterals] using hplain
      have hseparator : c ≠ '\u2028' := by
        rintro rfl
        exact absurd hsmall (by decide)
      have hparagraph : c ≠ '\u2029' := by
        rintro rfl
        exact absurd hsmall (by decide)
      simp [isLineEnd, hline, hreturn, hseparator, hparagraph]

/-! ## Units -/

theorem escape?_lt {letter : Char} {unit : Nat} (hletter : escape? letter = some unit) :
    unit < 0x10000 := by
  unfold escape? at hletter
  split at hletter <;> cases hletter <;> decide

/-! ## Characters -/

theorem charOf?_toNat (c : Char) : charOf? c.toNat = some c := by
  have hvalid : c.toNat.isValidChar := c.valid
  rw [charOf?, if_pos hvalid, Char.ofNat_toNat]

/-- A character beyond the basic plane is a pair, and the pair is that character. -/
theorem joinPairs?_utf16 (c : Char) (rest : List Nat) :
    joinPairs? (utf16 c ++ rest) = (joinPairs? rest).map (c :: ·) := by
  have hvalid := c.valid
  simp only [UInt32.isValidChar, Nat.isValidChar] at hvalid
  change c.toNat < 0xD800 ∨ 0xDFFF < c.toNat ∧ c.toNat < 0x110000 at hvalid
  unfold utf16
  split
  next hsmall =>
    have hsingle : Json.isHighUnit c.toNat = false := by
      simp [Json.isHighUnit]
      omega
    cases rest with
    | nil => simp [joinPairs?, charOf?_toNat]
    | cons next rest => simp [joinPairs?, hsingle, charOf?_toNat]
  next hlarge =>
    have hhigh : Json.isHighUnit (0xD800 + (c.toNat - 0x10000) / 0x400) = true := by
      simp [Json.isHighUnit]
      omega
    have hlow : Json.isLowUnit (0xDC00 + (c.toNat - 0x10000) % 0x400) = true := by
      simp [Json.isLowUnit]
      omega
    have hpair : Json.pairChar (0xD800 + (c.toNat - 0x10000) / 0x400)
        (0xDC00 + (c.toNat - 0x10000) % 0x400) = c := by
      have hcode : 0x10000 + (0xD800 + (c.toNat - 0x10000) / 0x400 - 0xD800) * 0x400 +
          (0xDC00 + (c.toNat - 0x10000) % 0x400 - 0xDC00) = c.toNat := by omega
      rw [Json.pairChar, hcode, Char.ofNat_toNat]
    simp [joinPairs?, hhigh, hlow, hpair]

/-- The units of a string are joined to its characters again. -/
theorem characters?_units (l : Dialect) (s : List Char) :
    l.characters? (s.flatMap l.units) = some s := by
  cases l with
  | python =>
      simp only [characters?]
      induction s with
      | nil => rfl
      | cons c s ih => simp_all [units, charOf?_toNat]
  | java | javaScript =>
      simp only [characters?]
      induction s with
      | nil => rfl
      | cons c s ih =>
          rw [List.flatMap_cons]
          exact (joinPairs?_utf16 c _).trans (by rw [ih]; rfl)

end Dialect

end Clickpath.Script
