import Clickpath.Proofs.Chars.Classes
import Clickpath.Proofs.Script.Deeds

/-! # What literals denote

In every target the literal of a text denotes that text, ends no line, and keeps to visible
characters of ASCII where the language of the target is no Python.
-/

namespace Clickpath.Script

namespace Dialect

/-! ## Characters of literals -/

/-- An escape is written in visible characters. -/
theorem isVisibleAscii_of_mem_unicodeEscape {c written : Char}
    (hwritten : written ∈ Json.unicodeEscape c) : Chars.isVisibleAscii written = true := by
  have hunit (unit : Nat) (hmem : written ∈ Json.unitEscape unit) :
      Chars.isVisibleAscii written = true := by
    rw [Json.unitEscape, List.mem_cons, List.mem_cons] at hmem
    rcases hmem with rfl | rfl | hmem
    · decide
    · decide
    · exact Chars.isVisibleAscii_of_isHexDigit (Chars.isHexDigit_of_mem_hexDigits hmem)
  rw [Json.unicodeEscape] at hwritten
  split at hwritten
  next => exact hunit _ hwritten
  next => exact (List.mem_append.mp hwritten).elim (hunit _) (hunit _)

/-- Where literals keep to ASCII, all of their characters are visible. -/
theorem isVisibleAscii_of_mem_literal {s : String} {written : Char}
    (hwritten : written ∈ (Json.literal true s).toList) : Chars.isVisibleAscii written = true := by
  rw [Json.literal, String.toList_ofList, Json.literalChars, List.mem_append, List.mem_cons,
    List.mem_singleton] at hwritten
  rcases hwritten with (rfl | hwritten) | rfl
  · decide
  · obtain ⟨c, _, hwritten⟩ := List.mem_flatMap.mp hwritten
    have hspelled := literalChar_spelled true c
    generalize Json.literalChar true c = text at hspelled hwritten
    cases hspelled with
    | escape letter hletter =>
        have hvisible : Chars.isVisibleAscii letter = true := by
          unfold escape? at hletter
          split at hletter <;> first | decide | cases hletter
        rcases List.mem_cons.mp hwritten with rfl | hwritten
        · decide
        · rw [List.mem_singleton.mp hwritten]
          exact hvisible
    | unicode _ => exact isVisibleAscii_of_mem_unicodeEscape hwritten
    | plain _ _ hvisible hplain =>
        rw [List.mem_singleton.mp hwritten, Chars.isVisibleAscii_iff]
        exact ⟨hvisible, by simpa using hplain⟩
  · decide

end Dialect

open Dialect

/-- The emitters of the catalog limit literals to ASCII where the language of their target asks for
it. -/
theorem Catalog.asciiLiterals_of_mem {t : Target} {e : Emitter}
    (he : (t, e) ∈ Catalog.standard.entries) : e.asciiLiterals = t.dialect.asciiLiterals := by
  rw [entries_standard] at he
  simp only [List.mem_cons, List.not_mem_nil, or_false, Prod.mk.injEq] at he
  rcases he with ⟨rfl, rfl⟩ | ⟨rfl, rfl⟩ | ⟨rfl, rfl⟩ | ⟨rfl, rfl⟩ <;> rfl

/-- In each of the standard targets, the literal of a text is one literal of the language of the
target, which denotes that text and ends with its last character, whatever stands behind it but a
further quotation mark. It has no end of a line in it, and only visible characters of ASCII in Java
and JavaScript. -/
theorem literal_denotes {t : Target} {e : Emitter} (he : (t, e) ∈ Catalog.standard.entries)
    (s : String) :
    (∀ rest, (t.dialect.read rest).head? ≠ some quote →
        t.dialect.stringIn?
            (t.dialect.read (((Piece.literal s).write e.asciiLiterals).toList ++ rest)) =
          some (s, t.dialect.read rest)) ∧
      (∀ c ∈ ((Piece.literal s).write e.asciiLiterals).toList, t.dialect.isLineEnd c = false) ∧
      (t.dialect ≠ python → ∀ c ∈ ((Piece.literal s).write e.asciiLiterals).toList,
        Chars.isVisibleAscii c = true) := by
  rw [Catalog.asciiLiterals_of_mem he, Piece.write]
  refine ⟨fun rest hrest => stringIn?_literal _ s hrest, inLine_literal _ s, ?_⟩
  intro hl c hc
  have hascii : t.dialect.asciiLiterals = true := by
    cases hdialect : t.dialect with
    | python => exact absurd hdialect hl
    | java | javaScript => rfl
  rw [hascii] at hc
  exact isVisibleAscii_of_mem_literal hc

/-- A text with a quotation mark, what looks like a letter code, an end of a line, an accented
letter and a character beyond the basic plane. -/
def wildText : String := "\"\\u0041\né😀"

/-- In Java a letter code in the text keeps its backslash, and the string is the text again. -/
theorem literal_denotes_wildText :
    ((⟨"selenium", "java"⟩ : Target), Java.selenium) ∈ Catalog.standard.entries ∧
      (Piece.literal wildText).write Java.selenium.asciiLiterals =
        "\"\\\"\\\\u0041\\n\\u00e9\\ud83d\\ude00\"" ∧
      java.stringIn? (java.read
        ((Piece.literal wildText).write Java.selenium.asciiLiterals).toList) =
          some (wildText, []) := by
  have htarget : ((⟨"selenium", "java"⟩ : Target), Java.selenium) ∈ Catalog.standard.entries := by
    rw [Catalog.entries_standard]
    exact List.mem_cons_self
  have hread := (literal_denotes htarget wildText).1 [] (by decide)
  rw [List.append_nil] at hread
  exact ⟨htarget, rfl, hread⟩

end Clickpath.Script
