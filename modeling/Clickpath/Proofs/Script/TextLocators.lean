import Clickpath.Proofs.Script.Denotation
import Clickpath.Proofs.XPath.Expression

/-! # Locators of texts

The elements with a text are found by a path expression that stands as a literal in a locator. There
are two layers of marks: those of the literal, in which marks are escaped, and those of the
expression in it, in which nothing can be. Read through both of them, a locator asks for the very
text, whatever marks that has.
-/

namespace Clickpath.Script

namespace Dialect

/-- The text that a literal denotes which is all of a code between two other parts. -/
def argument? (l : Dialect) (opening closing : String) (code : String) : Option String :=
  let front := l.read opening.toList
  let codes := l.read code.toList
  if front.isPrefixOf codes then
    (l.stringIn? (codes.drop front.length)).bind fun (found, rest) =>
      if rest = l.read closing.toList then some found else none
  else none

/-- A literal between two other parts denotes its text. -/
theorem argument?_literal (l : Dialect) {opening closing : String}
    (hopening : '\\' ∉ opening.toList)
    (hclosing : (l.read closing.toList).head? ≠ some quote) (s : String) :
    l.argument? opening closing (opening ++ Json.literal l.asciiLiterals s ++ closing) =
      some s := by
  have hcodes (rest : List Char) : l.read (opening.toList ++ rest) =
      l.read opening.toList ++ l.read rest := by
    have hsettled := settled_of_notMem l hopening
    have hempty : l.read opening.toList = opening.toList.flatMap l.codes := by
      have hnothing : l.read [] = [] := by cases l <;> rfl
      have halone := hsettled []
      rwa [List.append_nil, hnothing, List.append_nil] at halone
    rw [hsettled, hempty]
  have hread : l.read (opening ++ Json.literal l.asciiLiterals s ++ closing).toList =
      l.read opening.toList ++
        l.read ((Json.literal l.asciiLiterals s).toList ++ closing.toList) := by
    rw [String.toList_append, String.toList_append, List.append_assoc, hcodes]
  have hfront : (l.read opening.toList).isPrefixOf
      (l.read (opening ++ Json.literal l.asciiLiterals s ++ closing).toList) = true := by
    rw [hread, List.isPrefixOf_iff_prefix]
    exact List.prefix_append _ _
  rw [argument?, if_pos hfront, hread, List.drop_left, stringIn?_literal l s hclosing,
    Option.bind_some]
  exact if_pos rfl

end Dialect

open Dialect XPath

theorem Java.locatorText_text {s : Selector} (hkind : s.kind = some .text) :
    Java.selenium.locatorText s = "By.xpath(" ++ Json.literal true (withText s.raw) ++ ")" := by
  simp [Emitter.locatorText, Java.selenium, Java.locator, Java.finder, Java.finderText, hkind,
    Statement.write, Piece.write, ← String.append_assoc]

theorem Python.locatorText_text {s : Selector} (hkind : s.kind = some .text) :
    Python.selenium.locatorText s = "By.XPATH, " ++ Json.literal false (withText s.raw) ++ "" := by
  simp [Emitter.locatorText, Python.selenium, Python.Selenium.locator, Python.Selenium.finder,
    hkind, Statement.write, Piece.write, ← String.append_assoc]

/-- The locators of a text in Java and in Python denote one path expression, which asks for the
elements with this text by an expression whose value it is. -/
theorem textLocator_denotes {s : Selector} (hkind : s.kind = some .text) :
    ∃ (path : String) (expr : StringExpr),
      java.argument? "By.xpath(" ")" (Java.selenium.locatorText s) = some path ∧
      python.argument? "By.XPATH, " "" (Python.selenium.locatorText s) = some path ∧
      XPath.read? path = some [⟨true, none, some (.text expr)⟩] ∧ expr.value = s.raw := by
  obtain ⟨expr, hread, hvalue⟩ := read?_withText s.raw
  refine ⟨withText s.raw, expr, ?_, ?_, hread, hvalue⟩
  · rw [Java.locatorText_text hkind]
    exact argument?_literal java (by decide) (by decide) _
  · rw [Python.locatorText_text hkind]
    exact argument?_literal python (by decide) (by decide) _

/-- The locator in Java of a text with marks of both kinds and a backslash. -/
theorem textLocator_denotes_bothMarks :
    let s : Selector := ⟨some .text, "'\"\\", by decide⟩
    s.kind = some .text ∧
      Java.selenium.locatorText s =
        "By.xpath(\"//*[text()=concat('', \\\"'\\\", '\\\"\\\\')]\")" ∧
      ∃ (path : String) (expr : StringExpr),
        java.argument? "By.xpath(" ")" (Java.selenium.locatorText s) = some path ∧
        XPath.read? path = some [⟨true, none, some (.text expr)⟩] ∧ expr.value = "'\"\\" := by
  intro s
  obtain ⟨path, expr, hjava, _, hread, hvalue⟩ := textLocator_denotes (s := s) rfl
  exact ⟨rfl, by decide, path, expr, hjava, hread, hvalue⟩

end Clickpath.Script
