import Clickpath.Proofs.Script.Idiom
import Clickpath.Proofs.Script.Targets

/-! # What Playwright scripts do

The scripts for Playwright are read back as what the steps of their test do, in both languages and
for all texts. The forms of the calls are told apart by their code, and the literals denote what the
steps hold.
-/

namespace Clickpath.Script

open Dialect

/-! ## Lines of statements -/

theorem inLine_unicodeEscape (l : Dialect) (c : Char) : l.InLine (Json.unicodeEscape c) := by
  have hunit (unit : Nat) : l.InLine (Json.unitEscape unit) := by
    intro c hc
    rw [Json.unitEscape, List.mem_cons, List.mem_cons] at hc
    rcases hc with rfl | rfl | hc
    · cases l <;> rfl
    · cases l <;> rfl
    · exact isLineEnd_eq_false _ (by decide) (Chars.isHexDigit_of_mem_hexDigits hc)
  unfold Json.unicodeEscape
  split
  next => exact hunit _
  next => exact (hunit _).append (hunit _)

theorem inLine_literalChar (l : Dialect) (c : Char) :
    l.InLine (Json.literalChar l.asciiLiterals c) := by
  have hspelled := literalChar_spelled l.asciiLiterals c
  generalize Json.literalChar l.asciiLiterals c = written at hspelled
  cases hspelled with
  | escape letter hletter =>
      have hbackslash : l.isLineEnd '\\' = false := by cases l <;> rfl
      have hend : l.isLineEnd letter = false :=
        isLineEnd_eq_false (fun c => (escape? c).isSome) (by decide) (by rw [hletter]; rfl)
      simp [InLine, hbackslash, hend]
  | unicode _ => exact inLine_unicodeEscape l c
  | plain _ _ hvisible hplain => simpa [InLine] using isLineEnd_of_plain hvisible hplain

theorem inLine_literal (l : Dialect) (s : String) :
    l.InLine (Json.literal l.asciiLiterals s).toList := by
  have hquote : l.InLine ['\x22'] := by cases l <;> simp [InLine, isLineEnd]
  have hbody : l.InLine (s.toList.flatMap (Json.literalChar l.asciiLiterals)) := by
    intro c hc
    obtain ⟨original, _, hc⟩ := List.mem_flatMap.mp hc
    exact inLine_literalChar l original c hc
  rw [Json.literal, String.toList_ofList, Json.literalChars]
  exact (hquote.append hbody).append hquote

/-- A part of a statement is a literal, or code that ends no line. -/
def Piece.inLine (l : Dialect) : Piece → Bool
  | .code text => text.toList.all fun c => !l.isLineEnd c
  | .literal _ => true

/-- A statement keeps to its line. -/
theorem inLine_write {l : Dialect} {s : Statement} (hs : s.all (Piece.inLine l) = true) :
    l.InLine (Statement.write l.asciiLiterals s).toList := by
  induction s with
  | nil => simp [InLine, Statement.write]
  | cons p s ih =>
      rw [List.all_cons, Bool.and_eq_true] at hs
      rw [toList_write_cons]
      apply InLine.append _ (ih hs.2)
      cases p with
      | code text =>
          intro c hc
          have hcode := List.all_eq_true.mp hs.1 c hc
          simpa using hcode
      | literal text => exact inLine_literal l text

/-- The line of a statement is quiet if it opens no block. -/
theorem quiet_line {e : Emitter} {i : Idiom} {s : Statement}
    (hindent : e.indent.toList.all (· == ' ') = true)
    (hascii : e.asciiLiterals = i.dialect.asciiLiterals)
    (hs : s.all (Piece.inLine i.dialect) = true) (hopens : i.opens (codeOf (e.line s)) = false) :
    i.Quiet (e.line s) := by
  refine ⟨?_, hopens⟩
  rw [Emitter.line, String.toList_append, hascii]
  refine InLine.append ?_ (inLine_write hs)
  intro c hc
  rw [beq_iff_eq.mp (List.all_eq_true.mp hindent c hc)]
  cases i.dialect <;> rfl

def Dialect.isCalm (l : Dialect) (c : Char) : Bool := !l.isLineEnd c && !l.mark.contains c

/-- A line of calm characters is quiet. -/
theorem quiet_of_isCalm {i : Idiom} {line : String}
    (hline : line.toList.all i.dialect.isCalm = true) : i.Quiet line := by
  have hcalm : ∀ c ∈ line.toList, i.dialect.isLineEnd c = false ∧ c ∉ i.dialect.mark := by
    intro c hc
    simpa [isCalm] using List.all_eq_true.mp hline c hc
  refine ⟨fun c hc => (hcalm c hc).1, ?_⟩
  rw [← Bool.not_eq_true, Idiom.opens, List.isPrefixOf_iff_prefix]
  intro hopens
  have hmark : ∃ c, c ∈ i.dialect.mark := by
    cases i.dialect <;> exact ⟨_, List.mem_cons_self⟩
  obtain ⟨c, hc⟩ := hmark
  have hmem := hopens.subset (List.mem_append_left _ hc)
  exact (hcalm c ((List.dropWhile_sublist _).subset hmem)).2 hc

set_option maxRecDepth 8000 in
theorem isCalm_of_isWord {l : Dialect} {c : Char} (hc : Chars.isWord c = true) :
    l.isCalm c = true := by
  have hend : l.isLineEnd c = false := isLineEnd_eq_false Chars.isWord (by decide) hc
  have hmark : c ∉ l.mark := by
    intro hmem
    apply notMem_specials_of_isWord hc
    cases l <;> simp_all [mark, specials]
  simp [isCalm, hend, hmark]

namespace JavaScript

/-- The first line for an action is read as its deed. -/
theorem deed_statements (action : Action) :
    ∃ call more, statements action = call :: more ∧
      Idiom.javaScript.deed? (codeOf (playwright.line call)) = some action.deed := by
  have hliteral := literal?_literal (l := Dialect.javaScript) (by decide)
  simp only [asciiLiterals] at hliteral
  cases action with
  | screenshot file =>
      refine ⟨_, _, rfl, ?_⟩
      cases file.bind Text.nonempty? <;>
        simp [capture, codeOf, Emitter.line, playwright, Statement.write, Piece.write, Idiom.deed?,
          Idiom.javaScript, Action.deed]
  | _ =>
      refine ⟨_, _, rfl, ?_⟩
      simp [locator, codeOf, Emitter.line, playwright, Statement.write, Piece.write, Idiom.deed?,
        Idiom.javaScript, Form.one, Form.two, fill?, List.isPrefixOf?,
        hliteral, Action.deed]

theorem inLine_statements (action : Action) :
    (statements action).all (fun s => s.all (Piece.inLine Dialect.javaScript)) = true := by
  cases action with
  | screenshot file =>
      cases hfile : file.bind Text.nonempty? <;>
        simp [statements, capture, hfile, Piece.inLine, isLineEnd]
  | _ => simp [statements, locator, Piece.inLine, isLineEnd]

/-- No line for an action opens a block. -/
theorem opens_statements (action : Action) :
    (statements action).all (fun s => !Idiom.javaScript.opens (codeOf (playwright.line s))) =
      true := by
  cases action with
  | screenshot file =>
      cases hfile : file.bind Text.nonempty? <;>
        simp [statements, capture, hfile, codeOf, Emitter.line, playwright, Statement.write,
          Piece.write, Idiom.opens, Idiom.javaScript, mark, List.isPrefixOf]
  | _ =>
      simp [statements, locator, codeOf, Emitter.line, playwright, Statement.write, Piece.write,
        Idiom.opens, Idiom.javaScript, mark, List.isPrefixOf]

theorem isCalm_className (name : String) :
    (className name).toList.all Dialect.javaScript.isCalm = true :=
  List.all_eq_true.mpr fun _ hc => isCalm_of_isWord (isWord_of_mem_className hc)

theorem isCalm_preamble (test : Test) :
    (preamble test).all (fun line => line.toList.all Dialect.javaScript.isCalm) = true := by
  simp only [preamble, List.all_cons, String.toList_append, List.all_append, isCalm_className]
  repeat rw [String.toList_ofList]
  decide

theorem isCalm_postamble (test : Test) :
    (postamble test).all (fun line => line.toList.all Dialect.javaScript.isCalm) = true := by
  simp only [postamble, List.all_cons, String.toList_append, List.all_append, isCalm_className]
  repeat rw [String.toList_ofList]
  decide

/-- The scripts of Playwright in JavaScript play their steps. -/
theorem plays : playwright.Plays .javaScript where
  mark := rfl
  indent := by decide
  deed := deed_statements
  statements := by
    intro action s hs
    have hopens := List.all_eq_true.mp (opens_statements action) s hs
    exact quiet_line (by decide) rfl (List.all_eq_true.mp (inLine_statements action) s hs)
      (by simpa using hopens)
  emptyBody := by
    intro s hs
    cases hs
  preamble := fun test line hline =>
    quiet_of_isCalm (List.all_eq_true.mp (isCalm_preamble test) line hline)
  postamble := fun test line hline =>
    quiet_of_isCalm (List.all_eq_true.mp (isCalm_postamble test) line hline)
  preamble_ne_nil := fun _ => List.cons_ne_nil _ _

end JavaScript

namespace Python.Playwright

/-- The line for an action is read as its deed. -/
theorem deed_statement (action : Action) :
    Idiom.python.deed? (codeOf (playwright.line (statement action))) = some action.deed := by
  have hliteral := literal?_literal (l := Dialect.python) (by decide)
  simp only [asciiLiterals] at hliteral
  cases action with
  | screenshot file =>
      cases hfile : file.bind Text.nonempty? <;>
        simp [statement, hfile, fileName, generatedFile, codeOf, Emitter.line, playwright,
          Statement.write, Piece.write, Idiom.deed?, Idiom.python, Action.deed]
  | _ =>
      simp [statement, locator, codeOf, Emitter.line, playwright, Statement.write, Piece.write,
        Idiom.deed?, Idiom.python, Form.one, Form.two, fill?, List.isPrefixOf?, hliteral,
        Action.deed]

theorem inLine_statement (action : Action) :
    (statement action).all (Piece.inLine Dialect.python) = true := by
  cases action with
  | screenshot file =>
      cases hfile : file.bind Text.nonempty? <;>
        simp [statement, hfile, fileName, generatedFile, Piece.inLine, isLineEnd]
  | _ => simp [statement, locator, Piece.inLine, isLineEnd]

theorem opens_statement (action : Action) :
    Idiom.python.opens (codeOf (playwright.line (statement action))) = false := by
  cases action with
  | screenshot file =>
      cases hfile : file.bind Text.nonempty? <;>
        simp [statement, hfile, fileName, generatedFile, codeOf, Emitter.line, playwright,
          Statement.write, Piece.write, Idiom.opens, Idiom.python, mark, List.isPrefixOf]
  | _ =>
      simp [statement, locator, codeOf, Emitter.line, playwright, Statement.write, Piece.write,
        Idiom.opens, Idiom.python, mark, List.isPrefixOf]

/-- The title of a test is a comment, but not that of a step. -/
theorem quiet_title (test : Test) :
    Idiom.python.Quiet ("# Test Case: " ++ Text.collapseBlanks test.name) := by
  constructor
  · rw [String.toList_append]
    refine InLine.append ?_ (inLine_joinedWords _ _)
    simp [InLine, Idiom.python, isLineEnd]
  · simp [codeOf, Idiom.opens, Idiom.python, mark, List.isPrefixOf]

theorem isCalm_functionName (name : String) :
    (functionName name).toList.all Dialect.python.isCalm = true :=
  List.all_eq_true.mpr fun _ hc => isCalm_of_isWord (isWord_of_mem_functionName hc)

theorem quiet_preamble (test : Test) :
    ∀ line ∈ preamble test, Idiom.python.Quiet line := by
  have hcalm {line : List Char} (hline : line.all Dialect.python.isCalm = true) :
      Idiom.python.Quiet (String.ofList line) :=
    quiet_of_isCalm (by rwa [String.toList_ofList])
  have hdefinition : Idiom.python.Quiet ("def " ++ functionName test.name ++ "():") := by
    apply quiet_of_isCalm
    change ("def " ++ functionName test.name ++ "():").toList.all Dialect.python.isCalm = true
    simp only [String.toList_append, List.all_append, isCalm_functionName]
    repeat rw [String.toList_ofList]
    decide
  simp only [preamble, opening, List.cons_append, List.nil_append, List.forall_mem_cons]
  refine ⟨hcalm (by decide), hcalm (by decide), hcalm (by decide), hcalm (by decide),
    hcalm (by decide), quiet_title test, hdefinition, hcalm (by decide), hcalm (by decide),
    hcalm (by decide), List.forall_mem_nil _⟩

/-- The scripts of Playwright in Python play their steps. -/
theorem plays : playwright.Plays .python where
  mark := rfl
  indent := by decide
  deed := fun action => ⟨_, [], rfl, deed_statement action⟩
  statements := by
    intro action s hs
    obtain rfl := List.mem_singleton.mp hs
    exact quiet_line (by decide) rfl (inLine_statement action) (opens_statement action)
  emptyBody := by
    intro s hs
    cases hs
    exact quiet_of_isCalm (by decide)
  preamble := quiet_preamble
  postamble := by
    intro test line hline
    obtain rfl := List.mem_singleton.mp hline
    apply quiet_of_isCalm
    rw [String.toList_ofList]
    decide
  preamble_ne_nil := fun _ => List.cons_ne_nil _ _

end Python.Playwright

/-! ## Compiled scripts -/

theorem compile_javaScript (test : Test) :
    Catalog.standard.compile test (some "playwright") (some "javascript") =
      JavaScript.playwright.emit test := by
  obtain ⟨_, _, hjavaScript, _⟩ := Target.ofNames_standard
  have hlookup : Catalog.standard.entries.lookup ⟨"playwright", "javascript"⟩ =
      some JavaScript.playwright := by
    rw [Catalog.entries_standard]
    rfl
  exact @Catalog.compile_of_lookup _ ⟨"playwright", "javascript"⟩ _ (by decide) (by decide)
    hjavaScript hlookup test

theorem compile_python (test : Test) :
    Catalog.standard.compile test (some "playwright") (some "python") =
      Python.playwright.emit test := by
  obtain ⟨_, _, _, hpython⟩ := Target.ofNames_standard
  have hlookup : Catalog.standard.entries.lookup ⟨"playwright", "python"⟩ =
      some Python.playwright := by
    rw [Catalog.entries_standard]
    rfl
  exact @Catalog.compile_of_lookup _ ⟨"playwright", "python"⟩ _ (by decide) (by decide)
    hpython hlookup test

/-- Both scripts for Playwright are read as what the steps of the test do. -/
theorem read?_compile (test : Test) :
    Idiom.javaScript.read? (Catalog.standard.compile test (some "playwright") (some "javascript")) =
        some (test.steps.map (·.action.deed)) ∧
      Idiom.python.read? (Catalog.standard.compile test (some "playwright") (some "python")) =
        some (test.steps.map (·.action.deed)) := by
  rw [compile_javaScript, compile_python]
  exact ⟨JavaScript.plays.read?_emit test, Python.Playwright.plays.read?_emit test⟩

end Clickpath.Script
