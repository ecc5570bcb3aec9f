import Clickpath.Proofs.Script.Containment
import Clickpath.Proofs.Script.FixedLines
import Clickpath.Script.Catalog

/-! # Injection safety of the standard targets

Each of the four emitters is contained in its language. So the scripts of two tests that agree in
the names that code carries and in the outlines of their steps differ in literals and comments only,
whatever texts the tests hold, and brackets are balanced in the rest.
-/

namespace Clickpath.Script

open Dialect

/-! ## Finding methods -/

/-- The methods that find elements are plain code with balanced brackets. -/
structure PlainFinder (l : Dialect) (finder : Option SelectorKind → String) : Prop where
  isPlain (kind : Option SelectorKind) : (finder kind).toList.all Dialect.isPlain = true
  pending (kind : Option SelectorKind) (awaited : List Nat) :
    Brackets.pending awaited ((finder kind).toList.flatMap l.codes) = some awaited

/-- That methods are plain and balanced is told by trying all strategies. -/
theorem PlainFinder.of_all {l : Dialect} {finder : Option SelectorKind → String}
    (h : ∀ kind ∈ none :: SelectorKind.all.map some,
      (finder kind).toList.all Dialect.isPlain = true ∧
      Brackets.balanced ((finder kind).toList.flatMap l.codes) = true) : PlainFinder l finder := by
  have hall : ∀ kind, kind ∈ none :: SelectorKind.all.map some := by
    intro kind
    cases kind with
    | none => exact List.mem_cons_self
    | some kind =>
        exact List.mem_cons_of_mem _ (List.mem_map_of_mem (SelectorKind.mem_all kind))
  exact ⟨fun kind => (h kind (hall kind)).1,
    fun kind => Brackets.pending_of_balanced (h kind (hall kind)).2⟩

/-! ## Java -/

namespace Java

theorem plainFinder : PlainFinder java finder := .of_all (by decide)

theorem isPlain_statements {a : Action} (ha : ∀ file, a ≠ .screenshot file) :
    (statements a).all (fun s => s.all Piece.isPlain) = true := by
  cases a with
  | screenshot file => exact absurd rfl (ha file)
  | _ =>
      simp only [statements, element, locator, List.cons_append, List.nil_append, List.all_cons,
        List.all_nil, Piece.isPlain, plainFinder.isPlain, Bool.and_true, Bool.true_and]
      repeat rw [String.toList_ofList]
      decide

/-- The brackets of the statements for an action are balanced. -/
theorem balanced_statements (a : Action) :
    Brackets.balanced ((statements a).flatMap fun s => s.flatMap (Piece.left java)) = true := by
  cases a <;>
    simp only [Brackets.balanced, statements, element, locator, List.cons_append, List.nil_append,
      List.flatMap_cons, List.flatMap_nil, List.append_nil, Piece.left, Brackets.pending_append,
      plainFinder.pending, Option.bind_some] <;>
    (repeat rw [String.toList_ofList]) <;>
    decide

/-- The statement for a capture is a comment. -/
theorem takes_screenshot (file : Option String) (awaited : List Nat) :
    Takes java (unlines ((statements (.screenshot file)).map selenium.line)) awaited awaited := by
  have hindent : selenium.indent.toList.all (· == ' ') = true := by decide
  have htext : (Statement.write true [.code "// Add screenshot logic here"]).toList =
      java.mark ++ " Add screenshot logic here".toList := by
    rw [toList_write_cons, Piece.write, String.toList_ofList, String.toList_ofList]
    rfl
  have hline : ended (selenium.line [.code "// Add screenshot logic here"]) =
      selenium.indent.toList ++ (java.mark ++ " Add screenshot logic here".toList ++ ['\n']) := by
    rw [toList_line, ← htext, List.append_assoc]
    rfl
  rw [statements, List.map_singleton, unlines, List.flatMap_singleton, hline]
  exact (Takes.of_plain (isPlain_indent hindent) (pending_indent java hindent awaited)).append
    (.of_comment awaited (by decide) (fun _ => by decide))

set_option maxRecDepth 2000 in
/-- The preamble leaves the brackets of class, method and attempt to be closed. -/
theorem takes_preamble (test : Test) :
    Takes java (unlines (preamble test)) [] (List.replicate 3 '\x7d'.toNat) := by
  have hlines : unlines (preamble test) =
      unlines ["import org.openqa.selenium.By;", "import org.openqa.selenium.WebDriver;",
        "import org.openqa.selenium.chrome.ChromeDriver;", ""] ++ "public class ".toList ++
      (className test.name).toList ++
      unlines [" \x7b", "    public static void main(String[] args) \x7b",
        "        WebDriver driver = new ChromeDriver();", "        try \x7b"] := by
    simp only [preamble, unlines, ended, List.flatMap_cons, List.flatMap_nil, String.toList_append,
      List.append_assoc, List.nil_append]
  have hfront : Takes java (unlines ["import org.openqa.selenium.By;",
      "import org.openqa.selenium.WebDriver;", "import org.openqa.selenium.chrome.ChromeDriver;",
      ""] ++ "public class ".toList) [] [] := by
    simp only [unlines, ended, List.flatMap_cons, List.flatMap_nil]
    repeat rw [String.toList_ofList]
    exact .of_plain (by decide) (by decide)
  have hback : Takes java (unlines [" \x7b", "    public static void main(String[] args) \x7b",
      "        WebDriver driver = new ChromeDriver();", "        try \x7b"]) []
      (List.replicate 3 '\x7d'.toNat) := by
    simp only [unlines, ended, List.flatMap_cons, List.flatMap_nil]
    repeat rw [String.toList_ofList]
    exact .of_plain (by decide) (by decide)
  rw [hlines]
  exact (hfront.append (.of_word java [] fun _ => isWord_of_mem_className)).append hback

theorem takes_postamble :
    Takes java (unlines postamble) (List.replicate 3 '\x7d'.toNat) [] := by
  simp only [postamble, unlines, ended, List.flatMap_cons, List.flatMap_nil]
  repeat rw [String.toList_ofList]
  exact .of_plain (by decide) (by decide)

/-- The emitter for Selenium in Java is contained. -/
theorem contained : selenium.Contained java where
  mark := rfl
  indent := by decide
  statements := by
    intro action s hs
    have hplain := isPlain_statements (a := action)
    cases action with
    | screenshot file =>
        obtain rfl := List.mem_singleton.mp hs
        have hclosed := (takes_screenshot file []).closed
        rw [statements, List.map_singleton, unlines, List.flatMap_singleton] at hclosed
        exact .of_closed hclosed
    | _ =>
        have hall := List.all_eq_true.mp (hplain (by intro _ h; cases h))
        exact alike_line_of_isPlain (by decide) (hall s hs)
  hollow := by
    intro a b h
    refine Action.of_outline_eq (motive := fun a b => (statements a).map Statement.hollow =
      (statements b).map Statement.hollow) ?_ ?_ ?_ ?_ ?_ h
    all_goals intros
    all_goals simp [statements, element, locator, Statement.hollow, Piece.hollow, *]
  balanced := by
    intro action
    have hlines := fun h => balanced_lines (e := selenium) (by decide)
      (isPlain_statements (a := action) h) (balanced_statements action)
    cases action with
    | screenshot file => exact beq_iff_eq.mpr (takes_screenshot file []).pending
    | _ => exact hlines (by intro _ h; cases h)
  emptyBody := by
    intro s hs
    cases hs
  preamble := by
    intro a b hclass _
    have hsame : preamble a = preamble b := by rw [preamble, hclass, preamble]
    change java.Alike (unlines (preamble a)) (unlines (preamble b))
    rw [← hsame]
    exact .of_closed (takes_preamble a).closed
  postamble := fun _ _ _ => .of_closed takes_postamble.closed
  around := fun test => ⟨_, (takes_preamble test).pending, takes_postamble.pending⟩
  preamble_ne_nil := fun _ => List.cons_ne_nil _ _

end Java

/-! ## JavaScript -/

namespace JavaScript

theorem isPlain_capture (file : Option String) : (capture file).all Piece.isPlain = true := by
  cases file <;>
    simp only [capture, List.all_cons, List.all_nil, Piece.isPlain, Bool.and_true,
      Bool.true_and] <;>
    (repeat rw [String.toList_ofList]) <;>
    decide

theorem isPlain_statements (a : Action) :
    (statements a).all (fun s => s.all Piece.isPlain) = true := by
  cases a <;>
    simp only [statements, locator, isPlain_capture, List.cons_append, List.nil_append,
      List.all_cons, List.all_nil, Piece.isPlain, Bool.and_true, Bool.true_and] <;>
    (repeat rw [String.toList_ofList]) <;>
    decide

theorem balanced_capture (file : Option String) :
    Brackets.balanced ((capture file).flatMap (Piece.left javaScript)) = true := by
  cases file <;>
    simp only [capture, List.flatMap_cons, List.flatMap_nil, List.append_nil, Piece.left] <;>
    (repeat rw [String.toList_ofList]) <;>
    decide

/-- The brackets of the statements for an action are balanced. -/
theorem balanced_statements (a : Action) :
    Brackets.balanced
      ((statements a).flatMap fun s => s.flatMap (Piece.left javaScript)) = true := by
  cases a with
  | screenshot file => rw [statements, List.flatMap_singleton, balanced_capture]
  | _ =>
      simp only [statements, locator, List.cons_append, List.nil_append, List.flatMap_cons,
        List.flatMap_nil, List.append_nil, Piece.left]
      repeat rw [String.toList_ofList]
      decide

/-- Captures that are alike in having a file differ in its name only. -/
theorem hollow_capture {a b : Option String} (h : a.isSome = b.isSome) :
    (capture a).hollow = (capture b).hollow := by
  cases a <;> cases b <;> first | rfl | cases h

set_option maxRecDepth 2000 in
/-- The preamble leaves the brackets of function and attempt to be closed. -/
theorem takes_preamble (test : Test) :
    Takes javaScript (unlines (preamble test)) [] (List.replicate 2 '\x7d'.toNat) := by
  have hlines : unlines (preamble test) =
      unlines ["const \x7b chromium \x7d = require('playwright');", ""] ++
        "async function ".toList ++ (className test.name).toList ++
      unlines ["() \x7b", "    const browser = await chromium.launch(\x7b headless: false \x7d);",
        "    const context = await browser.newContext();",
        "    const page = await context.newPage();", "    try \x7b"] := by
    simp only [preamble, unlines, ended, List.flatMap_cons, List.flatMap_nil, String.toList_append,
      List.append_assoc, List.nil_append]
  have hfront : Takes javaScript
      (unlines ["const \x7b chromium \x7d = require('playwright');", ""] ++
        "async function ".toList) [] [] := by
    simp only [unlines, ended, List.flatMap_cons, List.flatMap_nil]
    repeat rw [String.toList_ofList]
    exact .of_plain (by decide) (by decide)
  have hback : Takes javaScript (unlines ["() \x7b",
      "    const browser = await chromium.launch(\x7b headless: false \x7d);",
      "    const context = await browser.newContext();",
      "    const page = await context.newPage();", "    try \x7b"]) []
      (List.replicate 2 '\x7d'.toNat) := by
    simp only [unlines, ended, List.flatMap_cons, List.flatMap_nil]
    repeat rw [String.toList_ofList]
    exact .of_plain (by decide) (by decide)
  rw [hlines]
  exact (hfront.append (.of_word javaScript [] fun _ => isWord_of_mem_className)).append hback

/-- The postamble closes what the preamble left open. -/
theorem takes_postamble (test : Test) :
    Takes javaScript (unlines (postamble test)) (List.replicate 2 '\x7d'.toNat) [] := by
  have hlines : unlines (postamble test) =
      unlines ["    \x7d finally \x7b", "        await browser.close();", "    \x7d", "\x7d", ""] ++
        (className test.name).toList ++ ended "();" := by
    simp only [postamble, unlines, ended, List.flatMap_cons, List.flatMap_nil,
      String.toList_append, List.append_assoc, List.append_nil]
  have hfront : Takes javaScript (unlines ["    \x7d finally \x7b",
      "        await browser.close();", "    \x7d", "\x7d", ""])
      (List.replicate 2 '\x7d'.toNat) [] := by
    simp only [unlines, ended, List.flatMap_cons, List.flatMap_nil]
    repeat rw [String.toList_ofList]
    exact .of_plain (by decide) (by decide)
  have hback : Takes javaScript (ended "();") [] [] := by
    rw [ended, String.toList_ofList]
    exact .of_plain (by decide) (by decide)
  rw [hlines]
  exact (hfront.append (.of_word javaScript [] fun _ => isWord_of_mem_className)).append hback

/-- The emitter for Playwright in JavaScript is contained. -/
theorem contained : playwright.Contained javaScript where
  mark := rfl
  indent := by decide
  statements := fun action s hs =>
    alike_line_of_isPlain (by decide) (List.all_eq_true.mp (isPlain_statements action) s hs)
  hollow := by
    intro a b h
    refine Action.of_outline_eq (motive := fun a b => (statements a).map Statement.hollow =
      (statements b).map Statement.hollow) ?_ ?_ ?_ ?_ ?screenshot h
    case screenshot =>
      intro file file' hfile
      rw [statements, statements, List.map_singleton, List.map_singleton, hollow_capture hfile]
    all_goals intros
    all_goals rfl
  balanced := fun action =>
    balanced_lines (by decide) (isPlain_statements action) (balanced_statements action)
  emptyBody := by
    intro s hs
    cases hs
  preamble := by
    intro a b hclass _
    have hsame : preamble a = preamble b := by rw [preamble, hclass, preamble]
    change javaScript.Alike (unlines (preamble a)) (unlines (preamble b))
    rw [← hsame]
    exact .of_closed (takes_preamble a).closed
  postamble := by
    intro a b hclass
    have hsame : postamble a = postamble b := by rw [postamble, hclass, postamble]
    change javaScript.Alike (unlines (postamble a)) (unlines (postamble b))
    rw [← hsame]
    exact .of_closed (takes_postamble a).closed
  around := fun test => ⟨_, (takes_preamble test).pending, (takes_postamble test).pending⟩
  preamble_ne_nil := fun _ => List.cons_ne_nil _ _

end JavaScript

/-! ## Python -/

namespace Python

theorem opening_eq (test : Test) :
    unlines (opening test) =
      (python.mark ++
        (" Test Case: ".toList ++ (Text.collapseBlanks test.name).toList) ++ ['\n']) ++
        ("def ".toList ++ (functionName test.name).toList ++ ended "():") := by
  have hmark : "# Test Case: ".toList = python.mark ++ " Test Case: ".toList := by
    rw [String.toList_ofList, String.toList_ofList]
    rfl
  simp only [opening, unlines, ended, List.flatMap_cons, List.flatMap_nil, String.toList_append,
    hmark, List.append_assoc, List.append_nil]

theorem newline_notMem_title (test : Test) :
    '\n' ∉ " Test Case: ".toList ++ (Text.collapseBlanks test.name).toList := by
  intro hmem
  cases List.mem_append.mp hmem with
  | inl hmem =>
      rw [String.toList_ofList] at hmem
      exact absurd hmem (by decide)
  | inr hmem => exact newline_notMem_joinedWords _ hmem

theorem takes_definition (test : Test) (awaited : List Nat) :
    Takes python ("def ".toList ++ (functionName test.name).toList ++ ended "():")
      awaited awaited := by
  have hlead : Takes python "def ".toList awaited awaited := by
    rw [String.toList_ofList]
    exact .of_plain (by decide) (Brackets.pending_of_balanced (by decide) awaited)
  have hname : Takes python (functionName test.name).toList awaited awaited :=
    .of_word python awaited fun _ => isWord_of_mem_functionName
  have hback : Takes python (ended "():") awaited awaited := by
    rw [ended, String.toList_ofList]
    exact .of_plain (by decide) (Brackets.pending_of_balanced (by decide) awaited)
  exact (hlead.append hname).append hback

/-- The title of a test and the first line of its function are nothing to a reader of brackets. -/
theorem takes_opening (test : Test) (awaited : List Nat) :
    Takes python (unlines (opening test)) awaited awaited := by
  have htitle := Takes.of_comment (l := python) awaited (newline_notMem_title test)
    (fun h => nomatch h)
  rw [opening_eq]
  exact htitle.append (takes_definition test awaited)

theorem alike_opening {a b : Test} (hfunction : functionName a.name = functionName b.name) :
    python.Alike (unlines (opening a)) (unlines (opening b)) := by
  have htitle : ∀ test, _ := fun test =>
    closed_comment python (newline_notMem_title test) (fun h => nomatch h)
  rw [opening_eq, opening_eq, hfunction]
  exact .append ⟨(htitle a).1, (htitle b).1, (htitle a).2.trans (htitle b).2.symm⟩
    (.of_closed (takes_definition b []).closed)

/-- The expression for a capture's name has one literal in it, which is fixed. -/
theorem takes_generatedFile (awaited : List Nat) :
    Takes python generatedFile.toList awaited awaited := by
  have hfile : generatedFile.toList = ['f'] ++
      (Json.literal false "screenshot-\x7bint(time.time() * 1000)\x7d.png").toList := by
    rw [generatedFile, Json.literal, String.toList_ofList, String.toList_ofList,
      String.toList_ofList]
    decide
  have hletter : Takes python ['f'] awaited awaited :=
    .of_plain (by decide) (Brackets.pending_of_balanced (by decide) awaited)
  rw [hfile]
  exact hletter.append (.of_literal python false awaited _)

/-- Without a file, the name is made when the script runs. -/
theorem fileName_of_outline_eq {file : Option String}
    (h : (Action.screenshot file).outline = .screenshot false) :
    fileName (file.bind Text.nonempty?) = .code generatedFile := by
  rw [Action.outline, Outline.screenshot.injEq, Option.isSome_eq_false_iff,
    Option.isNone_iff_eq_none] at h
  rw [h, fileName]

/-- With a file, the name is a literal. -/
theorem fileName_of_outline_ne {file : Option String}
    (h : (Action.screenshot file).outline ≠ .screenshot false) :
    ∃ name, fileName (file.bind Text.nonempty?) = .literal name := by
  cases hfile : file.bind Text.nonempty? with
  | none => exact absurd (by rw [Action.outline, hfile]; rfl) h
  | some name => exact ⟨name, rfl⟩

/-- Names of captures that are alike in having a file differ in their literals only. -/
theorem hollow_fileName {a b : Option String} (h : a.isSome = b.isSome) :
    (fileName a).hollow = (fileName b).hollow := by
  cases a <;> cases b <;> first | rfl | cases h

/-- A call that opens one bracket can be given the expression for a capture's name. -/
theorem takes_capture {call : String} (hplain : call.toList.all Dialect.isPlain = true)
    (hopening : Brackets.pending [] (call.toList.flatMap python.codes) = some [')'.toNat]) :
    Takes python (Statement.write false [.code call, .code generatedFile, .code ")"]).toList
      [] [] := by
  have hcall : Takes python call.toList [] [')'.toNat] := .of_plain hplain hopening
  have hback : Takes python (Statement.write false [.code ")"]).toList [')'.toNat] [] := by
    rw [toList_write_cons, Piece.write, String.toList_ofList]
    exact .of_plain (by decide) (by decide)
  rw [toList_write_cons, toList_write_cons, ← List.append_assoc]
  exact (hcall.append (takes_generatedFile _)).append hback

/-- Captures are calls that are given a file. -/
def CapturesWith (statement : Action → Statement) (call : String) : Prop :=
  ∀ file, statement (.screenshot file) =
    [.code call, fileName (file.bind Text.nonempty?), .code ")"]

theorem CapturesWith.eq_of_outline {statement : Action → Statement} {call : String}
    (hcaptures : CapturesWith statement call) {a : Action} (ha : a.outline = .screenshot false) :
    statement a = [.code call, .code generatedFile, .code ")"] := by
  cases a with
  | screenshot file => rw [hcaptures, fileName_of_outline_eq ha]
  | _ => cases ha

/-- An emitter of test functions: imports, an opening, the lines that start the body, a statement
for each action, and an ending. What is fixed is plain and balanced, and so are the statements,
except for a capture whose name is made when the script runs. -/
structure FunctionEmitter (e : Emitter) where
  statement : Action → Statement
  imports : List String
  start : List String
  ending : List String
  call : String
  mark : e.commentMark = "#"
  indent : e.indent.toList.all (· == ' ') = true
  ascii : e.asciiLiterals = false
  emptyBody : e.emptyBody = some "pass"
  statements : e.statements = fun action => [statement action]
  preamble : e.preamble = fun test => imports ++ opening test ++ start
  postamble : e.postamble = fun _ => ending
  takes_imports : Takes python (unlines imports) [] []
  takes_start : Takes python (unlines start) [] []
  takes_ending : Takes python (unlines ending) [] []
  captures : CapturesWith statement call
  isPlain_call : call.toList.all Dialect.isPlain = true
  pending_call : Brackets.pending [] (call.toList.flatMap python.codes) = some [')'.toNat]
  isPlain_statement : ∀ action, action.outline ≠ .screenshot false →
    (statement action).all Piece.isPlain = true
  balanced_statement : ∀ action, action.outline ≠ .screenshot false →
    Brackets.balanced ((statement action).flatMap (Piece.left python)) = true
  hollow_statement : ∀ a b : Action, a.outline = b.outline →
    (statement a).hollow = (statement b).hollow

namespace FunctionEmitter

variable {e : Emitter} (f : FunctionEmitter e)

theorem takes_captureLine : Takes python
    (ended (e.line [.code f.call, .code generatedFile, .code ")"])) [] [] :=
  .line (f.ascii ▸ takes_capture f.isPlain_call f.pending_call) f.indent

/-- The one statement that is not plain holds no text of the test. -/
theorem alike_line (action : Action) : python.Alike (ended (e.line (f.statement action)))
    (ended (e.line (f.statement action).hollow)) := by
  by_cases haction : action.outline = .screenshot false
  · rw [f.captures.eq_of_outline haction]
    exact .of_closed f.takes_captureLine.closed
  · exact alike_line_of_isPlain f.indent (f.isPlain_statement action haction)

theorem balanced_line (action : Action) :
    Brackets.balanced (python.skeleton (unlines ([f.statement action].map e.line))) = true := by
  by_cases haction : action.outline = .screenshot false
  · rw [List.map_singleton, unlines, List.flatMap_singleton, f.captures.eq_of_outline haction]
    exact beq_iff_eq.mpr f.takes_captureLine.pending
  · apply balanced_lines f.indent
    · rw [List.all_cons, List.all_nil, f.isPlain_statement action haction]
      rfl
    · rw [List.flatMap_singleton, f.balanced_statement action haction]

include f in
theorem takes_pass : Takes python (ended (e.indent ++ "pass")) [] [] := by
  have hpass : Takes python (ended "pass") [] [] := by
    rw [ended, String.toList_ofList]
    exact .of_plain (by decide) (by decide)
  rw [ended, String.toList_append, List.append_assoc]
  exact (Takes.of_plain (isPlain_indent f.indent) (pending_indent python f.indent [])).append hpass

include f in
theorem contained : e.Contained python where
  mark := by rw [f.mark]; rfl
  indent := f.indent
  statements := by
    intro action s hs
    rw [f.statements] at hs
    obtain rfl := List.mem_singleton.mp hs
    exact f.alike_line action
  hollow := by
    intro a b h
    rw [f.statements, List.map_singleton, List.map_singleton, f.hollow_statement a b h]
  balanced := by
    intro action
    rw [f.statements]
    exact f.balanced_line action
  emptyBody := by
    intro s hs
    obtain rfl := Option.some.inj (f.emptyBody.symm.trans hs)
    exact ⟨f.takes_pass.closed, beq_iff_eq.mpr f.takes_pass.pending⟩
  preamble := by
    intro a b _ hfunction
    rw [f.preamble]
    simp only [unlines_append]
    exact ((Alike.of_closed f.takes_imports.closed).append (alike_opening hfunction)).append
      (.of_closed f.takes_start.closed)
  postamble := by
    intro a b _
    rw [f.postamble]
    exact .of_closed f.takes_ending.closed
  around := by
    intro test
    rw [f.preamble, f.postamble]
    simp only [unlines_append]
    exact ⟨[], ((f.takes_imports.append (takes_opening test [])).append f.takes_start).pending,
      f.takes_ending.pending⟩
  preamble_ne_nil := by
    intro test
    rw [f.preamble]
    simp [opening]

end FunctionEmitter

namespace Selenium

theorem plainFinder : PlainFinder python finder := .of_all (by decide)

theorem isPlain_statement {a : Action} (ha : a.outline ≠ .screenshot false) :
    (statement a).all Piece.isPlain = true := by
  cases a with
  | screenshot file =>
      obtain ⟨name, hname⟩ := fileName_of_outline_ne ha
      rw [statement, hname]
      rfl
  | navigate url => rfl
  | _ =>
      simp only [statement, element, locator, List.cons_append, List.nil_append, List.all_cons,
        List.all_nil, Piece.isPlain, plainFinder.isPlain, Bool.and_true, Bool.true_and]
      repeat rw [String.toList_ofList]
      decide

/-- A statement closes its own brackets. -/
theorem balanced_statement {a : Action} (ha : a.outline ≠ .screenshot false) :
    Brackets.balanced ((statement a).flatMap (Piece.left python)) = true := by
  cases a with
  | screenshot file =>
      obtain ⟨name, hname⟩ := fileName_of_outline_ne ha
      rw [statement, hname]
      rfl
  | navigate url => rfl
  | _ =>
      simp only [statement, element, locator, List.cons_append, List.nil_append, List.flatMap_cons,
        List.flatMap_nil, List.append_nil, Piece.left]
      repeat rw [String.toList_ofList]
      simp only [Brackets.balanced, Brackets.pending_append, Brackets.pending_cons_quote,
        plainFinder.pending, Option.bind_some]
      decide

/-- The emitter for Selenium in Python is contained. -/
theorem contained : selenium.Contained python := by
  refine FunctionEmitter.contained
    { statement := statement, imports := _, start := _, ending := _, call := _
      mark := rfl, indent := by decide, ascii := rfl, emptyBody := rfl
      statements := rfl, preamble := rfl, postamble := rfl
      takes_imports := ?imports, takes_start := ?start, takes_ending := ?ending
      captures := fun _ => rfl, isPlain_call := by decide, pending_call := by decide
      isPlain_statement := fun _ => isPlain_statement
      balanced_statement := fun _ => balanced_statement, hollow_statement := ?hollow }
  case imports | start | ending =>
    simp only [unlines, ended, List.flatMap_cons, List.flatMap_nil]
    repeat rw [String.toList_ofList]
    exact .of_plain (by decide) (by decide)
  case hollow =>
    intro a b h
    refine Action.of_outline_eq (motive := fun a b => (statement a).hollow = (statement b).hollow)
      ?_ ?_ ?_ ?_ ?screenshot h
    case screenshot =>
      intro file file' hfile
      simp only [statement, Statement.hollow, List.map_cons, hollow_fileName hfile]
    all_goals intros
    all_goals simp [statement, element, locator, Statement.hollow, Piece.hollow, *]

end Selenium

namespace Playwright

theorem isPlain_statement {a : Action} (ha : a.outline ≠ .screenshot false) :
    (statement a).all Piece.isPlain = true := by
  cases a with
  | screenshot file =>
      obtain ⟨name, hname⟩ := fileName_of_outline_ne ha
      rw [statement, hname]
      rfl
  | _ =>
      simp only [statement, locator, List.cons_append, List.nil_append, List.all_cons,
        List.all_nil, Piece.isPlain, Bool.and_true, Bool.true_and]
      repeat rw [String.toList_ofList]
      decide

theorem balanced_statement {a : Action} (ha : a.outline ≠ .screenshot false) :
    Brackets.balanced ((statement a).flatMap (Piece.left python)) = true := by
  cases a with
  | screenshot file =>
      obtain ⟨name, hname⟩ := fileName_of_outline_ne ha
      rw [statement, hname]
      rfl
  | _ =>
      simp only [statement, locator, List.cons_append, List.nil_append, List.flatMap_cons,
        List.flatMap_nil, List.append_nil, Piece.left]
      repeat rw [String.toList_ofList]
      decide

/-- The emitter for Playwright in Python is contained. -/
theorem contained : playwright.Contained python := by
  refine FunctionEmitter.contained
    { statement := statement, imports := _, start := _, ending := _, call := _
      mark := rfl, indent := by decide, ascii := rfl, emptyBody := rfl
      statements := rfl, preamble := rfl, postamble := rfl
      takes_imports := ?imports, takes_start := ?start, takes_ending := ?ending
      captures := fun _ => rfl, isPlain_call := by decide, pending_call := by decide
      isPlain_statement := fun _ => isPlain_statement
      balanced_statement := fun _ => balanced_statement, hollow_statement := ?hollow }
  case imports | start | ending =>
    simp only [unlines, ended, List.flatMap_cons, List.flatMap_nil]
    repeat rw [String.toList_ofList]
    exact .of_plain (by decide) (by decide)
  case hollow =>
    intro a b h
    refine Action.of_outline_eq (motive := fun a b => (statement a).hollow = (statement b).hollow)
      ?_ ?_ ?_ ?_ ?screenshot h
    case screenshot =>
      intro file file' hfile
      simp only [statement, Statement.hollow, List.map_cons, hollow_fileName hfile]
    all_goals intros
    all_goals rfl

end Playwright

end Python

/-! ## All targets -/

def Target.dialect (t : Target) : Dialect :=
  if t.platform = "java" then .java
  else if t.platform = "python" then .python
  else .javaScript

theorem Target.ofNames_standard :
    Target.ofNames "selenium" "java" = ⟨"selenium", "java"⟩ ∧
      Target.ofNames "selenium" "python" = ⟨"selenium", "python"⟩ ∧
      Target.ofNames "playwright" "javascript" = ⟨"playwright", "javascript"⟩ ∧
      Target.ofNames "playwright" "python" = ⟨"playwright", "python"⟩ := by
  decide

theorem Catalog.entries_standard : Catalog.standard.entries =
    [(⟨"selenium", "java"⟩, Java.selenium), (⟨"selenium", "python"⟩, Python.selenium),
      (⟨"playwright", "javascript"⟩, JavaScript.playwright),
      (⟨"playwright", "python"⟩, Python.playwright)] := by
  obtain ⟨hjava, hselenium, hjavaScript, hplaywright⟩ := Target.ofNames_standard
  simp [standard, register, enter, hjava, hselenium, hjavaScript, hplaywright]

/-- A target whose names are spelled as in the catalog gets the script of its emitter. -/
theorem Catalog.compile_of_lookup {c : Catalog} {t : Target} {e : Emitter}
    (htool : t.tool ≠ "") (hplatform : t.platform ≠ "")
    (hnames : Target.ofNames t.tool t.platform = t) (hlookup : c.entries.lookup t = some e)
    (test : Test) : c.compile test (some t.tool) (some t.platform) = e.emit test := by
  simp [compile, emitterFor, Text.nonempty?, htool, hplatform, hnames, hlookup]

theorem Catalog.mem_targets_standard {t : Target} :
    t ∈ Catalog.standard.targets ↔
      t = ⟨"selenium", "java"⟩ ∨ t = ⟨"selenium", "python"⟩ ∨
        t = ⟨"playwright", "javascript"⟩ ∨ t = ⟨"playwright", "python"⟩ := by
  rw [targets, List.mem_mergeSort, entries_standard]
  simp only [List.map_cons, List.map_nil, List.mem_cons, List.not_mem_nil, or_false]

/-- The scripts for a standard target are those of an emitter that is contained in the language of
the target. -/
theorem Catalog.contained_of_mem_targets {t : Target} (ht : t ∈ Catalog.standard.targets) :
    ∃ e : Emitter, e.Contained t.dialect ∧
      ∀ test, Catalog.standard.compile test (some t.tool) (some t.platform) = e.emit test := by
  obtain ⟨hjava, hselenium, hjavaScript, hplaywright⟩ := Target.ofNames_standard
  rcases mem_targets_standard.mp ht with rfl | rfl | rfl | rfl
  · exact ⟨_, Java.contained, compile_of_lookup (by decide) (by decide) hjava
      (by rw [entries_standard]; rfl)⟩
  · exact ⟨_, Python.Selenium.contained, compile_of_lookup (by decide) (by decide) hselenium
      (by rw [entries_standard]; rfl)⟩
  · exact ⟨_, JavaScript.contained, compile_of_lookup (by decide) (by decide) hjavaScript
      (by rw [entries_standard]; rfl)⟩
  · exact ⟨_, Python.Playwright.contained, compile_of_lookup (by decide) (by decide) hplaywright
      (by rw [entries_standard]; rfl)⟩

/-- For each standard target, the scripts of two tests with the same names in code, and with
steps that agree one by one in their kinds, the strategies of their selectors and whether a
capture has a file, are the same but for comments and the contents of literals. Brackets are
balanced in the rest. -/
theorem skeleton_compile {t : Target} (ht : t ∈ Catalog.standard.targets) {a b : Test}
    (hclass : className a.name = className b.name)
    (hfunction : functionName a.name = functionName b.name)
    (houtlines : a.steps.map Step.outline = b.steps.map Step.outline) :
    t.dialect.skeleton
        (Catalog.standard.compile a (some t.tool) (some t.platform)).toList =
      t.dialect.skeleton
        (Catalog.standard.compile b (some t.tool) (some t.platform)).toList ∧
    Brackets.balanced (t.dialect.skeleton
      (Catalog.standard.compile a (some t.tool) (some t.platform)).toList) = true := by
  obtain ⟨e, he, hcompile⟩ := Catalog.contained_of_mem_targets ht
  rw [hcompile a, hcompile b]
  exact he.alike_emit hclass hfunction houtlines

/-- A test for a page that is opened and then checked for a text. -/
def checkedPage (title url raw expected : String) (hraw : raw ≠ "") : Test where
  id := "1"
  name := "Log in"
  steps := [⟨title, .navigate url⟩, ⟨title, .assertText ⟨some .text, raw, hraw⟩ expected⟩]
  tool := "selenium"
  platform := "java"
  created := ⟨2024, 1, 2, 3, 4, 5, 0, none, by decide⟩

/-- A page with common texts. -/
def commonPage : Test :=
  checkedPage "Open" "https://a.example" "Welcome" "Hello" (by decide)

/-- A page with texts that would end a literal or a comment, if they could. -/
def hostilePage : Test :=
  checkedPage "a\n\\u000a\x7d System.exit(0); //" "\\\"); \x7d // \\u0022" "'\"\\" "\\u005c\" [("
    (by decide)

/-- The texts of a page that try to break out leave the same skeleton as common ones. -/
theorem skeleton_compile_hostilePage :
    (⟨"selenium", "java"⟩ : Target) ∈ Catalog.standard.targets ∧
      className commonPage.name = className hostilePage.name ∧
      functionName commonPage.name = functionName hostilePage.name ∧
      commonPage.steps.map Step.outline = hostilePage.steps.map Step.outline ∧
      java.skeleton (Catalog.standard.compile commonPage (some "selenium") (some "java")).toList =
        java.skeleton
          (Catalog.standard.compile hostilePage (some "selenium") (some "java")).toList ∧
      Brackets.balanced (java.skeleton
        (Catalog.standard.compile commonPage (some "selenium") (some "java")).toList) = true := by
  have htarget : (⟨"selenium", "java"⟩ : Target) ∈ Catalog.standard.targets :=
    Catalog.mem_targets_standard.mpr (Or.inl rfl)
  have houtlines : commonPage.steps.map Step.outline = hostilePage.steps.map Step.outline := rfl
  exact ⟨htarget, rfl, rfl, houtlines, skeleton_compile htarget rfl rfl houtlines⟩

end Clickpath.Script
