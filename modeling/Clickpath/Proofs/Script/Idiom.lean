import Clickpath.Proofs.Script.Contents
import Clickpath.Proofs.Script.Lines

/-! # Reading scripts back

A script says what it does to a page in the calls of its tool. They are read off it line by line: a
comment opens the block of a step, and the line behind it has the call. What is read are the texts
that the literals denote, so an emitter is right about a step when the call of its block is read as
what the step does.
-/

namespace Clickpath

/-- What is done to a page. Where a screenshot goes is left open. -/
inductive Deed where
  | goto (url : String)
  | click (locator : String)
  | press (locator text : String)
  | expectText (locator expected : String)
  | screenshot
  deriving DecidableEq

/-- What a step does to a page. -/
def Action.deed : Action → Deed
  | .navigate url => .goto url
  | .click target => .click target.native
  | .typeText target text => .press target.native text
  | .assertText target expected => .expectText target.native expected
  | .screenshot _ => .screenshot

namespace Script

/-- A form of calls: code with one literal between every two parts, and what a call of this form
does with the texts of its literals. -/
structure Form where
  parts : List String
  deed : List String → Option Deed

def Form.one (before behind : String) (deed : String → Deed) : Form where
  parts := [before, behind]
  deed
    | [text] => some (deed text)
    | _ => none

def Form.two (before between behind : String) (deed : String → String → Deed) : Form where
  parts := [before, between, behind]
  deed
    | [first, second] => some (deed first second)
    | _ => none

/-- How the scripts of a language call a page: what a screenshot starts with, and the forms of the
other calls. -/
structure Idiom where
  dialect : Dialect
  screenshot : String
  forms : List Form

def Idiom.javaScript : Idiom where
  dialect := .javaScript
  screenshot := "await page.screenshot("
  forms :=
    [.one "await page.goto(" ");" .goto,
     .one "await page.locator(" ").click();" .click,
     .two "await page.locator(" ").pressSequentially(" ");" .press,
     .two "if (!(await page.locator(" ").innerText()).includes(" ")) \x7b" .expectText]

def Idiom.python : Idiom where
  dialect := .python
  screenshot := "page.screenshot("
  forms :=
    [.one "page.goto(" ")" .goto,
     .one "page.locator(" ").click()" .click,
     .two "page.locator(" ").press_sequentially(" ")" .press,
     .two "expect(page.locator(" ")).to_contain_text(" ")" .expectText]

/-- The texts of the literals in a line that has these parts. -/
def fill? (l : Dialect) : List String → List Char → Option (List String)
  | [], _ => none
  | [code], line => if line = code.toList then some [] else none
  | code :: rest, line =>
    match code.toList.isPrefixOf? line with
    | none => none
    | some behind =>
      match l.literal? behind with
      | none => none
      | some (text, behind) => (fill? l rest behind).map (text :: ·)

namespace Idiom

/-- What a line of code does to the page, if it is a call on it. -/
def deed? (i : Idiom) (line : List Char) : Option Deed :=
  if i.screenshot.toList.isPrefixOf line then some .screenshot
  else i.forms.findSome? fun form => (fill? i.dialect form.parts line).bind form.deed

/-- A line opens the block of a step. -/
def opens (i : Idiom) (line : List Char) : Bool :=
  (i.dialect.mark ++ " Step ".toList).isPrefixOf line

/-- The lines that stand directly behind one that opens a block. -/
def calls (i : Idiom) : Bool → List (List Char) → List (List Char)
  | _, [] => []
  | true, line :: rest => line :: i.calls (i.opens line) rest
  | false, line :: rest => i.calls (i.opens line) rest

/-- The lines of a script, without the spaces that they begin with. -/
def codeLines (i : Idiom) (script : List Char) : List (List Char) :=
  (script.splitOnP i.dialect.isLineEnd).map (·.dropWhile (· == ' '))

/-- What a script does to the page, step by step. -/
def read? (i : Idiom) (script : String) : Option (List Deed) :=
  (i.calls false (i.codeLines script.toList)).mapM i.deed?

end Idiom

/-! ## Lines -/

open Dialect

def Dialect.InLine (l : Dialect) (s : List Char) : Prop := ∀ c ∈ s, l.isLineEnd c = false

theorem Dialect.InLine.append {l : Dialect} {s t : List Char} (hs : l.InLine s)
    (ht : l.InLine t) : l.InLine (s ++ t) := by
  intro c hc
  exact (List.mem_append.mp hc).elim (hs c) (ht c)

theorem inLine_joinedWords (l : Dialect) (s : List Char) :
    l.InLine (" ".intercalate ((Chars.words Chars.isBlank s).map String.ofList)).toList := by
  intro c hc
  rcases mem_joinedWords hc with rfl | ⟨_, hblank⟩
  · cases l <;> rfl
  · exact isLineEnd_eq_false (fun c => !Chars.isBlank c) (by decide) (by simp [hblank])

theorem inLine_stepLabel (l : Dialect) (step : Step) : l.InLine (stepLabel step).toList := by
  rw [stepLabel]
  split
  next => cases step.kind <;> cases l <;> simp [InLine, isLineEnd, StepKind.label]
  next => exact inLine_joinedWords l _

/-- Lines are told apart again at their ends. -/
theorem splitOnP_unlines {ends : Char → Bool} (hend : ends '\n' = true) {lines : List String}
    (hlines : ∀ line ∈ lines, ∀ c ∈ line.toList, ends c = false) :
    (unlines lines).splitOnP ends = lines.map String.toList ++ [[]] := by
  induction lines with
  | nil => rfl
  | cons line rest ih =>
      have hline := hlines line List.mem_cons_self
      rw [unlines_cons, ended, List.append_assoc, List.singleton_append,
        List.splitOnP_append_cons_of_forall_mem hline '\n' hend,
        ih fun other hmem => hlines other (List.mem_cons_of_mem _ hmem)]
      rfl

def codeOf (line : String) : List Char := line.toList.dropWhile (· == ' ')

namespace Idiom

/-- A line of its own that opens no block. -/
structure Quiet (i : Idiom) (line : String) : Prop where
  inLine : i.dialect.InLine line.toList
  opens : i.opens (codeOf line) = false

theorem calls_append_of_quiet {i : Idiom} {lines : List String}
    (hlines : ∀ line ∈ lines, i.Quiet line) (rest : List (List Char)) :
    i.calls false (lines.map codeOf ++ rest) = i.calls false rest := by
  induction lines with
  | nil => rfl
  | cons line lines ih =>
      rw [List.map_cons, List.cons_append, calls, (hlines line List.mem_cons_self).opens]
      exact ih fun other hmem => hlines other (List.mem_cons_of_mem _ hmem)

/-- In a block, the line behind the comment is the call. -/
theorem calls_block {i : Idiom} {comment call : String} {more : List String}
    (hcomment : i.opens (codeOf comment) = true) (hcall : i.Quiet call)
    (hmore : ∀ line ∈ more, i.Quiet line) (rest : List (List Char)) :
    i.calls false ((comment :: call :: more).map codeOf ++ rest) =
      codeOf call :: i.calls false rest := by
  simp only [List.map_cons, List.cons_append, calls, hcomment, hcall.opens,
    calls_append_of_quiet hmore]

end Idiom

/-! ## Scripts -/

/-- The scripts of an emitter play their steps: the call of a block is read as what its step does,
and no other line is taken for a call. -/
structure Emitter.Plays (e : Emitter) (i : Idiom) : Prop where
  mark : e.commentMark.toList = i.dialect.mark
  indent : e.indent.toList.all (· == ' ') = true
  deed : ∀ action, ∃ call more, e.statements action = call :: more ∧
    i.deed? (codeOf (e.line call)) = some action.deed
  statements : ∀ action, ∀ s ∈ e.statements action, i.Quiet (e.line s)
  emptyBody : ∀ s ∈ e.emptyBody, i.Quiet (e.indent ++ s)
  preamble : ∀ test, ∀ line ∈ e.preamble test, i.Quiet line
  postamble : ∀ test, ∀ line ∈ e.postamble test, i.Quiet line
  preamble_ne_nil : ∀ test, e.preamble test ≠ []

/-- Between the preamble and the postamble are the blocks, or a statement that stands for none. -/
theorem Emitter.body_eq (e : Emitter) (steps : List Step) :
    (∃ statement ∈ e.emptyBody, steps = [] ∧ e.body steps = [e.indent ++ statement]) ∨
      e.body steps = e.blocks 1 steps := by
  cases steps with
  | cons step rest => exact .inr rfl
  | nil =>
      cases hempty : e.emptyBody with
      | none => exact .inr (by simp only [body, hempty])
      | some statement => exact .inl ⟨statement, rfl, rfl, by simp only [body, hempty]⟩

namespace Emitter.Plays

variable {e : Emitter} {i : Idiom}

theorem comment_opens (he : e.Plays i) (number : Nat) (step : Step) :
    i.opens (codeOf (e.comment number step)) = true := by
  rw [codeOf, comment]
  simp only [String.toList_append, he.mark, List.append_assoc]
  rw [List.dropWhile_append_of_pos fun c hc => List.all_eq_true.mp he.indent c hc]
  unfold Idiom.opens
  cases i.dialect <;> simp [Dialect.mark]

/-- A comment keeps to its line, as the label of a step does. -/
theorem comment_inLine (he : e.Plays i) (number : Nat) (step : Step) :
    i.dialect.InLine (e.comment number step).toList := by
  rw [comment]
  simp only [String.toList_append, he.mark]
  refine InLine.append (.append (.append (.append (.append ?indent ?mark) ?word) ?numeral) ?colon)
    (inLine_stepLabel i.dialect step)
  case indent =>
    intro c hc
    rw [beq_iff_eq.mp (List.all_eq_true.mp he.indent c hc)]
    cases i.dialect <;> rfl
  case mark => cases i.dialect <;> simp [Dialect.mark, InLine, isLineEnd]
  case word | colon => cases i.dialect <;> simp [InLine, isLineEnd]
  case numeral =>
    intro c hc
    have hdigit := List.all_eq_true.mp (Chars.all_isAsciiDigit_repr number) c hc
    exact isLineEnd_eq_false _ (by decide) hdigit

/-- The calls of the blocks, in order, are read as what the steps do. -/
theorem calls_blocks (he : e.Plays i) (number : Nat) (steps : List Step)
    (rest : List (List Char)) :
    ∃ calls, i.calls false ((e.blocks number steps).map codeOf ++ rest) =
        calls ++ i.calls false rest ∧
      calls.mapM i.deed? = some (steps.map (·.action.deed)) := by
  induction steps generalizing number with
  | nil => exact ⟨[], rfl, rfl⟩
  | cons step steps ih =>
      obtain ⟨calls, hcalls, hdeeds⟩ := ih (number + 1)
      obtain ⟨call, more, hstatements, hdeed⟩ := he.deed step.action
      have hquiet := he.statements step.action
      rw [hstatements] at hquiet
      have hlines : e.block number step = e.comment number step :: e.line call ::
          more.map e.line := by
        rw [block, statementLines, hstatements]
        rfl
      refine ⟨codeOf (e.line call) :: calls, ?_, ?_⟩
      · rw [blocks, hlines, List.map_append, List.append_assoc, Idiom.calls_block
          (he.comment_opens number step) (hquiet call List.mem_cons_self) ?_, hcalls]
        · rfl
        · intro line hline
          obtain ⟨s, hs, rfl⟩ := List.mem_map.mp hline
          exact hquiet s (List.mem_cons_of_mem _ hs)
      · simp [hdeed, hdeeds]

/-- The body of a script is read as the deeds of its steps: behind each comment stands their
call. -/
theorem calls_body (he : e.Plays i) (steps : List Step) (rest : List (List Char)) :
    ∃ calls, i.calls false ((e.body steps).map codeOf ++ rest) = calls ++ i.calls false rest ∧
      calls.mapM i.deed? = some (steps.map (·.action.deed)) := by
  rcases e.body_eq steps with ⟨statement, hempty, rfl, hbody⟩ | hbody
  · refine ⟨[], ?_, rfl⟩
    rw [hbody]
    apply Idiom.calls_append_of_quiet
    intro line hline
    rw [List.mem_singleton.mp hline]
    exact he.emptyBody statement hempty
  · rw [hbody]
    exact he.calls_blocks 1 steps rest

theorem blocks_inLine (he : e.Plays i) (number : Nat) (steps : List Step) :
    ∀ line ∈ e.blocks number steps, i.dialect.InLine line.toList := by
  induction steps generalizing number with
  | nil => simp [blocks]
  | cons step steps ih =>
      intro line hline
      rw [blocks, block, List.mem_append, List.mem_cons] at hline
      rcases hline with (rfl | hline) | hline
      · exact he.comment_inLine number step
      · obtain ⟨s, hs, rfl⟩ := List.mem_map.mp hline
        exact (he.statements step.action s hs).inLine
      · exact ih (number + 1) line hline

theorem lines_inLine (he : e.Plays i) (test : Test) :
    ∀ line ∈ e.lines test, i.dialect.InLine line.toList := by
  intro line hline
  rw [lines, List.mem_append, List.mem_append] at hline
  rcases hline with (hline | hline) | hline
  · exact (he.preamble test line hline).inLine
  · rcases e.body_eq test.steps with ⟨statement, hempty, _, hbody⟩ | hbody
    · rw [hbody, List.mem_singleton] at hline
      rw [hline]
      exact (he.emptyBody statement hempty).inLine
    · rw [hbody] at hline
      exact he.blocks_inLine 1 test.steps line hline
  · exact (he.postamble test line hline).inLine

/-- A script is read as what the steps of its test do. -/
theorem read?_emit (he : e.Plays i) (test : Test) :
    i.read? (e.emit test) = some (test.steps.map (·.action.deed)) := by
  have hne : e.lines test ≠ [] := by simp [lines, he.preamble_ne_nil]
  have hend : i.dialect.isLineEnd '\n' = true := by cases i.dialect <;> rfl
  have hlines : i.codeLines (e.emit test).toList = (e.lines test).map codeOf ++ [[]] := by
    rw [toList_emit e hne, Idiom.codeLines, splitOnP_unlines hend (he.lines_inLine test)]
    simp [codeOf, Function.comp_def]
  obtain ⟨calls, hcalls, hdeeds⟩ := he.calls_body test.steps
    ((e.postamble test).map codeOf ++ [[]])
  rw [Idiom.read?, hlines, lines, List.map_append, List.map_append, List.append_assoc,
    List.append_assoc, Idiom.calls_append_of_quiet (he.preamble test), hcalls,
    Idiom.calls_append_of_quiet (he.postamble test)]
  simpa [Idiom.calls] using hdeeds

end Emitter.Plays

end Script

end Clickpath
