import Clickpath.Proofs.Script.Deeds

/-! # How scripts are laid out

A script is, line by line, the preamble of its target, a block for each step and the postamble. A
block starts with the comment that announces its step, and no other line reads like such a comment,
whatever the test is called and whatever its steps hold.
-/

namespace Clickpath.Script

open Dialect

/-! ## Announcements -/

def isDecimal (c : Char) : Bool := (Chars.decimalValue? c).isSome

/-- A number, a colon and a space come first. -/
def isNumbered (s : List Char) : Bool :=
  !(s.takeWhile isDecimal).isEmpty && ": ".toList.isPrefixOf (s.dropWhile isDecimal)

/-- A line reads like the comment on a step, in any of the target languages: behind blanks and the
mark of a comment are the word and a number with a colon. -/
def announces (line : List Char) : Bool :=
  ["//", "#"].any fun mark =>
    ((mark.toList ++ " Step ".toList).isPrefixOf? (line.dropWhile Chars.isBlank)).any isNumbered

theorem isDecimal_of_isAsciiDigit {c : Char} (hc : Chars.isAsciiDigit c = true) :
    isDecimal c = true := by
  simp only [Chars.isAsciiDigit, Bool.and_eq_true, decide_eq_true_eq] at hc
  have hlow : 48 ≤ c.toNat := hc.1
  have hhigh : c.toNat < 48 + 10 := Nat.lt_succ_of_le hc.2
  rw [isDecimal, Chars.decimalValue?, Chars.decimalZeros,
    List.find?_cons_of_pos (by simp [hlow, hhigh])]
  rfl

/-- A number and a colon announce a step. -/
theorem isNumbered_repr (number : Nat) (label : List Char) :
    isNumbered ((toString number).toList ++ (": ".toList ++ label)) = true := by
  have hdigits : (toString number).toList.all isDecimal = true :=
    List.all_eq_true.mpr fun c hc => isDecimal_of_isAsciiDigit
      (List.all_eq_true.mp (Chars.all_isAsciiDigit_repr number) c hc)
  have hcolon : isDecimal ':' = false := by decide
  have hbehind : ": ".toList ++ label = ':' :: (' ' :: label) := by simp
  have hnumber : (toString number).toList.isEmpty = false :=
    List.isEmpty_eq_false_iff.mpr (Chars.repr_toList_ne_nil number)
  rw [isNumbered, hbehind, Chars.takeWhile_append_cons hdigits hcolon,
    Chars.dropWhile_append_cons hdigits hcolon, hnumber]
  simp [List.isPrefixOf]

theorem dropWhile_isBlank_indent {indent : List Char} (hindent : indent.all (· == ' ') = true)
    (rest : List Char) :
    (indent ++ rest).dropWhile Chars.isBlank = rest.dropWhile Chars.isBlank := by
  apply List.dropWhile_append_of_pos
  intro c hc
  rw [beq_iff_eq.mp (List.all_eq_true.mp hindent c hc)]
  decide

/-- A line whose first character behind blanks belongs to no mark announces nothing. -/
theorem not_announces_of_head {line : List Char}
    (hhead : ∀ c ∈ (line.dropWhile Chars.isBlank).head?, c ≠ '/' ∧ c ≠ '#') :
    announces line = false := by
  cases hstart : line.dropWhile Chars.isBlank with
  | nil => simp [announces, hstart, List.isPrefixOf?]
  | cons c rest =>
      obtain ⟨hslash, hhash⟩ := hhead c (by rw [hstart]; rfl)
      simp [announces, hstart, List.isPrefixOf?, hslash.symm, hhash.symm]

/-- A line on its own that announces no step. -/
structure Silent (line : String) : Prop where
  inLine : '\n' ∉ line.toList
  announces : announces line.toList = false

/-- Characters that neither end a line nor belong to the mark of a comment. -/
def isUnmarked (c : Char) : Bool := c != '\n' && c != '/' && c != '#'

theorem Silent.of_unmarked {line : String} (hline : line.toList.all isUnmarked = true) :
    Silent line := by
  have hunmarked : ∀ c ∈ line.toList, c ≠ '\n' ∧ c ≠ '/' ∧ c ≠ '#' := fun c hc => by
    simpa [isUnmarked, and_assoc] using List.all_eq_true.mp hline c hc
  refine ⟨fun hmem => (hunmarked _ hmem).1 rfl, not_announces_of_head fun c hc => ?_⟩
  exact (hunmarked c ((List.dropWhile_sublist _).subset (List.mem_of_mem_head? hc))).2

theorem isUnmarked_of_isWord {c : Char} (hc : Chars.isWord c = true) : isUnmarked c = true := by
  have hspecial := notMem_specials_of_isWord hc
  simp only [specials, List.mem_cons, not_or] at hspecial
  simp [isUnmarked, hspecial]

/-! ## Statements -/

theorem newline_notMem_of_inLine {l : Dialect} {s : List Char} (hs : l.InLine s) : '\n' ∉ s := by
  intro hmem
  have hend := hs '\n' hmem
  revert hend
  cases l <;> decide

/-- A statement begins with code, and that with no mark of a comment. -/
def Statement.startsUnmarked : Statement → Bool
  | .code text :: _ => (text.toList.dropWhile Chars.isBlank).head?.any isUnmarked
  | _ => false

theorem exists_code_of_startsUnmarked {s : Statement} (hstart : s.startsUnmarked = true) :
    ∃ text rest, s = .code text :: rest := by
  cases s with
  | nil => cases hstart
  | cons piece rest =>
      cases piece with
      | code text => exact ⟨text, rest, rfl⟩
      | _ => cases hstart

/-- The line of a statement does not begin with the mark of a comment. -/
theorem head?_line {e : Emitter} {s : Statement} (hindent : e.indent.toList.all (· == ' ') = true)
    (hstart : s.startsUnmarked = true) :
    ∃ c, ((e.line s).toList.dropWhile Chars.isBlank).head? = some c ∧ isUnmarked c = true := by
  rw [Emitter.line, String.toList_append, dropWhile_isBlank_indent hindent]
  obtain ⟨text, rest, rfl⟩ := exists_code_of_startsUnmarked hstart
  rw [Statement.startsUnmarked] at hstart
  rw [toList_write_cons, Piece.write, List.dropWhile_append]
  cases hcode : text.toList.dropWhile Chars.isBlank with
  | nil =>
      rw [hcode] at hstart
      cases hstart
  | cons c behind =>
      rw [hcode] at hstart
      exact ⟨c, rfl, hstart⟩

/-- The line of a statement in parts that end no line is silent if it begins with no mark. -/
theorem Silent.of_statement {e : Emitter} {l : Dialect} {s : Statement}
    (hindent : e.indent.toList.all (· == ' ') = true)
    (hascii : e.asciiLiterals = l.asciiLiterals) (hparts : s.all (Piece.inLine l) = true)
    (hstart : s.startsUnmarked = true) : Silent (e.line s) := by
  constructor
  · intro hmem
    rw [Emitter.line, String.toList_append, hascii] at hmem
    cases List.mem_append.mp hmem with
    | inl hmem => exact absurd (List.all_eq_true.mp hindent _ hmem) (by decide)
    | inr hmem => exact newline_notMem_of_inLine (inLine_write hparts) hmem
  · apply not_announces_of_head
    obtain ⟨c, hhead, hunmarked⟩ := head?_line hindent hstart
    have hmarks : (c ≠ '\n' ∧ c ≠ '/') ∧ c ≠ '#' := by simpa [isUnmarked] using hunmarked
    simpa [hhead] using ⟨hmarks.1.2, hmarks.2⟩

/-! ## Lines of emitters -/

/-- The name of a step without backslashes and with single spaces between its words, or its kind if
nothing is left of the name. -/
def plainLabel (step : Step) : String :=
  let kept := Text.collapseBlanks (String.ofList (step.name.toList.filter (· != '\\')))
  if kept = "" then step.kind.label else kept

theorem stepLabel_eq (step : Step) : stepLabel step = plainLabel step := by
  rw [stepLabel, plainLabel, Text.collapseBlanks, Text.words, String.toList_ofList]
  cases hwords : Chars.words Chars.isBlank (step.name.toList.filter (· != '\\')) with
  | nil => rfl
  | cons word rest =>
      have hfilled : word ≠ [] := by
        have hmem : word ∈ Chars.words Chars.isBlank (step.name.toList.filter (· != '\\')) :=
          hwords ▸ List.mem_cons_self
        have hnonempty := (List.mem_filter.mp hmem).2
        simpa using hnonempty
      have hne : " ".intercalate ((word :: rest).map String.ofList) ≠ "" := by
        intro hempty
        apply hfilled
        cases rest with
        | nil => simpa using hempty
        | cons next rest =>
            rw [List.map_cons, List.map_cons, String.intercalate_cons_cons] at hempty
            simp at hempty
      rw [if_neg hne]

namespace Emitter

/-- The comment on a step with a number. -/
def announcement (e : Emitter) (number : Nat) (step : Step) : String :=
  e.indent ++ e.commentMark ++ " Step " ++ toString number ++ ": " ++ plainLabel step

/-- The lines for steps: under the announcement of each one the lines of its statements. Without
steps there may be a statement in their place. -/
def bodyLines (e : Emitter) (steps : List Step) : List String :=
  if steps = [] then e.emptyBody.toList.map (e.indent ++ ·)
  else (steps.zipIdx 1).flatMap fun (step, number) =>
    e.announcement number step :: e.statementLines step

theorem comment_eq (e : Emitter) (number : Nat) (step : Step) :
    e.comment number step = e.announcement number step := by
  rw [comment, announcement, stepLabel_eq]

theorem blocks_eq (e : Emitter) (number : Nat) (steps : List Step) :
    e.blocks number steps = (steps.zipIdx number).flatMap fun (step, number) =>
      e.announcement number step :: e.statementLines step := by
  induction steps generalizing number with
  | nil => rfl
  | cons step rest ih => rw [blocks, block, comment_eq, ih, List.zipIdx_cons, List.flatMap_cons]

theorem body_eq_bodyLines (e : Emitter) (steps : List Step) : e.body steps = e.bodyLines steps := by
  cases steps with
  | nil => cases hempty : e.emptyBody <;> simp [body, bodyLines, blocks, hempty]
  | cons step rest =>
      rw [body, blocks_eq, bodyLines, if_neg (List.cons_ne_nil step rest)]
      intro hempty hnil
      cases hnil

/-- The lines of an emitter are on their own, and none but the comments on steps announces one. -/
structure LaidOut (e : Emitter) : Prop where
  mark : e.commentMark = "//" ∨ e.commentMark = "#"
  indent : e.indent.toList.all (· == ' ') = true
  statements : ∀ action, ∀ s ∈ e.statements action, Silent (e.line s)
  emptyBody : ∀ s ∈ e.emptyBody, Silent (e.indent ++ s)
  preamble : ∀ test, ∀ line ∈ e.preamble test, Silent line
  postamble : ∀ test, ∀ line ∈ e.postamble test, Silent line
  preamble_ne_nil : ∀ test, e.preamble test ≠ []

theorem filter_announces_of_silent {lines : List String} (hlines : ∀ line ∈ lines, Silent line) :
    (lines.map String.toList).filter announces = [] := by
  rw [List.filter_eq_nil_iff]
  intro line hline
  obtain ⟨written, hwritten, rfl⟩ := List.mem_map.mp hline
  simp [(hlines written hwritten).announces]

/-- Each line for steps begins with the indentation. -/
theorem indent_isPrefix_bodyLines (e : Emitter) (steps : List Step) :
    ∀ line ∈ e.bodyLines steps, e.indent.toList <+: line.toList := by
  intro line hline
  rw [bodyLines] at hline
  split at hline
  next =>
    obtain ⟨statement, _, rfl⟩ := List.mem_map.mp hline
    exact ⟨statement.toList, String.toList_append.symm⟩
  next =>
    obtain ⟨⟨step, number⟩, _, hline⟩ := List.mem_flatMap.mp hline
    rcases List.mem_cons.mp hline with rfl | hline
    · exact ⟨_, by simp only [announcement, String.toList_append, List.append_assoc]; rfl⟩
    · obtain ⟨s, _, rfl⟩ := List.mem_map.mp hline
      exact ⟨_, String.toList_append.symm⟩

namespace LaidOut

variable {e : Emitter}

/-- The comment on a step announces it. -/
theorem announces_announcement (he : e.LaidOut) (number : Nat) (step : Step) :
    announces (e.announcement number step).toList = true := by
  have htext : (e.announcement number step).toList = e.indent.toList ++ (e.commentMark.toList ++
      (" Step ".toList ++ ((toString number).toList ++ (": ".toList ++
        (plainLabel step).toList)))) := by
    simp only [announcement, String.toList_append, List.append_assoc]
  have hnumbered := isNumbered_repr number (plainLabel step).toList
  rw [htext, announces, dropWhile_isBlank_indent he.indent]
  generalize (toString number).toList ++ (": ".toList ++ (plainLabel step).toList) = behind
    at hnumbered
  have hslash : Chars.isBlank '/' = false := by decide
  have hhash : Chars.isBlank '#' = false := by decide
  rcases he.mark with hmark | hmark <;>
    simp [hmark, hslash, hhash, List.isPrefixOf?, hnumbered]

/-- The comment on a step is a single line. -/
theorem newline_notMem_announcement (he : e.LaidOut) (number : Nat) (step : Step) :
    '\n' ∉ (e.announcement number step).toList := by
  have hindent : '\n' ∉ e.indent.toList := fun hmem =>
    absurd (List.all_eq_true.mp he.indent _ hmem) (by decide)
  have hmark : '\n' ∉ e.commentMark.toList := by
    rcases he.mark with hmark | hmark <;> simp [hmark]
  have hnumber : '\n' ∉ (toString number).toList := fun hmem =>
    absurd (List.all_eq_true.mp (Chars.all_isAsciiDigit_repr number) _ hmem) (by decide)
  have hlabel : '\n' ∉ (plainLabel step).toList := by
    rw [← stepLabel_eq]
    exact (notMem_stepLabel step).1
  simp only [announcement, String.toList_append, List.mem_append, not_or]
  exact ⟨⟨⟨⟨⟨hindent, hmark⟩, by simp⟩, hnumber⟩, by simp⟩, hlabel⟩

/-- A line between preamble and postamble is the announcement of a step, or it is silent. -/
theorem silent_or_announcement (he : e.LaidOut) {steps : List Step} {line : String}
    (hline : line ∈ e.bodyLines steps) :
    Silent line ∨ ∃ number step, line = e.announcement number step := by
  rw [bodyLines] at hline
  split at hline
  next =>
    obtain ⟨statement, hempty, rfl⟩ := List.mem_map.mp hline
    exact .inl (he.emptyBody statement (Option.mem_toList.mp hempty))
  next =>
    obtain ⟨⟨step, number⟩, _, hline⟩ := List.mem_flatMap.mp hline
    rcases List.mem_cons.mp hline with rfl | hline
    · exact .inr ⟨number, step, rfl⟩
    · obtain ⟨s, hs, rfl⟩ := List.mem_map.mp hline
      exact .inl (he.statements step.action s hs)

theorem newline_notMem_lines (he : e.LaidOut) (test : Test) :
    ∀ line ∈ e.preamble test ++ e.bodyLines test.steps ++ e.postamble test,
      '\n' ∉ line.toList := by
  intro line hline
  rw [List.mem_append, List.mem_append] at hline
  rcases hline with (hline | hline) | hline
  · exact (he.preamble test line hline).inLine
  · rcases he.silent_or_announcement hline with hsilent | ⟨number, step, rfl⟩
    · exact hsilent.inLine
    · exact he.newline_notMem_announcement number step
  · exact (he.postamble test line hline).inLine

/-- In the lines for steps, those that announce one are the comments, in order. -/
theorem filter_announces_bodyLines (he : e.LaidOut) (steps : List Step) :
    ((e.bodyLines steps).map String.toList).filter announces =
      (steps.zipIdx 1).map fun (step, number) => (e.announcement number step).toList := by
  rw [bodyLines]
  split
  next hsteps =>
    rw [filter_announces_of_silent, hsteps]
    · rfl
    · intro line hline
      obtain ⟨statement, hempty, rfl⟩ := List.mem_map.mp hline
      exact he.emptyBody statement (Option.mem_toList.mp hempty)
  next =>
    generalize steps.zipIdx 1 = numbered
    induction numbered with
    | nil => rfl
    | cons entry rest ih =>
        obtain ⟨step, number⟩ := entry
        have hstatements : ∀ line ∈ e.statementLines step, Silent line := by
          intro line hline
          obtain ⟨s, hs, rfl⟩ := List.mem_map.mp hline
          exact he.statements step.action s hs
        rw [List.flatMap_cons, List.map_append, List.filter_append, ih, List.map_cons,
          List.filter_cons_of_pos (he.announces_announcement number step),
          filter_announces_of_silent hstatements, List.map_cons]
        rfl

/-- A script, split at the ends of lines, is the preamble, the lines for its steps and the
postamble; and the lines that announce a step are the comments, in order. -/
theorem splitOn_emit (he : e.LaidOut) (test : Test) :
    (e.emit test).toList.splitOn '\n' =
        (e.preamble test ++ e.bodyLines test.steps ++ e.postamble test).map String.toList ++ [[]] ∧
      ((e.emit test).toList.splitOn '\n').filter announces =
        (test.steps.zipIdx 1).map fun (step, number) => (e.announcement number step).toList := by
  have hne : e.lines test ≠ [] := by simp [lines, he.preamble_ne_nil]
  have hsplit : (e.emit test).toList.splitOn '\n' =
      (e.preamble test ++ e.bodyLines test.steps ++ e.postamble test).map String.toList ++
        [[]] := by
    rw [toList_emit e hne, lines, body_eq_bodyLines]
    apply splitOnP_unlines (by decide)
    intro line hline c hc
    have hline := he.newline_notMem_lines test line hline
    exact beq_eq_false_iff_ne.mpr (ne_of_mem_of_not_mem hc hline)
  refine ⟨hsplit, ?_⟩
  rw [hsplit, List.filter_append, List.map_append, List.map_append, List.filter_append,
    List.filter_append, filter_announces_of_silent (he.preamble test),
    filter_announces_of_silent (he.postamble test), he.filter_announces_bodyLines test.steps]
  simp [announces, List.isPrefixOf?]

end LaidOut

end Emitter

/-! ## The standard targets -/

theorem isUnmarked_className (name : String) : (className name).toList.all isUnmarked = true :=
  List.all_eq_true.mpr fun _ hc => isUnmarked_of_isWord (isWord_of_mem_className hc)

/-- The lines of statements are silent if their parts end no line and their code begins with no
mark. -/
theorem Silent.of_statements {e : Emitter} {l : Dialect} {statements : List Statement}
    (hindent : e.indent.toList.all (· == ' ') = true)
    (hascii : e.asciiLiterals = l.asciiLiterals)
    (hparts : statements.all (fun s => s.all (Piece.inLine l)) = true)
    (hstart : statements.all Statement.startsUnmarked = true) :
    ∀ s ∈ statements, Silent (e.line s) := fun s hs =>
  .of_statement hindent hascii (List.all_eq_true.mp hparts s hs) (List.all_eq_true.mp hstart s hs)

theorem Silent.of_lines {lines : List String}
    (hlines : lines.all (fun line => line.toList.all isUnmarked) = true) :
    ∀ line ∈ lines, Silent line := fun line hline =>
  .of_unmarked (List.all_eq_true.mp hlines line hline)

namespace Java

/-- No line for an action announces a step. -/
theorem silent_statements (action : Action) :
    ∀ s ∈ statements action, Silent (selenium.line s) := by
  have hfinder : ∀ kind, (finder kind).toList.all (fun c => !java.isLineEnd c) = true := by
    intro kind
    cases kind with
    | none => decide
    | some kind => cases kind <;> decide
  cases action with
  | screenshot file =>
      intro s hs
      obtain rfl := List.mem_singleton.mp hs
      constructor
      · rw [Emitter.line, String.toList_append]
        simp [selenium, Statement.write, Piece.write]
      · rw [Emitter.line, String.toList_append, announces, dropWhile_isBlank_indent (by decide)]
        have hslash : Chars.isBlank '/' = false := by decide
        simp [Statement.write, Piece.write, hslash, List.isPrefixOf?]
  | _ =>
      apply Silent.of_statements (l := java) (by decide) rfl
      · simp only [statements, element, locator, List.cons_append, List.nil_append, List.all_cons,
          List.all_nil, Piece.inLine, hfinder]
        simp [isLineEnd]
      · simp only [statements, element, List.cons_append, List.all_cons, List.all_nil,
          Statement.startsUnmarked]
        repeat rw [String.toList_ofList]
        decide

/-- The lines of Selenium in Java announce a step in its comment alone. -/
theorem laidOut : selenium.LaidOut where
  mark := .inl rfl
  indent := by decide
  statements := silent_statements
  emptyBody := by
    intro s hs
    cases hs
  preamble := by
    intro test
    apply Silent.of_lines
    simp only [selenium, preamble, List.all_cons, String.toList_append, List.all_append,
      isUnmarked_className]
    repeat rw [String.toList_ofList]
    decide
  postamble := by
    intro test
    have hlines : postamble.all (fun line => line.toList.all isUnmarked) = true := by decide
    exact Silent.of_lines hlines
  preamble_ne_nil := fun _ => List.cons_ne_nil _ _

end Java

namespace JavaScript

/-- The lines of Playwright in JavaScript announce a step in its comment alone. -/
theorem laidOut : playwright.LaidOut where
  mark := .inl rfl
  indent := by decide
  statements := by
    intro action
    apply Silent.of_statements (l := javaScript) (by decide) rfl (inLine_statements action)
    cases action with
    | screenshot file =>
        cases hfile : file.bind Text.nonempty? <;>
          simp only [statements, hfile, capture, List.all_cons, List.all_nil,
            Statement.startsUnmarked] <;>
          (repeat rw [String.toList_ofList]) <;>
          decide
    | _ =>
        simp only [statements, locator, List.cons_append, List.all_cons, List.all_nil,
          Statement.startsUnmarked]
        repeat rw [String.toList_ofList]
        decide
  emptyBody := by
    intro s hs
    cases hs
  preamble := by
    intro test
    apply Silent.of_lines
    simp only [playwright, preamble, List.all_cons, String.toList_append, List.all_append,
      isUnmarked_className]
    repeat rw [String.toList_ofList]
    decide
  postamble := by
    intro test
    apply Silent.of_lines
    simp only [playwright, postamble, List.all_cons, String.toList_append, List.all_append,
      isUnmarked_className]
    repeat rw [String.toList_ofList]
    decide
  preamble_ne_nil := fun _ => List.cons_ne_nil _ _

end JavaScript

namespace Python

theorem silent_opening (test : Test) : ∀ line ∈ opening test, Silent line := by
  have htitle : Silent ("# Test Case: " ++ Text.collapseBlanks test.name) := by
    constructor
    · rw [String.toList_append, List.mem_append, not_or]
      exact ⟨by simp, newline_notMem_joinedWords _⟩
    · have hhash : Chars.isBlank '#' = false := by decide
      simp [announces, hhash, List.isPrefixOf?]
  have hname : (functionName test.name).toList.all isUnmarked = true :=
    List.all_eq_true.mpr fun _ hc => isUnmarked_of_isWord (isWord_of_mem_functionName hc)
  have hdefinition : Silent ("def " ++ functionName test.name ++ "():") := by
    apply Silent.of_unmarked
    simp only [String.toList_append, List.all_append, hname]
    repeat rw [String.toList_ofList]
    decide
  rw [opening, List.forall_mem_cons, List.forall_mem_singleton]
  exact ⟨htitle, hdefinition⟩

/-- An emitter of test functions is laid out if its fixed lines hold no mark of a comment and its
statements begin with none. -/
theorem laidOut_of {e : Emitter} {statement : Action → Statement}
    {imports rest ending : List String} (hmark : e.commentMark = "#")
    (hindent : e.indent.toList.all (· == ' ') = true) (hascii : e.asciiLiterals = false)
    (hstatements : e.statements = fun action => [statement action])
    (hpreamble : e.preamble = fun test => imports ++ opening test ++ rest)
    (hpostamble : e.postamble = fun _ => ending) (hempty : e.emptyBody = some "pass")
    (hlines : (imports ++ rest ++ ending).all (fun line => line.toList.all isUnmarked) = true)
    (hparts : ∀ action, (statement action).all (Piece.inLine python) = true)
    (hstart : ∀ action, (statement action).startsUnmarked = true) :
    e.LaidOut where
  mark := .inr hmark
  indent := hindent
  statements := by
    intro action s hs
    rw [hstatements] at hs
    obtain rfl := List.mem_singleton.mp hs
    exact .of_statement (l := python) hindent hascii (hparts action) (hstart action)
  emptyBody := by
    intro s hs
    obtain rfl := Option.some.inj (hempty.symm.trans hs)
    have hpass := Silent.of_statement (e := e) (l := python) (s := [.code "pass"]) hindent hascii
      (by decide) (by decide)
    simpa [Emitter.line, Statement.write, Piece.write] using hpass
  preamble := by
    intro test line hline
    have hfixed := Silent.of_lines hlines line
    rw [hpreamble, List.mem_append, List.mem_append] at hline
    rw [List.mem_append, List.mem_append] at hfixed
    rcases hline with (hline | hline) | hline
    · exact hfixed (.inl (.inl hline))
    · exact silent_opening test line hline
    · exact hfixed (.inl (.inr hline))
  postamble := by
    intro test line hline
    rw [hpostamble] at hline
    exact Silent.of_lines hlines line (List.mem_append_right _ hline)
  preamble_ne_nil := by
    intro test
    rw [hpreamble]
    simp [opening]

/-- A line is code: something other than the mark of a comment comes first in it. -/
def isCode (line : String) : Bool := (line.toList.dropWhile Chars.isBlank).head?.any (· != '#')

theorem isCode_line {e : Emitter} {s : Statement} (hindent : e.indent.toList.all (· == ' ') = true)
    (hstart : s.startsUnmarked = true) : isCode (e.line s) = true := by
  obtain ⟨c, hhead, hunmarked⟩ := head?_line hindent hstart
  have hmarks : (c ≠ '\n' ∧ c ≠ '/') ∧ c ≠ '#' := by simpa [isUnmarked] using hunmarked
  simp [isCode, hhead, hmarks.2]

/-- There is code between the preamble and the postamble of a test function, for all steps. -/
theorem exists_isCode_bodyLines {e : Emitter} {statement : Action → Statement}
    (hindent : e.indent.toList.all (· == ' ') = true)
    (hstatements : e.statements = fun action => [statement action])
    (hempty : e.emptyBody = some "pass")
    (hstart : ∀ action, (statement action).startsUnmarked = true) (steps : List Step) :
    ∃ line ∈ e.bodyLines steps, isCode line = true := by
  cases steps with
  | nil =>
      have hpass := isCode_line (s := [.code "pass"]) hindent (by decide)
      refine ⟨e.indent ++ "pass", by simp [Emitter.bodyLines, hempty], ?_⟩
      simpa [Emitter.line, Statement.write, Piece.write] using hpass
  | cons step rest =>
      refine ⟨e.line (statement step.action), ?_, isCode_line hindent (hstart step.action)⟩
      simp [Emitter.bodyLines, Emitter.statementLines, hstatements, Emitter.line]

namespace Selenium

theorem inLine_statement (action : Action) :
    (statement action).all (Piece.inLine Dialect.python) = true := by
  have hfinder : ∀ kind, (finder kind).toList.all (fun c => !python.isLineEnd c) = true := by
    intro kind
    cases kind with
    | none => decide
    | some kind => cases kind <;> decide
  cases action with
  | screenshot file =>
      cases hfile : file.bind Text.nonempty? <;>
        simp [statement, hfile, fileName, generatedFile, Piece.inLine, isLineEnd]
  | _ =>
      simp only [statement, element, locator, List.cons_append, List.nil_append, List.all_cons,
        List.all_nil, Piece.inLine, hfinder]
      simp [isLineEnd]

theorem startsUnmarked_statement (action : Action) : (statement action).startsUnmarked = true := by
  cases action <;>
    simp only [statement, element, List.cons_append, Statement.startsUnmarked] <;>
    (repeat rw [String.toList_ofList]) <;>
    decide

theorem laidOut : selenium.LaidOut :=
  laidOut_of rfl (by decide) rfl rfl rfl rfl rfl (by decide) inLine_statement
    startsUnmarked_statement

end Selenium

namespace Playwright

theorem startsUnmarked_statement (action : Action) : (statement action).startsUnmarked = true := by
  cases action <;>
    simp only [statement, locator, List.cons_append, Statement.startsUnmarked] <;>
    (repeat rw [String.toList_ofList]) <;>
    decide

theorem laidOut : playwright.LaidOut :=
  laidOut_of rfl (by decide) rfl rfl rfl rfl rfl (by decide) inLine_statement
    startsUnmarked_statement

end Playwright

end Python

/-! ## Compiled scripts -/

/-- The target that is asked for: a tool or platform that is not given is the test's own. -/
def Target.asked (test : Test) (tool platform : Option String) : Target :=
  .ofNames ((tool.bind Text.nonempty?).getD test.tool)
    ((platform.bind Text.nonempty?).getD test.platform)

theorem Catalog.compile_of_mem {c : Catalog} {test : Test} {tool platform : Option String}
    {e : Emitter} (hlookup : c.entries.lookup (Target.asked test tool platform) = some e) :
    c.compile test tool platform = e.emit test := by
  rw [Target.asked] at hlookup
  simp only [compile, emitterFor, hlookup]

/-- In which way the lines of a script for a target are those of a test. -/
structure Emitter.Fits (e : Emitter) (t : Target) (test : Test) (lines : List (List Char)) :
    Prop where
  /-- The lines are the preamble, the lines for the steps and the postamble, each with its end. -/
  lines_eq : lines = (e.preamble test ++ e.bodyLines test.steps ++ e.postamble test).map
    String.toList ++ [[]]
  /-- The lines that read like the comment on a step are the comments on the steps, in order. -/
  announced : lines.filter announces = (test.steps.zipIdx 1).map fun (step, number) =>
    (e.announcement number step).toList
  /-- In a test function, the lines for the steps are indented, and there is code among them. -/
  filled : t.platform = "python" →
    (∀ line ∈ e.bodyLines test.steps, List.replicate 8 ' ' <+: line.toList) ∧
      ∃ line ∈ e.bodyLines test.steps, Python.isCode line = true

/-- A script for a standard target is split at the ends of its lines into the preamble of the
target, for each step in order a comment with its number and its label and the lines of its
statements, and the postamble. No other line reads like the comment on a step. In the test functions
of Python all lines between are indented, and there is code among them even without steps. -/
theorem compile_fits {t : Target} (ht : t ∈ Catalog.standard.targets) {test : Test}
    {tool platform : Option String} (hasked : Target.asked test tool platform = t) :
    ∃ e, (t, e) ∈ Catalog.standard.entries ∧
      e.Fits t test ((Catalog.standard.compile test tool platform).toList.splitOn '\n') := by
  have hfits {e : Emitter} (hlookup : Catalog.standard.entries.lookup t = some e)
      (he : e.LaidOut) (hfilled : t.platform = "python" → e.indent = "        " ∧
        ∃ line ∈ e.bodyLines test.steps, Python.isCode line = true) :
      e.Fits t test ((Catalog.standard.compile test tool platform).toList.splitOn '\n') := by
    rw [Catalog.compile_of_mem (hasked ▸ hlookup)]
    obtain ⟨hlines, hannounced⟩ := he.splitOn_emit test
    refine ⟨hlines, hannounced, fun hplatform => ?_⟩
    obtain ⟨hindent, hcode⟩ := hfilled hplatform
    have hindented := e.indent_isPrefix_bodyLines test.steps
    rw [hindent] at hindented
    exact ⟨hindented, hcode⟩
  rcases Catalog.mem_targets_standard.mp ht with rfl | rfl | rfl | rfl
  · exact ⟨_, by rw [Catalog.entries_standard]; simp, hfits (by rw [Catalog.entries_standard]; rfl)
      Java.laidOut fun h => absurd h (by decide)⟩
  · exact ⟨_, by rw [Catalog.entries_standard]; simp, hfits (by rw [Catalog.entries_standard]; rfl)
      Python.Selenium.laidOut fun _ => ⟨rfl, Python.exists_isCode_bodyLines (by decide) rfl rfl
        Python.Selenium.startsUnmarked_statement test.steps⟩⟩
  · exact ⟨_, by rw [Catalog.entries_standard]; simp, hfits (by rw [Catalog.entries_standard]; rfl)
      JavaScript.laidOut fun h => absurd h (by decide)⟩
  · exact ⟨_, by rw [Catalog.entries_standard]; simp, hfits (by rw [Catalog.entries_standard]; rfl)
      Python.Playwright.laidOut fun _ => ⟨rfl, Python.exists_isCode_bodyLines (by decide) rfl rfl
        Python.Playwright.startsUnmarked_statement test.steps⟩⟩

/-- A test with texts that imitate the comments on steps. -/
def mimicPage : Test where
  id := "1"
  name := "// Step 1: a\n# Step 2: b"
  steps := [⟨"first\n        # Step 7: second\\", .navigate "\n# Step 8: third"⟩,
    ⟨"\\ ", .screenshot none⟩]
  tool := " Playwright"
  platform := "PYTHON\n"
  created := ⟨2024, 1, 2, 3, 4, 6, 0, none, by decide⟩

/-- Texts that imitate the comments on steps are not taken for any. -/
theorem compile_fits_mimicPage :
    (⟨"playwright", "python"⟩ : Target) ∈ Catalog.standard.targets ∧
      Target.asked mimicPage none none = ⟨"playwright", "python"⟩ ∧
      ∃ e, (⟨"playwright", "python"⟩, e) ∈ Catalog.standard.entries ∧ e.Fits
        ⟨"playwright", "python"⟩ mimicPage
        ((Catalog.standard.compile mimicPage none none).toList.splitOn '\n') := by
  have htarget : (⟨"playwright", "python"⟩ : Target) ∈ Catalog.standard.targets :=
    Catalog.mem_targets_standard.mpr (.inr (.inr (.inr rfl)))
  have hasked : Target.asked mimicPage none none = ⟨"playwright", "python"⟩ := by decide
  exact ⟨htarget, hasked, compile_fits htarget hasked⟩

end Clickpath.Script
