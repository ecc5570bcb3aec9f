import Clickpath.Proofs.Chars.Reading
import Clickpath.Proofs.Record.Clock
import Clickpath.Proofs.Record.Parts
import Clickpath.Proofs.Scenario.Quoting

/-! # Scenario lines and designer records

A step can be given by a line of a scenario or by a record of a designer. Where the line has the
target and the value in quotation marks both make the same step, or fail in the same way, whatever
the two texts hold.
-/

namespace Clickpath.Scenario

open Chars

/-! ## Parts of a line -/

def announcement : List Char := " with value ".toList

/-- What stands in front of a target: its strategy, if there is one. -/
def strategyMark : Option (List Char) → List Char
  | none => []
  | some word => word ++ ['=']

/-- A line with a quoted target and a quoted value. -/
def lineOf (keyword : List Char) (strategy : Option (List Char)) (target value : List Char) :
    List Char :=
  keyword ++ ' ' :: (strategyMark strategy ++ (quoted target ++ (announcement ++ quoted value)))

/-- A word can name a strategy. -/
def IsWordText (s : List Char) : Prop := s ≠ [] ∧ s.all isWord = true

/-- A text that a line can hold. -/
def FitsLine (s : List Char) : Prop := s ≠ [] ∧ ∀ c ∈ s, isLineEnd c = false

/-- The marks of a line are no word characters. -/
theorem not_isWord_marks : isWord '=' = false ∧ isWord '\x22' = false ∧ isWord ' ' = false ∧
    isWord '#' = false := by
  decide +kernel

/-- A text that a line can hold keeps to its line in quotation marks too. -/
theorem FitsLine.quoted {s : List Char} (hs : FitsLine s) :
    ∀ c ∈ quoted s, isLineEnd c = false := by
  intro c hc
  rcases List.mem_cons.mp hc with rfl | hc
  · decide
  · rcases List.mem_append.mp hc with hc | hc
    · rcases mem_escapeMarks hc with rfl | hc
      · decide
      · exact hs.2 c hc
    · rw [List.mem_singleton.mp hc]
      decide

/-- A value is read back from its announcement. -/
theorem lineEnd?_announcement {value : List Char} (hvalue : FitsLine value) :
    lineEnd? (announcement ++ quoted value) = some (some (quoted value)) := by
  have hblanks : (announcement ++ quoted value).dropWhile isBlank =
      "with value ".toList ++ quoted value := rfl
  have hannounced : announcedValue? ("with value ".toList ++ quoted value) =
      if (quoted value).contains '\n' then none else some (quoted value) := rfl
  have hline : (quoted value).contains '\n' = false := by
    rw [← Bool.not_eq_true, List.contains_iff_mem]
    exact fun hmem => absurd (hvalue.quoted _ hmem) (by decide)
  rw [hline, if_neg Bool.false_ne_true] at hannounced
  rw [lineEnd?, hblanks]
  exact congrArg (Option.map some) hannounced

/-- The intended parts are found first. -/
theorem targetAndValue?_quoted {target value : List Char} (htarget : target.getLast? ≠ some '\\')
    (hvalue : FitsLine value) :
    targetAndValue? (quoted target ++ (announcement ++ quoted value)) =
      some (quoted target, some (quoted value)) := by
  obtain ⟨shorter, hlongest⟩ := quotedTargets_quoted htarget (announcement ++ quoted value)
  rw [targetAndValue?, targets, hlongest, List.cons_append, List.findSome?_cons]
  dsimp only
  rw [lineEnd?_announcement hvalue]
  rfl

/-- A strategy is read back from the mark in front of a target. -/
theorem strategy?_mark {word : List Char} (hword : IsWordText word) (rest : List Char) :
    strategy? (strategyMark (some word) ++ rest) = some (word, rest) := by
  have hrow : (word ++ '=' :: rest).takeWhile isWord = word :=
    takeWhile_append_cons hword.2 not_isWord_marks.1
  have hmark : strategyMark (some word) ++ rest = word ++ '=' :: rest := by
    rw [strategyMark, List.append_assoc]
    rfl
  have hdrop : (word ++ '=' :: rest).drop word.length = '=' :: rest := List.drop_left
  unfold strategy?
  simp only [hmark, hrow, hdrop]
  cases word with
  | nil => exact absurd rfl hword.1
  | cons c more => rfl

theorem strategy?_quoted (target rest : List Char) : strategy? (quoted target ++ rest) = none := by
  have hrow : (quoted target ++ rest).takeWhile isWord = [] :=
    List.takeWhile_cons_of_neg (Bool.eq_false_iff.mp not_isWord_marks.2.1)
  rw [strategy?, hrow]

/-- What follows the keyword does not start with a blank. -/
theorem head?_strategyMark {strategy : Option (List Char)}
    (hstrategy : ∀ word ∈ strategy, IsWordText word) (target rest : List Char) :
    ∀ c ∈ (strategyMark strategy ++ (quoted target ++ rest)).head?, isBlank c = false := by
  intro c hc
  cases strategy with
  | none =>
      rw [← Option.some.inj hc]
      decide
  | some word =>
      obtain ⟨hfilled, hword⟩ := hstrategy word rfl
      cases word with
      | nil => exact absurd rfl hfilled
      | cons d more =>
          rw [← Option.some.inj hc]
          exact not_isBlank_of_isWord (List.all_eq_true.mp hword d List.mem_cons_self)

theorem afterBlanks?_space {s : List Char} (hs : ∀ c ∈ s.head?, isBlank c = false) :
    afterBlanks? (' ' :: s) = some s := by
  rw [afterBlanks?, if_pos (by decide), dropWhile_blank_eq_self hs]

/-- The parts of a line behind its keyword. -/
theorem afterKeyword?_lineOf (keyword : List Char) {strategy : Option (List Char)}
    {target value : List Char} (hstrategy : ∀ word ∈ strategy, IsWordText word)
    (htarget : target.getLast? ≠ some '\\') (hvalue : FitsLine value) :
    afterKeyword? keyword (' ' :: (strategyMark strategy ++
        (quoted target ++ (announcement ++ quoted value)))) =
      some ⟨keyword, strategy, some (quoted target), some (quoted value)⟩ := by
  have hparts := targetAndValue?_quoted htarget hvalue
  have hblanks := afterBlanks?_space
    (head?_strategyMark hstrategy target (announcement ++ quoted value))
  unfold afterKeyword?
  rw [hblanks]
  cases strategy with
  | none =>
      rw [strategyMark, List.nil_append]
      simp only [Option.bind_eq_bind, Option.bind_some, strategy?_quoted, Option.bind_none, hparts]
      rfl
  | some word =>
      have hword := hstrategy word rfl
      simp only [Option.bind_eq_bind, Option.bind_some, strategy?_mark hword, hparts]
      rfl

/-- A line is read as it is meant. -/
theorem Line.read?_lineOf {keyword : List Char} {strategy : Option (List Char)}
    {target value : List Char} (hkeyword : IsWordText keyword)
    (hstrategy : ∀ word ∈ strategy, IsWordText word) (htarget : target.getLast? ≠ some '\\')
    (hvalue : FitsLine value) :
    Line.read? (lineOf keyword strategy target value) =
      some ⟨keyword, strategy, some (quoted target), some (quoted value)⟩ := by
  have hparts := afterKeyword?_lineOf keyword hstrategy htarget hvalue
  have hword : (lineOf keyword strategy target value).takeWhile isWord = keyword :=
    takeWhile_append_cons hkeyword.2 not_isWord_marks.2.2.1
  have hlength : keyword.length - 1 + 1 = keyword.length :=
    Nat.sub_add_cancel (List.length_pos_iff.mpr hkeyword.1)
  have htake : (lineOf keyword strategy target value).take keyword.length = keyword :=
    List.take_left
  have hdrop : (lineOf keyword strategy target value).drop keyword.length =
    ' ' :: (strategyMark strategy ++ (quoted target ++ (announcement ++ quoted value))) :=
    List.drop_left
  rw [Line.read?, hword, ← hlength, startsUpTo, hlength, htake, hdrop, List.findSome?_cons]
  dsimp only
  rw [hparts]

/-! ## The step of a line -/

theorem isLineEnd_lineOf {keyword : List Char} {strategy : Option (List Char)}
    {target value : List Char} (hkeyword : IsWordText keyword)
    (hstrategy : ∀ word ∈ strategy, IsWordText word) (htarget : FitsLine target)
    (hvalue : FitsLine value) :
    ∀ c ∈ lineOf keyword strategy target value, isLineEnd c = false := by
  have hwords : ∀ s : List Char, IsWordText s → ∀ c ∈ s, isLineEnd c = false :=
    fun s hs c hc => not_isLineEnd_of_isWord (List.all_eq_true.mp hs.2 c hc)
  have hmark : ∀ c ∈ strategyMark strategy, isLineEnd c = false := by
    cases strategy with
    | none => exact List.forall_mem_nil _
    | some word =>
        exact List.forall_mem_append.mpr ⟨hwords word (hstrategy word rfl),
          not_isLineEnd_of_any (by decide)⟩
  simp only [lineOf, List.forall_mem_append, List.forall_mem_cons]
  exact ⟨hwords keyword hkeyword, by decide, hmark, htarget.quoted,
    not_isLineEnd_of_any (by decide), hvalue.quoted⟩

/-- A line begins with its keyword and ends with a mark, so nothing is trimmed off. -/
theorem trim_lineOf {keyword : List Char} (hkeyword : IsWordText keyword)
    (strategy : Option (List Char)) (target value : List Char) :
    trim (lineOf keyword strategy target value) = lineOf keyword strategy target value := by
  apply trim_eq_self
  · obtain ⟨hfilled, hword⟩ := hkeyword
    cases keyword with
    | nil => exact absurd rfl hfilled
    | cons c more =>
        intro d hd
        rw [← Option.some.inj hd]
        exact not_isBlank_of_isWord (List.all_eq_true.mp hword c List.mem_cons_self)
  · have hend : lineOf keyword strategy target value = (keyword ++ ' ' :: (strategyMark strategy ++
        (quoted target ++ (announcement ++ '\x22' :: escapeMarks value)))) ++ ['\x22'] := by
      simp [lineOf, quoted]
    rw [hend, List.getLast?_concat]
    intro c hc
    rw [← Option.some.inj hc]
    decide

/-- A line with a known keyword is a step. -/
theorem meaning_lineOf {keyword : List Char} {strategy : Option (List Char)}
    {target value : List Char} {kind : StepKind} (hkeyword : IsWordText keyword)
    (hkind : Designer.kindOfKeyword? (String.ofList (upper keyword)) = some kind)
    (hstrategy : ∀ word ∈ strategy, IsWordText word) (htarget : target.getLast? ≠ some '\\')
    (hvalue : FitsLine value) :
    meaning (lineOf keyword strategy target value) =
      .step kind ⟨keyword, strategy, some (quoted target), some (quoted value)⟩ := by
  have hread := Line.read?_lineOf hkeyword hstrategy htarget hvalue
  obtain ⟨hfilled, hword⟩ := hkeyword
  cases keyword with
  | nil => exact absurd rfl hfilled
  | cons c more =>
      have hc : c ≠ '#' := by
        rintro rfl
        exact absurd (List.all_eq_true.mp hword '#' List.mem_cons_self)
          (Bool.eq_false_iff.mp not_isWord_marks.2.2.2)
      unfold meaning
      split
      next h => cases h
      next h =>
        cases h
        exact absurd rfl hc
      next =>
        rw [hread]
        dsimp only
        rw [hkind]

/-! ## Keywords -/

/-- What stands for a keyword when it is raised is a word. -/
theorem isWordText_of_keyword {keyword : String} {kind : StepKind}
    (hkind : Designer.kindOfKeyword? (Text.upper keyword) = some kind) :
    IsWordText keyword.toList := by
  have hknown : ∀ entry ∈ Designer.keywords,
      entry.1 ≠ "" ∧ entry.1.toList.all isAsciiWord = true := by
    decide +kernel
  obtain ⟨before, after, hentries, -⟩ := List.lookup_eq_some_iff.mp hkind
  obtain ⟨hfilled, hascii⟩ := hknown (Text.upper keyword, kind) (by
    rw [hentries]
    exact List.mem_append_right _ List.mem_cons_self)
  refine ⟨?_, ?_⟩
  · intro hempty
    apply hfilled
    rw [Text.upper, hempty]
    rfl
  · rw [Text.upper, String.toList_ofList] at hascii
    exact all_isWord_of_upper hascii

/-! ## Lines and records -/

/-- A line of text with a quoted target and a quoted value. -/
def lineText (keyword : String) (strategy : Option String) (target value : String) : String :=
  String.ofList (lineOf keyword.toList (strategy.map String.toList) target.toList value.toList)

theorem toList_lineText (keyword : String) (strategy : Option String) (target value : String) :
    (lineText keyword strategy target value).toList =
      lineOf keyword.toList (strategy.map String.toList) target.toList value.toList :=
  String.toList_ofList

theorem lineOf_ne_nil (keyword : List Char) (strategy : Option (List Char))
    (target value : List Char) : lineOf keyword strategy target value ≠ [] :=
  List.append_ne_nil_of_right_ne_nil _ (List.cons_ne_nil _ _)

theorem ne_empty_of_toList {s : String} (hs : s.toList ≠ []) : s ≠ "" := by
  rintro rfl
  exact hs rfl

/-- The parts of a line make the step that a designer makes of the texts in them. -/
theorem stepOf_lineOf (kind : StepKind) (name keyword : List Char) {strategy : Option String}
    {target value : String} (htarget : FitsLine target.toList) (hvalue : FitsLine value.toList) :
    stepOf kind name ⟨keyword, strategy.map String.toList, some (quoted target.toList),
        some (quoted value.toList)⟩ =
      Designer.build kind (.text (String.ofList name)) (some (.text target)) (strategy.map .text)
        (some (.text value)) := by
  have hpart : ∀ s : String, FitsLine s.toList →
      partDatum? (some (quoted s.toList)) = some (.text s) := by
    intro s hs
    rw [partDatum?, Option.bind_some, unquote?_quoted hs.1, Option.map_some, String.ofList_toList]
  have hstrategy : (strategy.map String.toList).map (fun s => Datum.text (String.ofList s)) =
      strategy.map .text := by
    rw [Option.map_map]
    exact congrFun (congrArg Option.map (funext fun s => by simp)) strategy
  rw [stepOf]
  dsimp only
  rw [hpart target htarget, hpart value hvalue, hstrategy]

/-- A scenario of one line that is a step. -/
theorem readLines_singleton {line : List Char} {kind : StepKind} {parts : Line} (number : Nat)
    (htrim : trim line = line) (hmeaning : meaning line = .step kind parts) (supply : Supply) :
    readLines number [line] supply =
      (⟨[], (stepOf kind line parts supply).1.map fun step => [step]⟩,
        (stepOf kind line parts supply).2) := by
  rw [readLines]
  dsimp only
  rw [htrim, hmeaning]
  dsimp only
  obtain ⟨result, after⟩ := stepOf kind line parts supply
  cases result <;> rfl

/-- A line is read as the step of its keyword, its target and its value. -/
theorem readStep_lineText {keyword target value : String} {strategy : Option String}
    {kind : StepKind} (hkind : Designer.kindOfKeyword? (Text.upper keyword) = some kind)
    (hstrategy : ∀ word ∈ strategy, IsWordText word.toList) (htarget : FitsLine target.toList)
    (hvalue : FitsLine value.toList) :
    let line := lineText keyword strategy target value
    Designer.readStep (Designer.recordOf keyword strategy target value line) =
      Designer.build kind (.text line) (some (.text target)) (strategy.map .text)
        (some (.text value)) := by
  refine Designer.readStep_recordOf hkind ?_ (ne_empty_of_toList htarget.1)
    (ne_empty_of_toList hvalue.1) (ne_empty_of_toList ?_)
  · exact fun word hword => ne_empty_of_toList (hstrategy word hword).1
  · rw [toList_lineText]
    exact lineOf_ne_nil _ _ _ _

/-- A line and a designer's record of the same parts make the same step or fail with the same fault,
whatever the two texts hold. They are read from the line as they were. -/
theorem read_lineText {keyword target value : String} {strategy : Option String} {kind : StepKind}
    (hkind : Designer.kindOfKeyword? (Text.upper keyword) = some kind)
    (hstrategy : ∀ word ∈ strategy, IsWordText word.toList) (htarget : FitsLine target.toList)
    (hend : target.toList.getLast? ≠ some '\\') (hvalue : FitsLine value.toList)
    (supply : Supply) :
    let line := lineText keyword strategy target value
    let made := Designer.readStep (Designer.recordOf keyword strategy target value line) supply
    read line supply = (⟨[], made.1.map fun step => [step]⟩, made.2) ∧
      Designer.StepOrMalformed kind line made.1 ∧
      ∃ parts, Line.read? line.toList = some parts ∧ parts.keyword = keyword.toList ∧
        parts.strategy = strategy.map String.toList ∧
        parts.target.bind unquote? = some target.toList ∧
        parts.value.bind unquote? = some value.toList := by
  intro line made
  have hkeyword := isWordText_of_keyword hkind
  have hwords : ∀ word ∈ strategy.map String.toList, IsWordText word := by
    intro word hword
    obtain ⟨s, hs, rfl⟩ := Option.map_eq_some_iff.mp hword
    exact hstrategy s hs
  have hline : line.toList =
      lineOf keyword.toList (strategy.map String.toList) target.toList value.toList :=
    toList_lineText keyword strategy target value
  have hmade : made = Designer.build kind (.text line) (some (.text target)) (strategy.map .text)
      (some (.text value)) supply :=
    congrFun (readStep_lineText hkind hstrategy htarget hvalue) supply
  refine ⟨?_, ?_, ⟨keyword.toList, strategy.map String.toList, some (quoted target.toList),
    some (quoted value.toList)⟩, ?_, rfl, rfl, ?_, ?_⟩
  · have hone : lines line.toList = [line.toList] := by
      rw [hline]
      exact lines_eq_singleton (isLineEnd_lineOf hkeyword hwords htarget hvalue)
        (lineOf_ne_nil _ _ _ _)
    rw [read, hone, hline, readLines_singleton 1 (trim_lineOf hkeyword _ _ _)
      (meaning_lineOf hkeyword hkind hwords hend hvalue), stepOf_lineOf _ _ _ htarget hvalue, hmade]
    rfl
  · rw [hmade]
    exact Designer.stepOrMalformed_build (ne_empty_of_toList htarget.1)
      (fun word hword => ne_empty_of_toList (hstrategy word hword).1) supply
  · rw [hline]
    exact Line.read?_lineOf hkeyword hwords hend hvalue
  · rw [Option.bind_some, unquote?_quoted htarget.1]
  · rw [Option.bind_some, unquote?_quoted hvalue.1]

/-- Marks and the words for a value within a target do not end it, and a backslash at the end of a
value escapes nothing. -/
theorem read_lineText_quotes :
    let line := "Type css=\"a[title=\\\"x with value y\\\"]\" with value \"say \\\"hi\\\" \\\""
    let target : Selector := ⟨some .css, "a[title=\"x with value y\"]", by decide⟩
    (read line (Supply.still 0)).1.steps.toOption =
      some [⟨line, .typeText target "say \"hi\" \\"⟩] := by
  intro line target
  have hkind : Designer.kindOfKeyword? (Text.upper "Type") = some .typeText := by decide +kernel
  have hstrategy : ∀ word ∈ some "css", IsWordText word.toList := by
    rintro word ⟨⟩
    exact ⟨by decide +kernel, by decide +kernel⟩
  have htarget : FitsLine target.raw.toList :=
    ⟨by decide +kernel, not_isLineEnd_of_any (by decide +kernel)⟩
  have hvalue : FitsLine "say \"hi\" \\".toList :=
    ⟨by decide +kernel, not_isLineEnd_of_any (by decide +kernel)⟩
  have hline : lineText "Type" (some "css") target.raw "say \"hi\" \\" = line := by decide +kernel
  obtain ⟨hread, -⟩ := read_lineText hkind hstrategy htarget (by decide +kernel) hvalue
    (Supply.still 0)
  rw [hline] at hread
  rw [hread]
  decide +kernel

end Clickpath.Scenario
