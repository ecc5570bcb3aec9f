import Clickpath.Proofs.Chars.Classes
import Clickpath.Proofs.Record.Made
import Clickpath.Scenario

/-! # Scenarios line by line

A scenario is read line after line, and what a line comes to depends on the line and the supply
alone. So two texts with a line feed between them are read as the one and then the other, and every
line that says something is accounted for by one step or one warning.
-/

namespace Clickpath

/-! ## Lines of a text -/

namespace Chars

theorem linesFrom_lineFeed (line rest : List Char) :
    linesFrom line ('\n' :: rest) = line.reverse :: lines rest := by
  cases line <;> rfl

theorem linesFrom_pair (line rest : List Char) :
    linesFrom line ('\r' :: '\n' :: rest) = line.reverse :: lines rest := by
  cases line <;> rfl

/-- Only in front of a line feed is a carriage return not taken alone. -/
theorem linesFrom_cons (line : List Char) {c : Char} {rest : List Char}
    (halone : c = '\r' → rest.head? ≠ some '\n') :
    linesFrom line (c :: rest) =
      if isLineEnd c then line.reverse :: lines rest else linesFrom (c :: line) rest := by
  rw [linesFrom]
  · rfl
  · rintro more rfl rfl
    exact halone rfl rfl

/-- A line feed between two texts keeps their lines apart. Where the first is empty or ends with an
end of line, the line feed ends one more line, which is empty, unless it joins a carriage return. -/
theorem exists_linesFrom_append_lineFeed (line s : List Char) :
    ∃ more, (more = [] ∨ more = [[]]) ∧ ∀ rest,
      linesFrom line (s ++ '\n' :: rest) = (linesFrom line s ++ more) ++ lines rest := by
  fun_induction linesFrom line s with
  | case1 => exact ⟨[[]], .inr rfl, fun _ => rfl⟩
  | case2 line hline => exact ⟨[], .inl rfl, fun rest => linesFrom_lineFeed line rest⟩
  | case3 line s ih =>
      obtain ⟨more, hmore, hlines⟩ := ih
      refine ⟨more, hmore, fun rest => ?_⟩
      simp only [List.cons_append, linesFrom_pair]
      exact congrArg (line.reverse :: ·) (hlines rest)
  | case4 line c s halone hend ih =>
      by_cases hlast : c = '\r' ∧ s = []
      · obtain ⟨rfl, rfl⟩ := hlast
        exact ⟨[], .inl rfl, fun rest => linesFrom_pair line rest⟩
      · obtain ⟨more, hmore, hlines⟩ := ih
        refine ⟨more, hmore, fun rest => ?_⟩
        have hpair : c = '\r' → (s ++ '\n' :: rest).head? ≠ some '\n' := by
          intro hc hhead
          cases s with
          | nil => exact hlast ⟨hc, rfl⟩
          | cons d s => exact halone s hc (by rw [Option.some.inj hhead])
        rw [List.cons_append, linesFrom_cons line hpair, if_pos hend]
        exact congrArg (line.reverse :: ·) (hlines rest)
  | case5 line c s halone hend ih =>
      obtain ⟨more, hmore, hlines⟩ := ih
      refine ⟨more, hmore, fun rest => ?_⟩
      have hpair : c = '\r' → (s ++ '\n' :: rest).head? ≠ some '\n' := by
        rintro rfl
        exact absurd (by decide) hend
      rw [List.cons_append, linesFrom_cons line hpair, if_neg hend]
      exact hlines rest

end Chars

namespace Scenario

open Record

/-! ## One line -/

section

variable {line : List Char} {supply after : Supply} {kind : StepKind} {parts : Line}
  (number : Nat) (rest : List (List Char))

theorem readLines_of_nothing (hmeaning : meaning (Chars.trim line) = .nothing) :
    readLines number (line :: rest) supply = readLines (number + 1) rest supply := by
  rw [readLines]
  dsimp only
  rw [hmeaning]

theorem readLines_of_unrecognised (hmeaning : meaning (Chars.trim line) = .unrecognised) :
    readLines number (line :: rest) supply =
      ((readLines (number + 1) rest supply).1.warn ⟨number, String.ofList (Chars.trim line)⟩,
        (readLines (number + 1) rest supply).2) := by
  rw [readLines]
  dsimp only
  rw [hmeaning]

theorem readLines_of_error (hmeaning : meaning (Chars.trim line) = .step kind parts)
    {fault : Fault} (hmade : stepOf kind (Chars.trim line) parts supply = (.error fault, after)) :
    readLines number (line :: rest) supply = (⟨[], .error fault⟩, after) := by
  rw [readLines]
  dsimp only
  rw [hmeaning]
  dsimp only
  rw [hmade]

theorem readLines_of_ok (hmeaning : meaning (Chars.trim line) = .step kind parts) {step : Step}
    (hmade : stepOf kind (Chars.trim line) parts supply = (.ok step, after)) :
    readLines number (line :: rest) supply =
      ((readLines (number + 1) rest after).1.push step, (readLines (number + 1) rest after).2) := by
  rw [readLines]
  dsimp only
  rw [hmeaning]
  dsimp only
  rw [hmade]

end

/-! ## Readings one behind the other -/

/-- A warning of a text that stands below other lines. -/
def Warning.below (count : Nat) (w : Warning) : Warning := { w with number := count + w.number }

/-- The reading of a text that stands below other lines. -/
def Reading.below (count : Nat) (r : Reading) : Reading :=
  { r with warnings := r.warnings.map (·.below count) }

/-- One reading and then another from the supply that the first leaves. A fault ends both. -/
def followedBy (first : Reading × Supply) (second : Supply → Reading × Supply) :
    Reading × Supply :=
  match first.1.steps with
  | .error _ => first
  | .ok steps =>
      let (later, supply) := second first.2
      (⟨first.1.warnings ++ later.warnings, later.steps.map (steps ++ ·)⟩, supply)

theorem followedBy_nothing (first : Reading × Supply) :
    followedBy first (fun later => (⟨[], .ok []⟩, later)) = first := by
  obtain ⟨⟨warnings, steps⟩, supply⟩ := first
  cases steps with
  | error fault => rfl
  | ok steps => simp [followedBy, Except.map]

theorem followedBy_warn (warning : Warning) (r : Reading) (supply : Supply)
    (next : Supply → Reading × Supply) :
    followedBy (r.warn warning, supply) next =
      ((followedBy (r, supply) next).1.warn warning, (followedBy (r, supply) next).2) := by
  obtain ⟨warnings, steps⟩ := r
  cases steps <;> rfl

theorem followedBy_push (step : Step) (r : Reading) (supply : Supply)
    (next : Supply → Reading × Supply) :
    followedBy (r.push step, supply) next =
      ((followedBy (r, supply) next).1.push step, (followedBy (r, supply) next).2) := by
  obtain ⟨warnings, steps⟩ := r
  cases steps with
  | error fault => rfl
  | ok steps =>
      simp only [followedBy, Reading.push, Except.map]
      cases (next supply).1.steps <;> rfl

/-- Lines are read one after another, also when they are cut in two. -/
theorem readLines_append (number : Nat) (first second : List (List Char)) (supply : Supply) :
    readLines number (first ++ second) supply =
      followedBy (readLines number first supply) (readLines (number + first.length) second) := by
  induction first generalizing number supply with
  | nil =>
      rcases hread : readLines number second supply with ⟨⟨warnings, steps⟩, after⟩
      simp only [List.nil_append, readLines, followedBy, List.length_nil, Nat.add_zero, hread]
      cases steps <;> rfl
  | cons line rest ih =>
      have hnumber : number + (line :: rest).length = number + 1 + rest.length := by
        rw [List.length_cons]
        omega
      rw [hnumber, List.cons_append]
      cases hmeaning : meaning (Chars.trim line) with
      | nothing => rw [readLines_of_nothing _ _ hmeaning, readLines_of_nothing _ _ hmeaning, ih]
      | unrecognised =>
          rw [readLines_of_unrecognised _ _ hmeaning, readLines_of_unrecognised _ _ hmeaning, ih,
            followedBy_warn]
      | step kind parts =>
          rcases hmade : stepOf kind (Chars.trim line) parts supply with ⟨_ | step, after⟩
          · rw [readLines_of_error _ _ hmeaning hmade, readLines_of_error _ _ hmeaning hmade]
            rfl
          · rw [readLines_of_ok _ _ hmeaning hmade, readLines_of_ok _ _ hmeaning hmade, ih,
              followedBy_push]

/-- Lines further below give the same steps, and their warnings have other numbers. -/
theorem readLines_below (count number : Nat) (lines : List (List Char)) (supply : Supply) :
    readLines (count + number) lines supply =
      ((readLines number lines supply).1.below count, (readLines number lines supply).2) := by
  induction lines generalizing number supply with
  | nil => rfl
  | cons line rest ih =>
      have hnumber : count + number + 1 = count + (number + 1) := Nat.add_assoc _ _ _
      cases hmeaning : meaning (Chars.trim line) with
      | nothing =>
          rw [readLines_of_nothing _ _ hmeaning, readLines_of_nothing _ _ hmeaning, hnumber, ih]
      | unrecognised =>
          rw [readLines_of_unrecognised _ _ hmeaning, readLines_of_unrecognised _ _ hmeaning,
            hnumber, ih]
          rfl
      | step kind parts =>
          rcases hmade : stepOf kind (Chars.trim line) parts supply with ⟨_ | step, after⟩
          · rw [readLines_of_error _ _ hmeaning hmade, readLines_of_error _ _ hmeaning hmade]
            rfl
          · rw [readLines_of_ok _ _ hmeaning hmade, readLines_of_ok _ _ hmeaning hmade, hnumber, ih]
            rfl

/-! ## What each line comes to -/

/-- A step in front of a reading is its first. -/
theorem Reading.of_push {step : Step} {r : Reading} {steps : List Step}
    (h : (r.push step).steps = .ok steps) :
    ∃ later, r.steps = .ok later ∧ steps = step :: later := by
  rw [Reading.push] at h
  cases hlater : r.steps with
  | error fault =>
      rw [hlater] at h
      cases h
  | ok later =>
      rw [hlater] at h
      exact ⟨later, rfl, (Except.ok.inj h).symm⟩

/-- A line without blanks at its ends says something: it is neither empty nor a comment. -/
def speaks (line : List Char) : Bool := !line.isEmpty && line.head? != some '#'

/-- The lines that say something, trimmed and with their numbers. -/
def speaking (number : Nat) (lines : List (List Char)) : List (Nat × List Char) :=
  ((lines.zipIdx number).map fun (line, number) => (number, Chars.trim line)).filter (speaks ·.2)

/-- What is made of a line: one warning with its number, or one step with its name. -/
inductive Yields : Nat × List Char → Warning ⊕ Step → Prop where
  | warning {number : Nat} {line : List Char} (hmeaning : meaning line = .unrecognised) :
      Yields (number, line) (.inl ⟨number, String.ofList line⟩)
  | step {number : Nat} {line : List Char} {step : Step} {parts : Line}
      (hmeaning : meaning line = .step step.kind parts) (hname : step.name = String.ofList line) :
      Yields (number, line) (.inr step)

theorem speaks_eq_false_of_nothing {line : List Char} (h : meaning line = .nothing) :
    speaks line = false := by
  unfold meaning at h
  split at h
  next => rfl
  next => rfl
  next =>
    split at h
    next => cases h
    next => split at h <;> cases h

theorem speaks_of_ne_nothing {line : List Char} (h : meaning line ≠ .nothing) :
    speaks line = true := by
  cases line with
  | nil => exact absurd rfl h
  | cons c rest =>
      have hc : c ≠ '#' := by
        rintro rfl
        exact h rfl
      simp [speaks, hc]

theorem speaking_cons_of_nothing (number : Nat) {line : List Char} (rest : List (List Char))
    (h : meaning (Chars.trim line) = .nothing) :
    speaking number (line :: rest) = speaking (number + 1) rest := by
  rw [speaking, List.zipIdx_cons, List.map_cons, List.filter_cons_of_neg]
  · rfl
  · rw [speaks_eq_false_of_nothing h]
    exact Bool.false_ne_true

theorem speaking_cons_of_ne_nothing (number : Nat) {line : List Char} (rest : List (List Char))
    (h : meaning (Chars.trim line) ≠ .nothing) :
    speaking number (line :: rest) = (number, Chars.trim line) :: speaking (number + 1) rest := by
  rw [speaking, List.zipIdx_cons, List.map_cons, List.filter_cons_of_pos]
  · rfl
  · exact speaks_of_ne_nothing h

/-- Lines that give steps account for each of them, and for each warning. -/
theorem exists_yields (number : Nat) (lines : List (List Char)) (supply : Supply)
    {steps : List Step} (hsteps : (readLines number lines supply).1.steps = .ok steps) :
    ∃ yields, List.Forall₂ Yields (speaking number lines) yields ∧
      (readLines number lines supply).1.warnings = yields.filterMap Sum.getLeft? ∧
      steps = yields.filterMap Sum.getRight? := by
  induction lines generalizing number supply steps with
  | nil => exact ⟨[], .nil, rfl, (Except.ok.inj hsteps).symm⟩
  | cons line rest ih =>
      cases hmeaning : meaning (Chars.trim line) with
      | nothing =>
          rw [readLines_of_nothing _ _ hmeaning] at hsteps ⊢
          rw [speaking_cons_of_nothing number rest hmeaning]
          exact ih _ _ hsteps
      | unrecognised =>
          rw [readLines_of_unrecognised _ _ hmeaning] at hsteps ⊢
          obtain ⟨yields, hyields, hwarnings, rfl⟩ := ih _ _ hsteps
          rw [speaking_cons_of_ne_nothing number rest (by rw [hmeaning]; exact nofun)]
          refine ⟨.inl _ :: yields, .cons (.warning hmeaning) hyields, ?_, rfl⟩
          exact congrArg (_ :: ·) hwarnings
      | step kind parts =>
          rcases hmade : stepOf kind (Chars.trim line) parts supply with ⟨_ | step, after⟩
          · rw [readLines_of_error _ _ hmeaning hmade] at hsteps
            cases hsteps
          · rw [readLines_of_ok _ _ hmeaning hmade] at hsteps ⊢
            obtain ⟨hname, rfl⟩ := Designer.of_build hmade
            obtain ⟨later, hlater, rfl⟩ := Reading.of_push hsteps
            obtain ⟨yields, hyields, hwarnings, rfl⟩ := ih _ _ hlater
            rw [speaking_cons_of_ne_nothing number rest (by rw [hmeaning]; exact nofun)]
            exact ⟨.inr step :: yields, .cons (.step hmeaning hname) hyields, hwarnings, rfl⟩

/-! ## Refusals -/

/-- Nothing but a rule keeps a line from being a step. -/
theorem refuses_stepOf (kind : StepKind) (name : List Char) (parts : Line) (supply : Supply) :
    Record.Refuses (stepOf kind name parts supply).1 := by
  have htexts : ∀ part : Option (List Char), ∀ d ∈ part.map fun s => Datum.text (String.ofList s),
      ∃ text, d = .text text := by
    intro part d hd
    obtain ⟨word, -, rfl⟩ := Option.map_eq_some_iff.mp hd
    exact ⟨_, rfl⟩
  exact Designer.refuses_build kind _ (htexts _) (htexts _) _ supply

/-- The steps of a scenario are read or refused. -/
theorem refuses_readLines (number : Nat) (lines : List (List Char)) (supply : Supply) :
    Record.Refuses (readLines number lines supply).1.steps := by
  induction lines generalizing number supply with
  | nil => exact .ok []
  | cons line rest ih =>
      cases hmeaning : meaning (Chars.trim line) with
      | nothing =>
          rw [readLines_of_nothing _ _ hmeaning]
          exact ih _ _
      | unrecognised =>
          rw [readLines_of_unrecognised _ _ hmeaning]
          exact ih _ _
      | step kind parts =>
          have hstep := refuses_stepOf kind (Chars.trim line) parts supply
          rcases hmade : stepOf kind (Chars.trim line) parts supply with ⟨fault | step, after⟩
          · rw [readLines_of_error _ _ hmeaning hmade]
            rw [hmade] at hstep
            exact .error (hstep fault rfl)
          · rw [readLines_of_ok _ _ hmeaning hmade]
            have hlater := ih (number + 1) after
            rw [Reading.push]
            cases hsteps : (readLines (number + 1) rest after).1.steps with
            | ok steps => exact .ok _
            | error fault => exact .error (hlater fault hsteps)

/-! ## Texts -/

theorem read_eq (text : String) (supply : Supply) :
    read text supply = readLines 1 (Chars.lines text.toList) supply :=
  rfl

/-- Nothing but a rule keeps a scenario from being a test. -/
theorem refuses_toTest (text name tool platform : String) (supply : Supply) :
    Record.Refuses (toTest text name tool platform supply).1.2 := by
  have hsteps := refuses_readLines 1 (Chars.lines text.toList) supply
  rw [toTest, read_eq]
  dsimp only
  cases hread : (readLines 1 (Chars.lines text.toList) supply).1.steps with
  | ok steps => exact .ok _
  | error fault => exact .error (hsteps fault hread)

/-- The lines of a text and of what stands below it are read one after the other. -/
theorem read_append (a b : String) (supply : Supply) :
    read (a ++ "\n" ++ b) supply = followedBy (read a supply) fun later =>
      ((read b later).1.below (Chars.lines (a ++ "\n").toList).length, (read b later).2) := by
  obtain ⟨more, hmore, hlines⟩ := Chars.exists_linesFrom_append_lineFeed [] a.toList
  have hfront : Chars.lines (a ++ "\n").toList = Chars.lines a.toList ++ more := by
    rw [String.toList_append]
    exact (hlines []).trans (List.append_nil _)
  have hwhole : Chars.lines (a ++ "\n" ++ b).toList =
      Chars.lines (a ++ "\n").toList ++ Chars.lines b.toList := by
    rw [hfront, String.toList_append, String.toList_append, List.append_assoc]
    exact hlines b.toList
  -- A line that the line feed opens is empty, and an empty line says nothing.
  have hread : readLines 1 (Chars.lines (a ++ "\n").toList) supply = read a supply := by
    rw [hfront, readLines_append]
    rcases hmore with rfl | rfl
    · exact followedBy_nothing _
    · exact followedBy_nothing _
  rw [read_eq, hwhole, readLines_append, hread, Nat.add_comm 1]
  exact congrArg (followedBy (read a supply)) (funext fun later =>
    readLines_below _ 1 (Chars.lines b.toList) later)

/-- Two texts with a line feed between them give the steps and warnings of the one and then of the
other, with the lines and the clock counted on, and a fault in the first ends the reading. Where
there is no fault every line that says something is accounted for, in order, by one step with its
name or one warning with its number. -/
theorem read_lineByLine :
    (∀ (a b : String) (supply : Supply), read (a ++ "\n" ++ b) supply =
      followedBy (read a supply) fun later =>
        ((read b later).1.below (Chars.lines (a ++ "\n").toList).length, (read b later).2)) ∧
    ∀ (text : String) (supply : Supply) (steps : List Step),
      (read text supply).1.steps = .ok steps →
        ∃ yields, List.Forall₂ Yields (speaking 1 (Chars.lines text.toList)) yields ∧
          (read text supply).1.warnings = yields.filterMap Sum.getLeft? ∧
          steps = yields.filterMap Sum.getRight? :=
  ⟨read_append, fun text supply _ hsteps => exists_yields 1 (Chars.lines text.toList) supply hsteps⟩

theorem eq_ok_of_toOption {x : Except ε α} {a : α} (h : x.toOption = some a) : x = .ok a := by
  cases x with
  | ok b => exact congrArg Except.ok (Option.some.inj h)
  | error fault => cases h

/-- Of four lines one is a comment and one gives a warning; the others give the steps. -/
theorem read_lineByLine_fourLines :
    let text := "HOVER menu\r\n# open\n  GOTO u \nSCREENSHOT"
    let steps : List Step := [⟨"GOTO u", .navigate "u"⟩,
      ⟨"SCREENSHOT", .screenshot (some "screenshot-5.png")⟩]
    (read text (Supply.still 5)).1.steps = .ok steps ∧
      ∃ yields, List.Forall₂ Yields (speaking 1 (Chars.lines text.toList)) yields ∧
        (read text (Supply.still 5)).1.warnings = yields.filterMap Sum.getLeft? ∧
        steps = yields.filterMap Sum.getRight? := by
  intro text steps
  have hsteps : (read text (Supply.still 5)).1.steps = .ok steps :=
    eq_ok_of_toOption (by decide +kernel)
  exact ⟨hsteps, read_lineByLine.2 text (Supply.still 5) steps hsteps⟩

end Scenario

end Clickpath
