import Clickpath.Proofs.Moment.Written
import Clickpath.Record.Designer

/-! # Stored steps and tests

What comes back when a stored form is read, by either of the two readers of tests. A value survives
being stored unless it is a blank text: a record that gives its value as bytes is not asked whether
the bytes make a blank, but the stored form holds the value as a text and is.
-/

namespace Clickpath

open Record

variable {τ : Type} [Textual τ]

/-! ## Fields of stored forms -/

theorem mapError_ok (f : ε → δ) (a : α) : (Except.ok a : Except ε α).mapError f = .ok a := rfl

theorem mapError_error (f : ε → δ) (fault : ε) :
    (Except.error fault : Except ε α).mapError f = .error (f fault) := rfl

theorem exists_of_bind_eq_ok {x : Except ε α} {f : α → Except ε β} {b : β}
    (h : (x >>= f) = .ok b) : ∃ a, x = .ok a ∧ f a = .ok b := by
  cases x with
  | ok a => exact ⟨a, rfl, h⟩
  | error fault => cases h

@[simp]
theorem Record.Checked.under_ok (place : Place) (a : α) : Checked.under place (.ok a) = .ok a := rfl

/-- A field is found in the first entry that has its name, or else in the rest. -/
theorem Datum.lookup?_cons (first d : Datum) (key : String) (entries : List (Datum × Datum)) :
    lookup? ((first, d) :: entries) key =
      if first.string? = some key then some d else lookup? entries key := by
  unfold lookup?
  rw [List.find?_cons]
  cases first with
  | text name =>
      by_cases hname : name = key
      · simp [string?, hname]
      · simp only [string?, beq_eq_false_iff_ne.mpr hname, Option.some.injEq, if_neg hname]
  | _ => rfl

theorem Datum.lookup?_cons_text (name key : String) (d : Datum) (entries : List (Datum × Datum)) :
    lookup? ((.text name, d) :: entries) key =
      if name == key then some d else lookup? entries key := by
  rw [lookup?_cons]
  simp [string?]

theorem Datum.lookup?_nil (key : String) : lookup? [] key = none := rfl

/-- What was stored of a text is taken for this text. -/
@[simp]
theorem Datum.asText_toDatum (text : τ) : (Textual.toDatum text).asText = .ok text := by
  obtain ⟨s, hstored, rfl⟩ | ⟨t, hstored, rfl⟩ := Textual.reads text <;> rw [hstored] <;> rfl

/-! ## Selectors -/

theorem Selector.kindOfDatum_label (kind : Option SelectorKind) :
    kindOfDatum (some (.ofString? (kind.map (·.label)))) = .ok kind := by
  cases kind with
  | none => rfl
  | some kind => simp [kindOfDatum, Datum.ofString?, Datum.asString?, SelectorKind.ofLabel?_label]

theorem Selector.rawOfDatum_raw (s : Selector) :
    rawOfDatum (some (.text s.raw)) = .ok ⟨s.raw, s.raw_ne_empty⟩ := by
  simp [rawOfDatum, Datum.asString?, s.raw_ne_empty]

theorem Selector.ofDatum_toDatum (s : Selector) : ofDatum s.toDatum = .ok s := by
  simp [ofDatum, toDatum, Datum.ofFields, Datum.lookup?_cons_text, kindOfDatum_label,
    rawOfDatum_raw, Checked.both, Except.map]

theorem Selector.isBlank_toDatum (s : Selector) : s.toDatum.isBlank = false := rfl

/-! ## Steps -/

namespace Step

def value? (s : Step τ) : Option τ :=
  match s.action with
  | .navigate text | .typeText _ text | .assertText _ text => some text
  | .click _ => none
  | .screenshot file => file

/-- The step has no value, or one that is not blank. -/
def Filled (s : Step τ) : Prop := ∀ value ∈ s.value?, (Textual.toDatum value).isBlank = false

instance (s : Step τ) : Decidable s.Filled := by
  unfold Filled
  infer_instance

/-- What the stored form of a step is read as. A blank value is not seen: a screenshot loses it, and
any other step that holds a value cannot be without. -/
def reread (s : Step τ) : Except Fault (Step τ) :=
  if s.Filled then .ok s
  else match s.action with
    | .screenshot _ => .ok ⟨s.name, .screenshot none⟩
    | _ => .error (.malformedStep (.text s.kind.label) "value" false)

def entries (s : Step τ) : List (Datum × Datum) :=
  (.text "name", Textual.toDatum s.name) :: (.text "kind", .text s.kind.label) ::
    match s.action with
    | .navigate url => [(.text "value", Textual.toDatum url)]
    | .click target => [(.text "selector", target.toDatum)]
    | .typeText target text =>
      [(.text "selector", target.toDatum), (.text "value", Textual.toDatum text)]
    | .assertText target expected =>
      [(.text "selector", target.toDatum), (.text "value", Textual.toDatum expected)]
    | .screenshot file => [(.text "value", .ofString? file)]

theorem toDatum_eq (s : Step τ) : s.toDatum = .map s.entries := by
  obtain ⟨name, action⟩ := s
  cases action <;> rfl

theorem lookup?_kind (s : Step τ) : Datum.lookup? s.entries "kind" = some (.text s.kind.label) := by
  simp [entries, Datum.lookup?_cons_text]

theorem noFurtherFields_entries (s : Step τ) : noFurtherFields s.entries = .ok () := by
  obtain ⟨name, action⟩ := s
  cases action <;> simp [entries, noFurtherFields, furtherIssue?, stepFields]

theorem stringField_name (s : Step τ) : stringField s.entries "name" (some "") = .ok s.name := by
  simp [entries, stringField, Datum.lookup?_cons_text]

theorem repeatedKind_entries (s : Step τ) : repeatedKind s.kind s.entries = .ok () := by
  simp [repeatedKind, lookup?_kind]

theorem filled?_selector (s : Step τ) : filled? s.entries "selector" =
    match s.action with
    | .click target | .typeText target _ | .assertText target _ => some target.toDatum
    | _ => none := by
  obtain ⟨name, action⟩ := s
  cases action <;>
    simp [entries, filled?, Datum.lookup?_cons_text, Datum.lookup?_nil, Selector.isBlank_toDatum]

/-- A value is seen unless it is blank. -/
theorem filled?_value (s : Step τ) : filled? s.entries "value" =
    (s.value?.filter fun value => !(Textual.toDatum value).isBlank).map Textual.toDatum := by
  have htext : ∀ text : τ, Option.filter (!·.isBlank) (some (Textual.toDatum text)) =
      ((some text).filter fun value => !(Textual.toDatum value).isBlank).map Textual.toDatum := by
    intro text
    cases hblank : (Textual.toDatum text).isBlank <;> simp [Option.filter_some, hblank]
  obtain ⟨name, action⟩ := s
  cases action with
  | click target => simp [entries, filled?, value?, Datum.lookup?_cons_text, Datum.lookup?_nil]
  | navigate text => exact htext text
  | typeText target text => exact htext text
  | assertText target text => exact htext text
  | screenshot file =>
      cases file with
      | none => rfl
      | some text => exact htext text

theorem filter_of_filled {s : Step τ} (hs : s.Filled) :
    (s.value?.filter fun value => !(Textual.toDatum value).isBlank) = s.value? := by
  cases hvalue : s.value? with
  | none => rfl
  | some value => simp [Option.filter_some, hs value hvalue]

theorem filter_of_not_filled {s : Step τ} (hs : ¬s.Filled) :
    (s.value?.filter fun value => !(Textual.toDatum value).isBlank) = none := by
  cases hvalue : s.value? with
  | none => rfl
  | some value =>
      cases hblank : (Textual.toDatum value).isBlank with
      | true => simp [Option.filter_some, hblank]
      | false =>
          refine absurd ?_ hs
          intro other hother
          cases hvalue.symm.trans hother
          exact hblank

/-- The kind in messages is the one that the stored form gives. -/
theorem shownKind_entries (s : Step τ) :
    ((Datum.lookup? s.entries "kind").bind Datum.truthy?).getD (.text s.kind.label) =
      .text s.kind.label := by
  rw [lookup?_kind]
  cases s.kind <;> rfl

theorem filledField_toDatum (field : String) (text : τ) :
    filledField field (some (Textual.toDatum text)) = .ok text := by
  simp [filledField]

theorem selectorField_toDatum (field : String) (target : Selector) :
    selectorField field (some target.toDatum) = .ok target := by
  simp [selectorField, Selector.ofDatum_toDatum]

theorem stepFields?_entries (s : Step τ) : stepFields? s.kind s.entries =
    (actionOf s.kind (filled? s.entries "selector") (filled? s.entries "value")).map
      (⟨s.name, ·⟩) := by
  unfold stepFields?
  rw [stringField_name, repeatedKind_entries, noFurtherFields_entries]
  dsimp only
  cases (actionOf s.kind (filled? s.entries "selector") (filled? s.entries "value") :
    Checked (Action τ)) <;> rfl

/-- The action of a step is read back from what is stored of it. -/
theorem actionOf_entries {s : Step τ} (hs : s.Filled) :
    actionOf s.kind (filled? s.entries "selector") (filled? s.entries "value") = .ok s.action := by
  rw [filled?_selector, filled?_value, filter_of_filled hs]
  obtain ⟨name, action⟩ := s
  cases action with
  | navigate url => exact congrArg (Except.map _) (filledField_toDatum "value" url)
  | click target => exact congrArg (Except.map _) (selectorField_toDatum "selector" target)
  | typeText target text =>
      simp [kind, Action.kind, value?, actionOf, selectorField_toDatum, filledField_toDatum,
        Checked.both, Except.map]
  | assertText target expected =>
      simp [kind, Action.kind, value?, actionOf, selectorField_toDatum, filledField_toDatum,
        Checked.both, Except.map]
  | screenshot file =>
      cases file with
      | none => rfl
      | some file =>
          simp [kind, Action.kind, value?, actionOf, optionalField, filledField_toDatum, Except.map]

/-- A step is read back from its stored form if its value is not blank. -/
theorem stepOfKind_of_filled {s : Step τ} (hs : s.Filled) :
    stepOfKind s.kind s.entries = .ok (.ok s) := by
  unfold stepOfKind
  rw [shownKind_entries, stepFields?_entries, actionOf_entries hs, filled?_selector, filled?_value,
    filter_of_filled hs]
  obtain ⟨name, action⟩ := s
  cases action with
  | screenshot file => cases file <;> rfl
  | _ => rfl

/-- A step with a blank value is read as if the value were not there. -/
theorem stepOfKind_of_not_filled {s : Step τ} (hs : ¬s.Filled) :
    stepOfKind s.kind s.entries = s.reread.map .ok := by
  unfold stepOfKind reread
  rw [shownKind_entries, stepFields?_entries, filled?_selector, filled?_value,
    filter_of_not_filled hs, if_neg hs]
  obtain ⟨name, action⟩ := s
  cases action with
  | click target => exact absurd (fun _ h => nomatch h) hs
  | _ =>
      -- The rule on the shape of a step comes before the fields, so the fields do not matter here.
      rfl

theorem stepOfKind_entries (s : Step τ) : stepOfKind s.kind s.entries = s.reread.map .ok := by
  by_cases hs : s.Filled
  · unfold reread
    rw [stepOfKind_of_filled hs, if_pos hs]
    rfl
  · exact stepOfKind_of_not_filled hs

theorem ofDatum_toDatum (s : Step τ) : ofDatum s.toDatum = s.reread := by
  rw [toDatum_eq]
  unfold ofDatum
  simp only [lookup?_kind, Datum.string?, Option.bind_some, StepKind.ofLabel?_label,
    stepOfKind_entries]
  cases s.reread <;> rfl

/-- A step is read back as it was exactly if its value is not blank. -/
theorem reread_eq_self_iff (s : Step τ) : s.reread = .ok s ↔ s.Filled := by
  unfold reread
  by_cases hs : s.Filled
  · simp [hs]
  · rw [if_neg hs, iff_false_right hs]
    obtain ⟨name, action⟩ := s
    cases action with
    | screenshot file =>
        intro hself
        cases hself
        exact hs fun _ h => nomatch h
    | _ => exact nofun

/-- A step that is not read again lacks its value; no rule for its fields is broken. -/
theorem reread_error {s : Step τ} {fault : Fault} (h : s.reread = .error fault) :
    fault = .malformedStep (.text s.kind.label) "value" false := by
  unfold reread at h
  split at h
  · cases h
  · split at h
    · cases h
    · cases h
      rfl

end Step

/-! ## Tests -/

namespace Test

def entries (t : Test τ) : List (Datum × Datum) :=
  [(.text "id", Textual.toDatum t.id), (.text "name", Textual.toDatum t.name),
    (.text "steps", .list (t.steps.map (·.toDatum))),
    (.text "automation_tool", Textual.toDatum t.tool),
    (.text "target_platform", Textual.toDatum t.platform),
    (.text "created_at", .text t.created.stored)]

theorem toDatum_eq (t : Test τ) : t.toDatum = .map t.entries := rfl

def reread (t : Test τ) : Except Fault (Test τ) :=
  (t.steps.mapM Step.reread).map fun steps => { t with steps := steps }

theorem idField_entries (t : Test τ) : idField t.entries = pure (.ok t.id) := by
  simp [idField, entries, Datum.lookup?_cons_text, stringField]

theorem createdField_entries (t : Test τ) (now : Moment) :
    createdField t.entries now = .ok t.created := by
  simp [createdField, nameInUse, createdNames, entries, Datum.lookup?_cons_text, momentOfDatum,
    momentOfText, Moment.stored, Moment.read_write]

theorem stringField_toolName (t : Test τ) :
    stringField t.entries (nameInUse t.entries toolNames) (some defaultTool) = .ok t.tool := by
  simp [stringField, nameInUse, toolNames, entries, Datum.lookup?_cons_text]

theorem stringField_platformName (t : Test τ) :
    stringField t.entries (nameInUse t.entries platformNames) (some defaultPlatform) =
      .ok t.platform := by
  simp [stringField, nameInUse, platformNames, entries, Datum.lookup?_cons_text]

theorem stringField_name (t : Test τ) : stringField t.entries "name" none = .ok t.name := by
  simp [stringField, entries, Datum.lookup?_cons_text]

/-- Everything but the steps is read as it was. -/
theorem ofEntriesWith_entries (t : Test τ) (steps : Except Fault (List (Step τ))) :
    ofEntriesWith (steps.map .ok) t.entries =
      given (steps.map fun steps => { t with steps := steps }) := by
  unfold ofEntriesWith
  rw [idField_entries, stringField_name, stringField_toolName, stringField_platformName]
  simp only [createdField_entries]
  cases steps with
  | error fault => rfl
  | ok steps => rfl

/-- Stored steps are checked one after another, as each of them is read. -/
theorem checkSteps_toDatum (steps : List (Step τ)) (position : Nat) :
    checkSteps position (steps.map (·.toDatum)) = (steps.mapM Step.reread).map .ok := by
  induction steps generalizing position with
  | nil => rfl
  | cons s steps ih =>
      rw [List.map_cons, checkSteps, ih, s.ofDatum_toDatum, List.mapM_cons]
      cases hread : s.reread with
      | error fault =>
          rw [Step.reread_error hread]
          rfl
      | ok step => cases steps.mapM Step.reread <;> rfl

/-- If steps cannot be read back, one of them cannot. -/
theorem mapM_reread_error {steps : List (Step τ)} {fault : Fault}
    (h : steps.mapM Step.reread = .error fault) : ∃ s ∈ steps, s.reread = .error fault := by
  induction steps with
  | nil => cases h
  | cons s steps ih =>
      rw [List.mapM_cons] at h
      cases hread : s.reread with
      | error other =>
          rw [hread] at h
          cases h
          exact ⟨s, List.mem_cons_self, hread⟩
      | ok step =>
          cases hrest : steps.mapM Step.reread with
          | error other =>
              rw [hread, hrest] at h
              cases h
              obtain ⟨other, hmem, hother⟩ := ih hrest
              exact ⟨other, List.mem_cons_of_mem _ hmem, hother⟩
          | ok others =>
              rw [hread, hrest] at h
              cases h

theorem stepsField_entries (t : Test τ) :
    stepsField t.entries = (t.steps.mapM Step.reread).map .ok := by
  have hlookup : Datum.lookup? t.entries "steps" = some (.list (t.steps.map (·.toDatum))) := by
    simp [entries, Datum.lookup?_cons_text]
  unfold stepsField
  rw [hlookup]
  simp only [sequence?, checkSteps_toDatum]
  cases t.steps.mapM Step.reread <;> rfl

theorem ofDatum_toDatum (t : Test τ) : ofDatum t.toDatum = given t.reread := by
  rw [toDatum_eq, ofDatum, ofEntries, stepsField_entries, ofEntriesWith_entries]
  rfl

/-- Steps are read back as they were exactly if none has a blank value. -/
theorem mapM_reread_eq_self_iff (steps : List (Step τ)) :
    steps.mapM Step.reread = .ok steps ↔ ∀ s ∈ steps, s.Filled := by
  induction steps with
  | nil => exact iff_of_true rfl (List.forall_mem_nil _)
  | cons s steps ih =>
      rw [List.mapM_cons, List.forall_mem_cons, ← ih, ← s.reread_eq_self_iff]
      cases s.reread with
      | error fault => exact ⟨nofun, fun h => nomatch h.1⟩
      | ok step =>
          cases steps.mapM Step.reread with
          | error fault => exact ⟨nofun, fun h => nomatch h.2⟩
          | ok others => simp [Bind.bind, Except.bind, Pure.pure, Except.pure]

/-- A test is read back as it was exactly if no step has a blank value. -/
theorem reread_eq_self_iff (t : Test τ) : t.reread = .ok t ↔ ∀ s ∈ t.steps, s.Filled := by
  rw [← mapM_reread_eq_self_iff]
  unfold reread
  cases t.steps.mapM Step.reread with
  | error fault => simp [Except.map]
  | ok steps =>
      obtain ⟨id, name, own, tool, platform, created⟩ := t
      simp [Except.map]

end Test

/-! ## Designer's reader -/

namespace Designer

theorem given_eq_iff {result other : Except Fault α} (supply : Supply) :
    given result supply = (other, supply) ↔ result = other :=
  ⟨congrArg Prod.fst, congrArg (·, supply)⟩

theorem readStep_toDatum (s : Step τ) : readStep s.toDatum = given s.reread := by
  have hkind : holds s.toDatum "kind" = .ok true := by
    rw [s.toDatum_eq]
    simp [holds, s.lookup?_kind]
  unfold readStep
  rw [hkind, s.ofDatum_toDatum]
  rfl

/-- In either shape a stored step is read alike. -/
theorem mapM_readStep_toDatum (steps : List (Step τ)) :
    (steps.map (·.toDatum)).mapM readStep = given (steps.mapM Step.reread) := by
  induction steps with
  | nil => rfl
  | cons s steps ih =>
      rw [List.map_cons, List.mapM_cons, readStep_toDatum, ih, List.mapM_cons]
      funext supply
      cases s.reread with
      | error fault => rfl
      | ok step => cases steps.mapM Step.reread <;> rfl

theorem readSteps_entries (t : Test τ) :
    readSteps t.entries = given (t.steps.mapM Step.reread) := by
  have hlookup : Datum.lookup? t.entries "steps" = some (.list (t.steps.map (·.toDatum))) := by
    simp [Test.entries, Datum.lookup?_cons_text]
  unfold readSteps part?
  rw [hlookup, ← mapM_readStep_toDatum]
  cases t.steps <;> rfl

/-- In either shape a stored test is read alike. -/
theorem readTest_entries (t : Test τ) : readTest t.entries = given t.reread := by
  unfold readTest
  rw [readSteps_entries]
  unfold Test.reread
  cases t.steps.mapM Step.reread with
  | error fault => rfl
  | ok steps => exact Test.ofEntriesWith_entries t (.ok steps)

/-- A test comes back from its stored form with all that it held, by either reader, exactly if no
value in it is blank; and so does each of its steps. -/
theorem stored_returns_iff (t : Test τ) (supply : Supply) :
    ∃ entries, t.toDatum = .map entries ∧
      (readTest entries supply = (.ok t, supply) ↔ ∀ s ∈ t.steps, s.Filled) ∧
      (Test.ofDatum t.toDatum supply = (.ok t, supply) ↔ ∀ s ∈ t.steps, s.Filled) ∧
      ∀ s ∈ t.steps, (readStep s.toDatum supply = (.ok s, supply) ↔ s.Filled) := by
  refine ⟨t.entries, t.toDatum_eq, ?_, ?_, ?_⟩
  · rw [readTest_entries, ← t.reread_eq_self_iff]
    exact given_eq_iff supply
  · rw [t.ofDatum_toDatum, ← t.reread_eq_self_iff]
    exact given_eq_iff supply
  · intro s _
    rw [readStep_toDatum, ← s.reread_eq_self_iff]
    exact given_eq_iff supply

/-- Two blanks given as bytes make a step that is stored in a form from which no step is read. -/
theorem stored_returns_iff_blankBytes :
    ∃ s : Step, Step.ofDatum (.ofFields [("kind", .text "navigate"), ("name", .text "open"),
        ("value", .binary [0x20, 0x20])]) = .ok s ∧
      ∀ supply, readStep s.toDatum supply ≠ (.ok s, supply) := by
  refine ⟨⟨"open", .navigate "  "⟩, rfl, ?_⟩
  intro supply hread
  obtain ⟨_, _, _, _, hsteps⟩ := stored_returns_iff
    ⟨"a", "n", [⟨"open", .navigate "  "⟩], Test.defaultTool, Test.defaultPlatform, supply.now⟩
    supply
  have hfilled := (hsteps _ (List.mem_singleton_self _)).mp hread
  revert hfilled
  decide

end Designer

end Clickpath
