import Clickpath.Proofs.Record.Drawn
import Clickpath.Proofs.Record.Shapes

/-! # What is made of records

A step that is made of a record has the name and the kind that the record gives. One that is not is
refused for a rule of records that is broken; only what is no record at all fails otherwise. A test
has the fields of its record, and its steps depend on the clock alone.
-/

namespace Clickpath

variable {τ : Type} [Textual τ]

namespace Record

/-! ## Refusals -/

def Fault.IsRefusal : Fault → Prop
  | .notAContainer | .notARecord | .unshowable => False
  | .malformedStep .. | .unknownStepKind _ | .invalid _ => True

/-- Nothing but a refusal keeps this from its result. -/
def Refuses (result : Except Fault α) : Prop := ∀ fault, result = .error fault → fault.IsRefusal

namespace Refuses

theorem ok (a : α) : Refuses (.ok a) := nofun

theorem error {fault : Fault} (h : fault.IsRefusal) : Refuses (.error fault : Except Fault α) := by
  rintro _ ⟨⟩
  exact h

theorem orFault (part : Checked α) : Refuses (Checked.orFault part) := by
  cases part with
  | ok a => exact .ok a
  | error issues => exact .error trivial

theorem bind {x : Except Fault α} {f : α → Except Fault β} (hx : Refuses x)
    (hf : ∀ a, Refuses (f a)) : Refuses (x >>= f) := by
  cases x with
  | ok a => exact hf a
  | error fault => exact .error (hx fault rfl)

end Refuses

theorem refuses_checkPresence (kind : Datum) (field : String) (presence : Presence)
    (value : Option Datum) : Refuses (checkPresence kind field presence value) := by
  cases presence <;> cases value <;> first | exact .ok () | exact .error trivial

theorem refuses_stepOfKind (kind : StepKind) (entries : List (Datum × Datum)) :
    Refuses (stepOfKind (τ := τ) kind entries) :=
  (refuses_checkPresence _ _ _ _).bind fun _ => (refuses_checkPresence _ _ _ _).bind fun _ => .ok _

end Record

open Record

/-- Nothing but a rule keeps a datum from being a step. -/
theorem Step.refuses_ofDatum (d : Datum) : Refuses (ofDatum (τ := τ) d) := by
  cases d with
  | map entries =>
      simp only [ofDatum]
      split
      next => exact .error trivial
      next => exact .error trivial
      next =>
        split
        next => exact .error trivial
        next => exact (refuses_stepOfKind _ entries).bind fun _ => .orFault _
  | _ => exact .error trivial

theorem Step.refuses_ofParts (kind : StepKind) (name : Datum) (selector : Option Selector)
    (value : Option Datum) : Refuses (ofParts (τ := τ) kind name selector value) :=
  refuses_ofDatum _

/-- No selector can be made of the target for another reason than a rule: its strategy is neither a
text nor bytes, or is none that is known, and the target cannot be shown. -/
def Designer.Untargeted (target strategy : Datum) : Prop :=
  match strategy with
  | .text word => SelectorKind.ofLabelAnyCase? word = none ∧ target.isShowable = false
  | .torn _ | .binary _ => target.isShowable = false
  | _ => True

/-- A selector is made or refused, unless there is a target of which none can be made. -/
theorem Designer.selectorOf_cases (raw strategy : Option Datum) :
    Refuses (selectorOf raw strategy) ∨
      (∃ fault, selectorOf raw strategy = .error fault ∧ ¬fault.IsRefusal) ∧
        ∃ target word, raw.bind Datum.truthy? = some target ∧
          strategy.bind Datum.truthy? = some word ∧ Untargeted target word := by
  unfold selectorOf
  split
  next => exact .inl (.ok none)
  next => exact .inl (.orFault _)
  next target word hraw hword =>
    have hbad (h : Untargeted target word) (fault : Fault) (hfault : ¬fault.IsRefusal) :
        (∃ other, (.error fault : Except Fault (Option Selector)) = .error other ∧
          ¬other.IsRefusal) ∧
        ∃ other strategy', raw.bind Datum.truthy? = some other ∧
          strategy.bind Datum.truthy? = some strategy' ∧ Untargeted other strategy' :=
      ⟨⟨fault, rfl, hfault⟩, target, word, hraw, hword, h⟩
    cases word with
    | text s =>
        dsimp only [Datum.string?, Option.bind_some]
        cases hkind : SelectorKind.ofLabelAnyCase? s with
        | some kind => exact .inl (.orFault _)
        | none =>
            cases hshown : target.isShowable with
            | true => exact .inl (.orFault _)
            | false => exact .inr (hbad ⟨hkind, hshown⟩ .unshowable id)
    | torn t =>
        cases hshown : target.isShowable with
        | true => exact .inl (.orFault _)
        | false => exact .inr (hbad hshown .unshowable id)
    | binary bytes =>
        cases hshown : target.isShowable with
        | true => exact .inl (.orFault _)
        | false => exact .inr (hbad hshown .unshowable id)
    | _ => exact .inr (hbad trivial .notARecord id)

/-- With texts for a target and a strategy, only a rule can keep a selector from being made. -/
theorem Designer.refuses_selectorOf {raw : Option Datum} (hraw : ∀ d ∈ raw, ∃ text, d = .text text)
    {strategy : Option Datum} (hstrategy : ∀ d ∈ strategy, ∃ word, d = .text word) :
    Refuses (selectorOf raw strategy) := by
  rcases selectorOf_cases raw strategy with h | ⟨-, target, word, htarget, hword, hbad⟩
  · exact h
  · have hfound {d : Option Datum} {found : Datum} (h : d.bind Datum.truthy? = some found) :
        found ∈ d := by
      obtain ⟨given, hgiven, htruthy⟩ := Option.bind_eq_some_iff.mp h
      unfold Datum.truthy? at htruthy
      split at htruthy <;> cases htruthy
      exact hgiven
    obtain ⟨text, rfl⟩ := hraw target (hfound htarget)
    obtain ⟨label, rfl⟩ := hstrategy word (hfound hword)
    cases hbad.2

/-- A designer's parts make a step of their kind and name, unless the target is no selector. -/
theorem Designer.build_cases (kind : StepKind) (name : Datum) (target strategy value : Option Datum)
    (supply : Supply) :
    (∃ selector part after, build (τ := τ) kind name target strategy value supply =
      (Step.ofParts kind name selector part, after)) ∨
    ∃ fault, selectorOf target strategy = .error fault ∧
      build (τ := τ) kind name target strategy value supply = (.error fault, supply) := by
  have hselector : (∃ selector part after,
      (given (selectorOf target strategy) >>= fun selector =>
        given (Step.ofParts (τ := τ) kind name selector value)) supply =
          (Step.ofParts kind name selector part, after)) ∨
      ∃ fault, selectorOf target strategy = .error fault ∧
        (given (selectorOf target strategy) >>= fun selector =>
          given (Step.ofParts (τ := τ) kind name selector value)) supply =
        (.error fault, supply) := by
    cases selectorOf target strategy with
    | ok selector => exact .inl ⟨selector, value, supply, rfl⟩
    | error fault => exact .inr ⟨fault, rfl, rfl⟩
  cases kind with
  | navigate => exact .inl ⟨none, value.orElse fun _ => target, supply, rfl⟩
  | screenshot =>
      cases hfile : value.orElse fun _ => target with
      | some file => exact .inl ⟨none, some file, supply, by rw [build, hfile]; rfl⟩
      | none =>
          exact .inl ⟨none, some (.text (generatedName supply.readClock.1)), supply.readClock.2,
            by rw [build, hfile]; rfl⟩
  | click | typeText | assertText => exact hselector

/-- A step whose target and strategy are texts is made or refused. -/
theorem Designer.refuses_build (kind : StepKind) (name : Datum) {target strategy : Option Datum}
    (htarget : ∀ d ∈ target, ∃ text, d = .text text)
    (hstrategy : ∀ d ∈ strategy, ∃ word, d = .text word) (value : Option Datum) (supply : Supply) :
    Refuses (build (τ := τ) kind name target strategy value supply).1 := by
  rcases build_cases (τ := τ) kind name target strategy value supply with
    ⟨selector, part, after, hmade⟩ | ⟨fault, hfault, hmade⟩ <;> rw [hmade]
  · exact Step.refuses_ofParts kind name selector part
  · exact .error (refuses_selectorOf htarget hstrategy fault hfault)

/-! ## Names and kinds -/

theorem Record.Checked.orFault_eq_ok_iff {part : Checked α} {a : α} :
    Checked.orFault part = .ok a ↔ part = .ok a := by
  cases part with
  | ok other => exact ⟨fun h => congrArg Except.ok (Except.ok.inj h), fun h => by rw [h]; rfl⟩
  | error issues => exact ⟨nofun, nofun⟩

theorem StepKind.ofLabel?_eq_some_iff {label : String} {kind : StepKind} :
    ofLabel? label = some kind ↔ label = kind.label := by
  constructor
  · intro h
    have hlabel : (kind.label == label) = true :=
      List.find?_some (p := fun other : StepKind => other.label == label) h
    exact (beq_iff_eq.mp hlabel).symm
  · rintro rfl
    exact ofLabel?_label kind

theorem Record.kind_of_actionOf {kind : StepKind} {selector value : Option Datum}
    {action : Action τ} (h : actionOf kind selector value = .ok action) : action.kind = kind := by
  cases kind <;> rw [actionOf, Checked.map_eq_ok_iff] at h <;> obtain ⟨part, -, rfl⟩ := h <;> rfl

theorem Record.of_stepFields? {kind : StepKind} {entries : List (Datum × Datum)} {s : Step τ}
    (h : stepFields? kind entries = .ok s) :
    stringField entries "name" (some "") = .ok s.name ∧ s.kind = kind := by
  obtain ⟨⟨⟨⟨name, again⟩, action⟩, further⟩, hparts, rfl⟩ := Checked.map_eq_ok_iff.mp h
  obtain ⟨hparts, -⟩ := Checked.both_eq_ok_iff.mp hparts
  obtain ⟨hhead, haction⟩ := Checked.both_eq_ok_iff.mp hparts
  exact ⟨(Checked.both_eq_ok_iff.mp hhead).1, kind_of_actionOf haction⟩

theorem Record.of_stepOfKind {kind : StepKind} {entries : List (Datum × Datum)}
    {part : Checked (Step τ)} (h : stepOfKind kind entries = .ok part) :
    part = stepFields? kind entries := by
  obtain ⟨-, -, h⟩ := exists_of_bind_eq_ok h
  obtain ⟨-, -, h⟩ := exists_of_bind_eq_ok h
  exact (Except.ok.inj h).symm

/-- A step that is read has the name and the kind that its record gives. -/
theorem Step.of_ofDatum {entries : List (Datum × Datum)} {s : Step τ}
    (h : ofDatum (.map entries) = .ok s) :
    stringField entries "name" (some "") = .ok s.name ∧
      Datum.lookup? entries "kind" = some (.text s.kind.label) := by
  simp only [ofDatum] at h
  split at h
  next => cases h
  next => cases h
  next tag _ htag =>
    split at h
    next => cases h
    next kind hkind =>
      obtain ⟨label, hlabel, hknown⟩ := Option.bind_eq_some_iff.mp hkind
      obtain ⟨part, hpart, h⟩ := exists_of_bind_eq_ok h
      rw [of_stepOfKind hpart] at h
      obtain ⟨hname, rfl⟩ :=
        of_stepFields? (Checked.under_eq_ok_iff.mp (Checked.orFault_eq_ok_iff.mp h))
      rw [htag, Datum.string?_eq_some_iff.mp hlabel, StepKind.ofLabel?_eq_some_iff.mp hknown]
      exact ⟨hname, rfl⟩

theorem Step.of_ofParts {kind : StepKind} {name : String} {selector : Option Selector}
    {value : Option Datum} {s : Step τ} (h : ofParts kind (.text name) selector value = .ok s) :
    s.name = Textual.ofString name ∧ s.kind = kind := by
  obtain ⟨hname, hkind⟩ := of_ofDatum h
  simp only [stringField, List.cons_append, List.map_cons, Datum.lookup?_cons_text] at hname hkind
  exact ⟨(Except.ok.inj hname).symm,
    (StepKind.label_injective (Datum.text.inj (Option.some.inj hkind))).symm⟩

/-- What a designer's parts make has their name and kind. -/
theorem Designer.of_build {kind : StepKind} {name : String} {target strategy value : Option Datum}
    {supply after : Supply} {s : Step τ}
    (h : build kind (.text name) target strategy value supply = (.ok s, after)) :
    s.name = Textual.ofString name ∧ s.kind = kind := by
  rcases build_cases (τ := τ) kind (.text name) target strategy value supply with
    ⟨selector, part, later, hmade⟩ | ⟨fault, -, hmade⟩ <;> rw [hmade] at h
  · exact Step.of_ofParts (congrArg Prod.fst h)
  · cases h

/-! ## Tests -/

omit [Textual τ] in
/-- The parts of a test are those that it was assembled from. -/
theorem Record.of_assembleTest {id name tool platform : Checked τ}
    {steps : Checked (List (Step τ))} {created : Checked Moment} {test : Test τ}
    (h : assembleTest id name steps tool platform created = .ok test) :
    steps = .ok test.steps ∧ tool = .ok test.tool ∧ platform = .ok test.platform := by
  obtain ⟨parts, hparts, rfl⟩ := Checked.map_eq_ok_iff.mp h
  obtain ⟨-, hparts⟩ := Checked.both_eq_ok_iff.mp hparts
  obtain ⟨-, hparts⟩ := Checked.both_eq_ok_iff.mp hparts
  obtain ⟨hsteps, hparts⟩ := Checked.both_eq_ok_iff.mp hparts
  obtain ⟨htool, hparts⟩ := Checked.both_eq_ok_iff.mp hparts
  exact ⟨hsteps, htool, (Checked.both_eq_ok_iff.mp hparts).1⟩

namespace Designer

/-- A test that is read has the steps, the tool and the platform of its record. -/
theorem of_readTest {entries : List (Datum × Datum)} {s : Supply} {test : Test τ}
    (h : (readTest entries s).1 = .ok test) :
    (readSteps entries s).1 = .ok test.steps ∧
      stringField entries (nameInUse entries toolNames) (some Test.defaultTool) =
        .ok test.tool ∧
      stringField entries (nameInUse entries platformNames) (some Test.defaultPlatform) =
        .ok test.platform := by
  rw [readTest, bind_run] at h
  cases hsteps : (readSteps (τ := τ) entries s).1 with
  | error fault =>
      rw [hsteps] at h
      cases h
  | ok steps =>
      rw [hsteps] at h
      dsimp only at h
      rw [(ofEntriesWith_run entries steps _).1] at h
      obtain ⟨hmade, htool, hplatform⟩ := of_assembleTest (Checked.orFault_eq_ok_iff.mp h)
      exact ⟨congrArg Except.ok (Except.ok.inj hmade), htool, hplatform⟩

/-- With the same readings of the clock, tests that are read have the same steps. -/
theorem steps_eq_of_sameClock {entries : List (Datum × Datum)} {s t : Supply} {a b : Test τ}
    (ha : (readTest entries s).1 = .ok a) (hb : (readTest entries t).1 = .ok b)
    (h : s.SameClock t) : a.steps = b.steps := by
  have hsteps := (readSteps_of_stepwise (τ := τ) stepwise_asksClock entries s t h).1
  rw [(of_readTest ha).1, (of_readTest hb).1] at hsteps
  exact Except.ok.inj hsteps

end Designer

end Clickpath
