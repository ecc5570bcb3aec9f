import Mathlib.Logic.Basic
import Clickpath.Proofs.Record.Stored

/-! # Which objects are steps

An object that names a kind of step may lack what the kind needs or hold what it refuses. Otherwise
a field of it may be of the wrong sort, and if none is, it is a step with the fields of the object.
This is said here of the fields themselves, and every way of making a step of an object follows it.
-/

namespace Clickpath

open Record

/-! ## JSON values -/

/-- The values of JSON: no bytes, dates or sets, and objects have each name once. A string may be
torn. -/
inductive Datum.IsJson : Datum → Prop where
  | null : IsJson .null
  | bool (b : Bool) : IsJson (.bool b)
  | int (n : Int) : IsJson (.int n)
  | float (x : Binary64) : IsJson (.float x)
  | text (s : String) : IsJson (.text s)
  | torn (t : Torn) : IsJson (.torn t)
  | list {items : List Datum} (hitems : ∀ item ∈ items, IsJson item) : IsJson (.list items)
  | map {entries : List (Datum × Datum)}
      (hnames : ∀ entry ∈ entries, ∃ name, entry.1 = .ofLoose name)
      (hdistinct : (entries.map (·.1.displayed)).Nodup)
      (hvalues : ∀ entry ∈ entries, IsJson entry.2) :
      IsJson (.map entries)

@[simp]
theorem Datum.exists_text_eq_ofLoose (s : String) : ∃ l, text s = ofLoose l :=
  ⟨.ofString s, (ofLoose_ofString s).symm⟩

theorem Datum.IsJson.of_lookup? {entries : List (Datum × Datum)} (h : IsJson (.map entries))
    {field : String} {d : Datum} (hd : d ∈ lookup? entries field) : d.IsJson := by
  cases h with
  | map hnames hdistinct hvalues =>
      obtain ⟨entry, hentry, rfl⟩ := Option.map_eq_some_iff.mp hd
      exact hvalues entry (List.mem_of_find?_eq_some hentry)

/-- In JSON, strings are texts. -/
theorem Datum.IsJson.asString? {d : Datum} (h : d.IsJson) : d.asString? = d.string? := by
  cases h <;> rfl

/-- In JSON, strings are what is taken for a text, and each is taken for itself. -/
theorem Datum.IsJson.asText_eq_ok_iff {d : Datum} (h : d.IsJson) {l : Loose} :
    d.asText = .ok l ↔ d = .ofLoose l := by
  constructor
  · intro htext
    cases h with
    | text s =>
        cases htext
        exact (ofLoose_ofString s).symm
    | torn t =>
        cases htext
        exact (ofLoose_torn t).symm
    | _ => cases htext
  · rintro rfl
    exact asText_toDatum l

theorem Datum.string?_eq_some_iff {d : Datum} {s : String} : d.string? = some s ↔ d = .text s := by
  cases d <;> simp [string?]

/-! ## Fields -/

/-- A field is absent, null or a blank text. -/
def Record.Absent (entries : List (Datum × Datum)) (field : String) : Prop :=
  ∀ d ∈ Datum.lookup? entries field, d = .null ∨ ∃ s, d = .text s ∧ Text.isBlank s = true

theorem Record.filled?_eq_none_iff {entries : List (Datum × Datum)} {field : String} :
    filled? entries field = none ↔ Absent entries field := by
  have hblank : ∀ d : Datum,
      d.isBlank = true ↔ d = .null ∨ ∃ s, d = .text s ∧ Text.isBlank s = true := by
    intro d
    cases d <;> simp [Datum.isBlank]
  simp [filled?, Absent, hblank, Option.filter_eq_none_iff]

theorem Record.filled?_of_not_absent {entries : List (Datum × Datum)} {field : String}
    (h : ¬Absent entries field) :
    ∃ d, Datum.lookup? entries field = some d ∧ filled? entries field = some d := by
  rw [← filled?_eq_none_iff] at h
  obtain ⟨d, hd⟩ := Option.ne_none_iff_exists'.mp h
  exact ⟨d, (Option.filter_eq_some_iff.mp hd).1, hd⟩

/-! ## Checks -/

namespace Record.Checked

theorem map_eq_ok_iff {part : Checked α} {f : α → β} {b : β} :
    Except.map f part = .ok b ↔ ∃ a, part = .ok a ∧ f a = b := by
  cases part <;> simp [Except.map]

theorem under_eq_ok_iff {part : Checked α} {place : Place} {a : α} :
    Checked.under place part = .ok a ↔ part = .ok a := by
  cases part <;> simp [under, mapError_ok, mapError_error]

theorem both_eq_ok_iff {first : Checked α} {second : Checked β} {a : α} {b : β} :
    Checked.both first second = .ok (a, b) ↔ first = .ok a ∧ second = .ok b := by
  cases first <;> cases second <;> simp [both]

end Record.Checked

/-! ## Selectors -/

/-- A datum holds the fields of a selector. What else it holds does not count. -/
def Selector.StoredIn (s : Selector) (d : Datum) : Prop :=
  ∃ entries, d = .map entries ∧
    (match s.kind with
      | none => ∀ d ∈ Datum.lookup? entries "kind", d = .null
      | some kind => Datum.lookup? entries "kind" = some (.text kind.label)) ∧
    Datum.lookup? entries "raw" = some (.text s.raw)

theorem SelectorKind.ofLabel?_eq_some_iff {label : String} {kind : SelectorKind} :
    ofLabel? label = some kind ↔ label = kind.label := by
  constructor
  · intro h
    have hlabel : (kind.label == label) = true :=
      List.find?_some (p := fun other : SelectorKind => other.label == label) h
    exact (beq_iff_eq.mp hlabel).symm
  · rintro rfl
    exact ofLabel?_label kind

/-- The strategy of a stored selector is read from its name, and is open where none is given. -/
theorem Selector.kindOfDatum_eq_ok_iff {d : Option Datum} (hd : ∀ other ∈ d, other.IsJson)
    {kind : Option SelectorKind} :
    kindOfDatum d = .ok kind ↔
      match kind with
      | none => ∀ other ∈ d, other = .null
      | some kind => d = some (.text kind.label) := by
  cases d with
  | none => cases kind <;> simp [kindOfDatum]
  | some d =>
      cases hd d rfl with
      | null => cases kind <;> simp [kindOfDatum]
      | text label =>
          have hlabel : ∀ kind, SelectorKind.ofLabel? label = some kind ↔ label = kind.label :=
            fun _ => SelectorKind.ofLabel?_eq_some_iff
          simp only [kindOfDatum, Datum.asString?, Option.bind_some]
          cases hfound : SelectorKind.ofLabel? label with
          | none => cases kind <;> simp [Checked.broken, ← hlabel, hfound]
          | some found => cases kind <;> simp [← hlabel, hfound]
      | _ => cases kind <;> simp [kindOfDatum, Datum.asString?, Checked.broken]

/-- A value that is stored is a text that is neither empty nor torn. -/
theorem Selector.rawOfDatum_eq_ok_iff {d : Option Datum} (hd : ∀ other ∈ d, other.IsJson)
    {raw : { raw : String // raw ≠ "" }} :
    rawOfDatum d = .ok raw ↔ d = some (.text raw.val) := by
  cases d with
  | none => simp [rawOfDatum, Checked.broken]
  | some d =>
      rw [rawOfDatum, (hd d rfl).asString?]
      cases hstring : d.string? with
      | none =>
          simp only [Checked.broken, reduceCtorEq, Option.some.injEq, false_iff]
          rintro rfl
          cases hstring
      | some s =>
          obtain rfl := Datum.string?_eq_some_iff.mp hstring
          by_cases hempty : s = ""
          · simpa [hempty, Checked.broken] using raw.property.symm
          · simp [hempty, Subtype.ext_iff]

/-- A selector is read from the data that store it and from no others. -/
theorem Selector.ofDatum_eq_ok_iff {d : Datum} (hd : d.IsJson) {s : Selector} :
    ofDatum d = .ok s ↔ s.StoredIn d := by
  cases d with
  | map entries =>
      simp only [ofDatum, Checked.map_eq_ok_iff, Prod.exists, Checked.both_eq_ok_iff,
        Checked.under_eq_ok_iff, kindOfDatum_eq_ok_iff fun _ h => hd.of_lookup? h,
        rawOfDatum_eq_ok_iff fun _ h => hd.of_lookup? h, StoredIn, Datum.map.injEq,
        exists_eq_left']
      constructor
      · rintro ⟨kind, raw, ⟨hkind, hraw⟩, rfl⟩
        exact ⟨hkind, hraw⟩
      · rintro ⟨hkind, hraw⟩
        exact ⟨s.kind, ⟨s.raw, s.raw_ne_empty⟩, ⟨hkind, hraw⟩, rfl⟩
  | _ => simp [ofDatum, Checked.broken, StoredIn]

/-! ## Fields of steps -/

/-- A step of this kind is done to an element. -/
def StepKind.targets : StepKind → Bool
  | .click | .typeText | .assertText => true
  | .navigate | .screenshot => false

def StepKind.needsValue : StepKind → Bool
  | .navigate | .typeText | .assertText => true
  | .click | .screenshot => false

def Step.target? (s : Step Loose) : Option Selector :=
  match s.action with
  | .click target | .typeText target _ | .assertText target _ => some target
  | .navigate _ | .screenshot _ => none

section

variable {field : String} {value : Option Datum}

theorem Record.filledField_eq_ok_iff (hvalue : ∀ d ∈ value, d.IsJson) {l : Loose} :
    filledField field value = .ok l ↔ value = some (.ofLoose l) := by
  cases value with
  | none => simp [filledField, Checked.broken, Checked.under, mapError_error]
  | some d =>
      rw [filledField, Checked.under_eq_ok_iff, (hvalue d rfl).asText_eq_ok_iff, Option.some.injEq]

theorem Record.optionalField_eq_ok_iff (hvalue : ∀ d ∈ value, d.IsJson) {l : Option Loose} :
    optionalField field value = .ok l ↔ value = l.map .ofLoose := by
  cases value with
  | none => cases l <;> simp [optionalField]
  | some d =>
      rw [optionalField, Checked.map_eq_ok_iff]
      simp only [filledField_eq_ok_iff hvalue]
      cases l <;> simp

theorem Record.selectorField_eq_ok_iff (hvalue : ∀ d ∈ value, d.IsJson) {s : Selector} :
    selectorField field value = .ok s ↔ ∃ d ∈ value, s.StoredIn d := by
  unfold selectorField
  rw [Checked.under_eq_ok_iff]
  cases value with
  | none => simp [Checked.broken]
  | some d => simp [Selector.ofDatum_eq_ok_iff (hvalue d rfl)]

/-- An action is read when the target that it has is stored, and the value that its kind may
have. -/
theorem Record.actionOf_eq_ok_iff {kind : StepKind} {selector value : Option Datum}
    (hselector : ∀ d ∈ selector, d.IsJson) (hvalue : ∀ d ∈ value, d.IsJson) {s : Step Loose} :
    actionOf kind selector value = .ok s.action ↔ s.kind = kind ∧
      (∀ target ∈ s.target?, ∃ d ∈ selector, target.StoredIn d) ∧
      (kind ≠ .click → value = s.value?.map .ofLoose) := by
  obtain ⟨name, action⟩ := s
  cases kind <;>
    simp only [actionOf, Checked.map_eq_ok_iff, Prod.exists, Checked.both_eq_ok_iff,
      filledField_eq_ok_iff hvalue, optionalField_eq_ok_iff hvalue,
      selectorField_eq_ok_iff hselector] <;>
    cases action <;>
    simp [Step.kind, Action.kind, Step.target?, Step.value?, and_assoc]

end

section

variable {kind : StepKind} {entries : List (Datum × Datum)}

/-- A name is a text, and empty if there is none. -/
theorem Record.stringField_name_eq_ok_iff (hjson : (Datum.map entries).IsJson) {name : Loose} :
    stringField entries "name" (some "") = .ok name ↔
      match Datum.lookup? entries "name" with
      | none => name = .empty
      | some d => d = .ofLoose name := by
  unfold stringField
  rw [Checked.under_eq_ok_iff]
  cases hlookup : Datum.lookup? entries "name" with
  | none =>
      simp only [Except.ok.injEq]
      exact eq_comm
  | some d => exact (hjson.of_lookup? hlookup).asText_eq_ok_iff

/-- The entries are under the names that a step has for its fields. -/
def Record.OnlyStepFields (entries : List (Datum × Datum)) : Prop :=
  ∀ entry ∈ entries, ∃ field ∈ ["name", "kind", "selector", "value"], entry.1 = .text field

/-- Fields are sound in number if each is one that a step has. -/
theorem Record.noFurtherFields_eq_ok_iff :
    noFurtherFields entries = .ok () ↔ OnlyStepFields entries := by
  have hfurther : ∀ key : Datum,
      furtherIssue? key = none ↔ ∃ field ∈ stepFields, key = .text field := by
    intro key
    cases key <;> simp [furtherIssue?]
  have hnone : (entries.filterMap fun entry => furtherIssue? entry.1) = [] ↔
      OnlyStepFields entries := by
    simp only [List.filterMap_eq_nil_iff, hfurther]
    rfl
  unfold noFurtherFields
  rw [← hnone]
  generalize (entries.filterMap fun entry => furtherIssue? entry.1) = issues
  cases issues <;> simp

/-! ## The rules -/

/-- The fields of a step are those of an object. What the object may leave out is blank or empty in
the step. -/
structure Step.StoredIn (s : Step Loose) (entries : List (Datum × Datum)) : Prop where
  kind : Datum.lookup? entries "kind" = some (.text s.kind.label)
  name : match Datum.lookup? entries "name" with
    | none => s.name = .empty
    | some d => d = .ofLoose s.name
  selector : match s.target? with
    | none => Absent entries "selector"
    | some target => ∃ d ∈ Datum.lookup? entries "selector", target.StoredIn d
  value : match s.value? with
    | none => Absent entries "value"
    | some text => Datum.lookup? entries "value" = some (.ofLoose text) ∧
      (Datum.ofLoose text).isBlank = false

/-- An object has what its kind needs, and nothing that its kind refuses. -/
structure Record.HasShape (kind : StepKind) (entries : List (Datum × Datum)) : Prop where
  selector : kind.targets = true ↔ ¬Absent entries "selector"
  needed : kind.needsValue = true → ¬Absent entries "value"
  refused : kind = .click → Absent entries "value"

/-- A field of an object is of the wrong sort: a name or a value that is no string, a selector that
is none, or a field that no step has. -/
inductive Record.IllTyped (kind : StepKind) (entries : List (Datum × Datum)) : Prop where
  | name (d : Datum) (hd : Datum.lookup? entries "name" = some d) (htext : ∀ l, d ≠ .ofLoose l)
  | value (d : Datum) (hd : Datum.lookup? entries "value" = some d) (hnull : d ≠ .null)
      (htext : ∀ l, d ≠ .ofLoose l)
  | selector (htargets : kind.targets = true) (d : Datum)
      (hd : Datum.lookup? entries "selector" = some d) (hnone : ∀ s : Selector, ¬s.StoredIn d)
  | further (hfurther : ¬OnlyStepFields entries)

/-- What comes of an object with a kind. The rules on its shape come first, those on its selector
before those on its value. -/
structure Record.Judged (kind : StepKind) (entries : List (Datum × Datum))
    (result : Except Fault (Step Loose)) : Prop where
  selectorMissing (htargets : kind.targets = true) (habsent : Absent entries "selector") :
    result = .error (.malformedStep (.text kind.label) "selector" false)
  selectorUnexpected (htargets : kind.targets = false) (hpresent : ¬Absent entries "selector") :
    result = .error (.malformedStep (.text kind.label) "selector" true)
  valueMissing (hselector : kind.targets = true ↔ ¬Absent entries "selector")
    (hneeded : kind.needsValue = true) (habsent : Absent entries "value") :
    result = .error (.malformedStep (.text kind.label) "value" false)
  valueUnexpected (hselector : kind.targets = true ↔ ¬Absent entries "selector")
    (hrefused : kind = .click) (hpresent : ¬Absent entries "value") :
    result = .error (.malformedStep (.text kind.label) "value" true)
  invalid (hshape : HasShape kind entries) (hill : IllTyped kind entries) :
    ∃ issues, result = .error (.invalid issues)
  accepted (hshape : HasShape kind entries) (hwell : ¬IllTyped kind entries) :
    ∃ s : Step Loose, result = .ok s ∧ s.StoredIn entries

/-! ## Which fields are read -/

theorem StepKind.label_injective : Function.Injective label := by
  intro a b h
  have hsame := congrArg ofLabel? h
  rwa [ofLabel?_label, ofLabel?_label, Option.some.injEq] at hsame

theorem Step.isSome_target? (s : Step Loose) : s.target?.isSome = s.kind.targets := by
  obtain ⟨name, action⟩ := s
  cases action <;> rfl

theorem Step.value?_of_click {s : Step Loose} (h : s.kind = .click) : s.value? = none := by
  obtain ⟨name, action⟩ := s
  cases action <;> first | rfl | cases h

/-- A kind, and the target and the value that it asks for, make a step. -/
theorem Step.exists_of_fields (name : Loose) {target : Option Selector} {value : Option Loose}
    (htarget : target.isSome = kind.targets) (hneeded : kind.needsValue = true → value ≠ none)
    (hrefused : kind = .click → value = none) :
    ∃ s : Step Loose, s.kind = kind ∧ s.name = name ∧ s.target? = target ∧ s.value? = value := by
  cases kind with
  | navigate =>
      obtain ⟨url, rfl⟩ := Option.ne_none_iff_exists'.mp (hneeded rfl)
      obtain rfl := Option.isSome_eq_false_iff.trans Option.isNone_iff_eq_none |>.mp htarget
      exact ⟨⟨name, .navigate url⟩, rfl, rfl, rfl, rfl⟩
  | click =>
      obtain ⟨element, rfl⟩ := Option.isSome_iff_exists.mp htarget
      obtain rfl := hrefused rfl
      exact ⟨⟨name, .click element⟩, rfl, rfl, rfl, rfl⟩
  | typeText =>
      obtain ⟨element, rfl⟩ := Option.isSome_iff_exists.mp htarget
      obtain ⟨text, rfl⟩ := Option.ne_none_iff_exists'.mp (hneeded rfl)
      exact ⟨⟨name, .typeText element text⟩, rfl, rfl, rfl, rfl⟩
  | assertText =>
      obtain ⟨element, rfl⟩ := Option.isSome_iff_exists.mp htarget
      obtain ⟨text, rfl⟩ := Option.ne_none_iff_exists'.mp (hneeded rfl)
      exact ⟨⟨name, .assertText element text⟩, rfl, rfl, rfl, rfl⟩
  | screenshot =>
      obtain rfl := Option.isSome_eq_false_iff.trans Option.isNone_iff_eq_none |>.mp htarget
      exact ⟨⟨name, .screenshot value⟩, rfl, rfl, rfl, rfl⟩

/-- The value of a field that is filled is the text of which the rules speak. -/
theorem Record.filled?_eq_map_ofLoose_iff {field : String} {value : Option Loose} :
    filled? entries field = value.map .ofLoose ↔
      match value with
      | none => Absent entries field
      | some text => Datum.lookup? entries field = some (.ofLoose text) ∧
        (Datum.ofLoose text).isBlank = false := by
  cases value with
  | none => exact filled?_eq_none_iff
  | some text => simp [filled?, Option.filter_eq_some_iff]

/-- The fields are read one by one, and the kind has been read before. -/
theorem Record.stepFields?_eq_ok_iff_fields
    (hkind : Datum.lookup? entries "kind" = some (.text kind.label)) {s : Step Loose} :
    stepFields? kind entries = .ok s ↔
      stringField entries "name" (some "") = .ok s.name ∧
        actionOf kind (filled? entries "selector") (filled? entries "value") = .ok s.action ∧
        noFurtherFields entries = .ok () := by
  have hrepeated : repeatedKind kind entries = .ok () := by simp [repeatedKind, hkind]
  simp only [stepFields?, Checked.map_eq_ok_iff, Prod.exists, Checked.both_eq_ok_iff, hrepeated]
  constructor
  · rintro ⟨name, _, action, _, ⟨⟨⟨hname, _⟩, haction⟩, hfurther⟩, rfl⟩
    exact ⟨hname, haction, hfurther⟩
  · rintro ⟨hname, haction, hfurther⟩
    exact ⟨s.name, (), s.action, (), ⟨⟨⟨hname, trivial⟩, haction⟩, hfurther⟩, rfl⟩

/-- What is read of an object in shape has the fields of the object. -/
theorem Record.stepFields?_eq_ok_iff (hjson : (Datum.map entries).IsJson)
    (hkind : Datum.lookup? entries "kind" = some (.text kind.label))
    (hshape : HasShape kind entries) {s : Step Loose} :
    stepFields? kind entries = .ok s ↔ s.StoredIn entries ∧ OnlyStepFields entries := by
  have hfilled : ∀ field, ∀ d ∈ filled? entries field, d.IsJson := fun field d hd =>
    hjson.of_lookup? (Option.filter_eq_some_iff.mp hd).1
  rw [stepFields?_eq_ok_iff_fields hkind, stringField_name_eq_ok_iff hjson,
    noFurtherFields_eq_ok_iff, actionOf_eq_ok_iff (hfilled "selector") (hfilled "value"),
    filled?_eq_map_ofLoose_iff]
  have hselector := hshape.selector
  have htarget := s.isSome_target?
  constructor
  · rintro ⟨hname, ⟨rfl, htargets, hvalue⟩, hfurther⟩
    refine ⟨⟨hkind, hname, ?selector, ?value⟩, hfurther⟩
    case selector =>
      cases htarget? : s.target? with
      | none =>
          rw [htarget?] at htarget
          exact not_not.mp fun hpresent => absurd (hselector.mpr hpresent) (by simp [← htarget])
      | some target =>
          obtain ⟨d, hd, hstored⟩ := htargets target htarget?
          exact ⟨d, (Option.filter_eq_some_iff.mp hd).1, hstored⟩
    case value =>
      by_cases hclick : s.kind = .click
      · rw [Step.value?_of_click hclick]
        exact hshape.refused hclick
      · exact hvalue hclick
  · rintro ⟨hs, hfurther⟩
    obtain rfl : s.kind = kind :=
      StepKind.label_injective (Datum.text.inj (Option.some.inj (hs.kind.symm.trans hkind)))
    refine ⟨hs.name, ⟨rfl, ?_, fun _ => hs.value⟩, hfurther⟩
    intro target htarget?
    have hstored := hs.selector
    rw [htarget?] at hstored htarget
    obtain ⟨d, hd, hstored⟩ := hstored
    obtain ⟨other, hother, hfilledOther⟩ := filled?_of_not_absent (hselector.mp htarget.symm)
    cases hd.symm.trans hother
    exact ⟨d, hfilledOther, hstored⟩

/-- What stores a step has no field of a wrong sort. -/
theorem Step.StoredIn.not_illTyped {s : Step Loose} (hs : s.StoredIn entries)
    (hkind : Datum.lookup? entries "kind" = some (.text kind.label))
    (honly : OnlyStepFields entries) : ¬IllTyped kind entries := by
  intro hill
  cases hill with
  | name d hd htext =>
      have hname := hs.name
      rw [hd] at hname
      exact htext _ hname
  | value d hd hnull htext =>
      have hvalue := hs.value
      split at hvalue
      next =>
        rcases hvalue d hd with h | ⟨text, h, _⟩
        · exact hnull h
        · exact htext (.ofString text) (h.trans (Datum.ofLoose_ofString text).symm)
      next => exact htext _ (Option.some.inj (hd.symm.trans hvalue.1))
  | selector htargets d hd hnone =>
      obtain rfl : s.kind = kind :=
        StepKind.label_injective (Datum.text.inj (Option.some.inj (hs.kind.symm.trans hkind)))
      obtain ⟨target, htarget⟩ := Option.isSome_iff_exists.mp (s.isSome_target?.trans htargets)
      have hselector := hs.selector
      rw [htarget] at hselector
      obtain ⟨other, hother, hstored⟩ := hselector
      cases hd.symm.trans hother
      exact hnone target hstored
  | further hfurther => exact hfurther honly

theorem Record.exists_name (hwell : ¬IllTyped kind entries) :
    ∃ name, match Datum.lookup? entries "name" with
      | none => name = Loose.empty
      | some d => d = .ofLoose name := by
  cases hlookup : Datum.lookup? entries "name" with
  | none => exact ⟨.empty, rfl⟩
  | some d => exact by_contra fun h => hwell (.name d hlookup (not_exists.mp h))

/-- In an object of the right shape the target is there exactly if the kind needs one. -/
theorem Record.exists_target (hshape : HasShape kind entries) (hwell : ¬IllTyped kind entries) :
    ∃ target : Option Selector, target.isSome = kind.targets ∧
      match target with
      | none => Absent entries "selector"
      | some target => ∃ d ∈ Datum.lookup? entries "selector", target.StoredIn d := by
  cases htargets : kind.targets with
  | false =>
      exact ⟨none, rfl, not_not.mp fun h => absurd (hshape.selector.mpr h) (by simp [htargets])⟩
  | true =>
      obtain ⟨d, hd, _⟩ := filled?_of_not_absent (hshape.selector.mp htargets)
      obtain ⟨target, hstored⟩ : ∃ target : Selector, target.StoredIn d :=
        by_contra fun h => hwell (.selector htargets d hd (not_exists.mp h))
      exact ⟨some target, rfl, d, hd, hstored⟩

/-- A value that is filled and of the right sort is a text. -/
theorem Record.exists_value (hwell : ¬IllTyped kind entries) :
    ∃ value : Option Loose, filled? entries "value" = value.map .ofLoose := by
  cases hfilled : filled? entries "value" with
  | none => exact ⟨none, rfl⟩
  | some d =>
      obtain ⟨hd, hblank⟩ := Option.filter_eq_some_iff.mp hfilled
      have hnull : d ≠ .null := by
        rintro rfl
        cases hblank
      obtain ⟨text, rfl⟩ : ∃ text, d = .ofLoose text :=
        by_contra fun h => hwell (.value d hd hnull (not_exists.mp h))
      exact ⟨some text, rfl⟩

/-- An object in shape is a step if none of its fields is of the wrong sort. -/
theorem Record.exists_storedIn_iff
    (hkind : Datum.lookup? entries "kind" = some (.text kind.label))
    (hshape : HasShape kind entries) :
    (∃ s : Step Loose, s.StoredIn entries ∧ OnlyStepFields entries) ↔ ¬IllTyped kind entries := by
  constructor
  · rintro ⟨s, hs, honly⟩
    exact hs.not_illTyped hkind honly
  · intro hwell
    have honly : OnlyStepFields entries := not_not.mp fun h => hwell (.further h)
    obtain ⟨name, hname⟩ := exists_name hwell
    obtain ⟨target, htarget, hselector⟩ := exists_target hshape hwell
    obtain ⟨value, hvalue⟩ := exists_value hwell
    have hfilled := filled?_eq_map_ofLoose_iff.mp hvalue
    have hneeded : kind.needsValue = true → value ≠ none := by
      rintro hneeds rfl
      exact hshape.needed hneeds hfilled
    have hrefused : kind = .click → value = none := by
      intro hclick
      have habsent := filled?_eq_none_iff.mpr (hshape.refused hclick)
      rw [hvalue] at habsent
      exact Option.map_eq_none_iff.mp habsent
    obtain ⟨s, rfl, rfl, rfl, rfl⟩ := Step.exists_of_fields name htarget hneeded hrefused
    exact ⟨s, ⟨hkind, hname, hselector, hfilled⟩, honly⟩

/-! ## Ways to make a step -/

theorem Record.stepOfKind_eq (hkind : Datum.lookup? entries "kind" = some (.text kind.label)) :
    stepOfKind (τ := Loose) kind entries = (do
      checkPresence (.text kind.label) "selector" (selectorPresence kind)
        (filled? entries "selector")
      checkPresence (.text kind.label) "value" (valuePresence kind) (filled? entries "value")
      .ok (stepFields? kind entries)) := by
  have hshown : (Datum.text kind.label).truthy? = some (.text kind.label) := by
    cases kind <;> rfl
  rw [stepOfKind, hkind, Option.bind_some, hshown, Option.getD_some]

/-- The rule on the selector is kept exactly by objects with a target where one is needed. -/
theorem Record.checkPresence_selector
    (hselector : kind.targets = true ↔ ¬Absent entries "selector") :
    checkPresence (.text kind.label) "selector" (selectorPresence kind)
      (filled? entries "selector") = .ok () := by
  by_cases habsent : Absent entries "selector"
  · have htargets : kind.targets = false := by simpa [habsent] using hselector
    rw [filled?_eq_none_iff.mpr habsent]
    cases kind <;> first | rfl | cases htargets
  · have htargets : kind.targets = true := hselector.mpr habsent
    obtain ⟨d, _, hfilled⟩ := filled?_of_not_absent habsent
    rw [hfilled]
    cases kind <;> first | rfl | cases htargets

/-- The rule on the value is kept by objects of the right shape. -/
theorem Record.checkPresence_value (hshape : HasShape kind entries) :
    checkPresence (.text kind.label) "value" (valuePresence kind)
      (filled? entries "value") = .ok () := by
  by_cases habsent : Absent entries "value"
  · have hneeds : kind.needsValue = false := by
      rw [← Bool.not_eq_true]
      exact fun hneeds => hshape.needed hneeds habsent
    rw [filled?_eq_none_iff.mpr habsent]
    cases kind <;> first | rfl | cases hneeds
  · obtain ⟨d, _, hfilled⟩ := filled?_of_not_absent habsent
    rw [hfilled]
    cases kind with
    | click => exact absurd (hshape.refused rfl) habsent
    | _ => rfl

/-- What reports the fault of the check, the issues that it found or else the step, keeps the
rules. -/
theorem Record.Judged.of_stepOfKind (hjson : (Datum.map entries).IsJson)
    (hkind : Datum.lookup? entries "kind" = some (.text kind.label))
    {result : Except Fault (Step Loose)}
    (hfault : ∀ fault, stepOfKind (τ := Loose) kind entries = .error fault →
      result = .error fault)
    (hissues : ∀ issues, stepOfKind (τ := Loose) kind entries = .ok (.error issues) →
      ∃ more, result = .error (.invalid more))
    (hstep : ∀ s, stepOfKind kind entries = .ok (.ok s) → result = .ok s) :
    Judged kind entries result := by
  rw [stepOfKind_eq hkind] at hfault hissues hstep
  have hfields (hshape : HasShape kind entries) :
      (do
        checkPresence (.text kind.label) "selector" (selectorPresence kind)
          (filled? entries "selector")
        checkPresence (.text kind.label) "value" (valuePresence kind) (filled? entries "value")
        Except.ok (stepFields? (τ := Loose) kind entries)) = .ok (stepFields? kind entries) := by
    rw [checkPresence_selector hshape.selector, checkPresence_value hshape]
    rfl
  constructor
  case selectorMissing =>
    intro htargets habsent
    apply hfault
    rw [filled?_eq_none_iff.mpr habsent]
    cases kind <;> first | rfl | cases htargets
  case selectorUnexpected =>
    intro htargets hpresent
    apply hfault
    obtain ⟨d, _, hfilled⟩ := filled?_of_not_absent hpresent
    rw [hfilled]
    cases kind <;> first | rfl | cases htargets
  case valueMissing =>
    intro hselector hneeds habsent
    apply hfault
    rw [checkPresence_selector hselector, filled?_eq_none_iff.mpr habsent]
    cases kind <;> first | rfl | cases hneeds
  case valueUnexpected =>
    intro hselector hclick hpresent
    apply hfault
    obtain ⟨d, _, hfilled⟩ := filled?_of_not_absent hpresent
    rw [checkPresence_selector hselector, hfilled, hclick]
    rfl
  case invalid =>
    intro hshape hill
    rw [hfields hshape] at hissues
    cases hread : stepFields? (τ := Loose) kind entries with
    | error issues => exact hissues issues (congrArg Except.ok hread)
    | ok s =>
        have hstored := (stepFields?_eq_ok_iff hjson hkind hshape).mp hread
        exact absurd hill ((exists_storedIn_iff hkind hshape).mp ⟨s, hstored⟩)
  case accepted =>
    intro hshape hwell
    rw [hfields hshape] at hstep
    obtain ⟨s, hs⟩ := (exists_storedIn_iff hkind hshape).mpr hwell
    have hread := (stepFields?_eq_ok_iff hjson hkind hshape).mpr hs
    exact ⟨s, hstep s (congrArg Except.ok hread), hs.1⟩

/-- An object that names its kind is judged by the rules of this kind. -/
theorem Step.ofDatum_judged (hjson : (Datum.map entries).IsJson)
    (hkind : Datum.lookup? entries "kind" = some (.text kind.label)) :
    Judged kind entries (ofDatum (.map entries)) := by
  have hread : ofDatum (τ := Loose) (.map entries) = (do
      let step ← stepOfKind kind entries
      Checked.orFault (Checked.under (.field kind.label) step)) := by
    simp only [ofDatum, hkind, Datum.string?, Option.bind_some, StepKind.ofLabel?_label]
  apply Judged.of_stepOfKind hjson hkind
  · intro fault h
    rw [hread, h]
    rfl
  · intro issues h
    rw [hread, h]
    exact ⟨_, rfl⟩
  · intro s h
    rw [hread, h]
    rfl

/-- Under its own kind an object is judged in the same way. -/
theorem Step.ofDatumAs_judged (hjson : (Datum.map entries).IsJson)
    (hkind : Datum.lookup? entries "kind" = some (.text kind.label)) :
    Judged kind entries (ofDatumAs kind (.map entries)) := by
  apply Judged.of_stepOfKind hjson hkind
  · intro fault h
    rw [ofDatumAs, h]
    rfl
  · intro issues h
    rw [ofDatumAs, h]
    exact ⟨issues, rfl⟩
  · intro s h
    rw [ofDatumAs, h]
    rfl

/-- The object that is made of the parts of a step. A part that is not given is not in it. -/
def Step.objectOf (kind : StepKind) (name : Datum) (selector : Option Selector)
    (value : Option Datum) : List (Datum × Datum) :=
  [(.text "kind", .text kind.label), (.text "name", name)] ++
    (selector.map fun s => (.text "selector", s.toDatum)).toList ++
    (value.map fun d => (.text "value", d)).toList

theorem Step.make_eq (kind : StepKind) (name : Datum) (selector : Option Selector)
    (value : Option Datum) :
    make (τ := Loose) (.text kind.label) name selector value =
      ofDatum (.map (objectOf kind name selector value)) := by
  rw [make, Datum.string?, Option.bind_some, StepKind.ofLabel?_label]
  cases selector <;> cases value <;> rfl

/-- All ways to make a step of an object keep the rules. -/
structure Record.EachJudged (kind : StepKind) (entries : List (Datum × Datum)) : Prop where
  /-- The object is a step of the kind that it names. -/
  named : Judged kind entries (Step.ofDatum (.map entries))
  /-- The object is a step of a given kind. -/
  given : Judged kind entries (Step.ofDatumAs kind (.map entries))
  /-- The object is a stored step. -/
  stored : ∀ supply, ∃ result, Designer.readStep (.map entries) supply = (result, supply) ∧
    Judged kind entries result
  /-- The object is the only step of a test. -/
  only : ∀ t : Test Loose, ∃ result,
    t.withSteps (.list [.map entries]) = result.map (fun s => { t with steps := [s] }) ∧
      Judged kind entries result
  /-- The object is made of the parts of a step. -/
  parts : ∀ name selector value, entries = Step.objectOf kind name selector value →
    Judged kind entries (Step.make (.text kind.label) name selector value)

/-- All ways to make a step of an object that names a kind keep the rules. -/
theorem Record.steps_judged (hjson : (Datum.map entries).IsJson)
    (hkind : Datum.lookup? entries "kind" = some (.text kind.label)) :
    EachJudged kind entries := by
  have hjudged := Step.ofDatum_judged hjson hkind
  refine ⟨hjudged, Step.ofDatumAs_judged hjson hkind, fun supply => ?stored, fun t => ?only,
    fun name selector value hparts => ?parts⟩
  case stored =>
    refine ⟨_, ?_, hjudged⟩
    have hholds : Designer.holds (.map entries) "kind" = .ok true := by simp [Designer.holds, hkind]
    rw [Designer.readStep, hholds]
    rfl
  case only =>
    refine ⟨_, ?_, hjudged⟩
    rw [Test.withSteps, itemsOf]
    cases hread : Step.ofDatum (τ := Loose) (.map entries) <;>
      simp [hread, bind, Except.bind, Except.map, pure, Except.pure]
  case parts =>
    rw [Step.make_eq, ← hparts]
    exact hjudged

end

/-- A click whose value is blank and whose selector has a field of its own. -/
def Record.markedClick : List (Datum × Datum) :=
  [(.text "kind", .text "click"), (.text "value", .text " "),
    (.text "selector", .map [(.text "raw", .text "#a"), (.text "note", .list [.null])])]

/-- Unknown fields of a selector are passed over, and a blank value of a click is left out: the
click is judged as one without a value. -/
theorem Record.steps_judged_markedClick :
    (Datum.map markedClick).IsJson ∧
      Datum.lookup? markedClick "kind" = some (.text StepKind.click.label) ∧
      EachJudged .click markedClick := by
  have hselector :
      (Datum.map [(.text "raw", .text "#a"), (.text "note", .list [.null])]).IsJson := by
    refine .map ?_ (by decide) ?_
    · simp
    · simpa using ⟨.text _, .list (by simpa using .null)⟩
  have hjson : (Datum.map markedClick).IsJson := by
    refine .map ?_ (by decide) ?_
    · simp [markedClick]
    · simpa [markedClick] using ⟨.text _, .text _, hselector⟩
  have hkind : Datum.lookup? markedClick "kind" = some (.text StepKind.click.label) := rfl
  exact ⟨hjson, hkind, steps_judged hjson hkind⟩

def Record.tornClick : List (Datum × Datum) :=
  [(.text "kind", .text "click"),
    (.text "selector", .map [(.text "raw", .torn Half.first.alone)])]

/-- An object has the shape of a step and no further field, and its selector has a text that is not
empty. The text is torn, and so there is no such step. -/
theorem Record.ofDatum_tornClick :
    (Datum.map tornClick).IsJson ∧
      Datum.lookup? tornClick "kind" = some (.text StepKind.click.label) ∧
      HasShape .click tornClick ∧ OnlyStepFields tornClick ∧
      Datum.lookup? tornClick "selector" =
        some (.map [(.text "raw", .ofLoose Half.first.alone.val)]) ∧
      Half.first.alone.val ≠ .empty ∧
      ¬∃ s : Step Loose, Step.ofDatum (.map tornClick) = .ok s := by
  have hselector : (Datum.map [(.text "raw", .torn Half.first.alone)]).IsJson := by
    refine .map ?_ (by decide) ?_
    · simp
    · simpa using .torn _
  refine ⟨.map ?_ (by decide) ?_, rfl, ⟨?_, nofun, fun _ => nofun⟩, ?_, rfl, by decide, ?_⟩
  · simp [tornClick]
  · simpa [tornClick] using ⟨.text _, hselector⟩
  · refine iff_of_true rfl fun habsent => ?_
    obtain h | ⟨_, h, -⟩ := habsent _ rfl <;> cases h
  · simp [OnlyStepFields, tornClick]
  · rintro ⟨s, hs⟩
    cases hs

end Clickpath
