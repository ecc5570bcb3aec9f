import Clickpath.Proofs.Record.Stored

/-! # Steps made of texts

A designer gives the parts of a step as texts. They make a step of its kind, or one that is
malformed: no field of it can be wrong in any other way.
-/

namespace Clickpath.Designer

open Record

/-- A step of a kind and a name, or the fault that a part of it is missing or out of place. -/
def StepOrMalformed (kind : StepKind) (name : String) : Except Fault Step → Prop
  | .ok step => step.name = name ∧ step.kind = kind
  | .error fault => ∃ field unexpected, fault = .malformedStep (.text kind.label) field unexpected

theorem truthy?_text {s : String} (hs : s ≠ "") : (Datum.text s).truthy? = some (.text s) := by
  rw [Datum.truthy?, Datum.isFalsy, String.isEmpty_eq_false_iff.mpr hs, if_neg Bool.false_ne_true]

/-! ## Parts -/

section

variable (kind : StepKind) (name : String) (selector : Option Selector) (value : String)

def partEntries : List (Datum × Datum) :=
  (.text "kind", .text kind.label) :: (.text "name", .text name) ::
    ((selector.map fun s => (.text "selector", s.toDatum)).toList ++ [(.text "value", .text value)])

theorem ofParts_eq : Step.ofParts kind (.text name) selector (some (.text value)) =
    Step.ofDatum (.map (partEntries kind name selector value)) := by
  cases selector <;> rfl

theorem lookup?_partKind :
    Datum.lookup? (partEntries kind name selector value) "kind" = some (.text kind.label) := by
  simp [partEntries, Datum.lookup?_cons_text]

theorem filled?_partSelector :
    filled? (partEntries kind name selector value) "selector" = selector.map (·.toDatum) := by
  cases selector <;>
    simp [partEntries, filled?, Datum.lookup?_cons_text, Datum.lookup?_nil,
      Selector.isBlank_toDatum]

theorem filled?_partValue : filled? (partEntries kind name selector value) "value" =
    if Text.isBlank value then none else some (.text value) := by
  cases hblank : Text.isBlank value <;> cases selector <;>
    simp [partEntries, filled?, Datum.lookup?_cons_text, Option.filter_some, Datum.isBlank, hblank]

theorem filledField_text (field text : String) : filledField field (some (.text text)) = .ok text :=
  rfl

/-- Only the selector and the value are left to check. -/
theorem stepFields?_partEntries : stepFields? kind (partEntries kind name selector value) =
    (actionOf kind (selector.map (·.toDatum))
      (if Text.isBlank value then none else some (.text value))).map (⟨name, ·⟩) := by
  have hname : stringField (partEntries kind name selector value) "name" (some "") = .ok name := by
    simp [partEntries, stringField, Datum.lookup?_cons_text, Datum.asText, Datum.asString?]
  have hkind : repeatedKind kind (partEntries kind name selector value) = .ok () := by
    simp [repeatedKind, lookup?_partKind]
  have hfurther : noFurtherFields (partEntries kind name selector value) = .ok () := by
    cases selector <;> simp [partEntries, noFurtherFields, furtherIssue?, stepFields]
  unfold stepFields?
  rw [hname, hkind, hfurther, filled?_partSelector, filled?_partValue]
  cases actionOf kind (selector.map (·.toDatum))
    (if Text.isBlank value then none else some (.text value)) <;> rfl

/-- From its parts a step is made, or it is told which part is missing or out of place. -/
theorem stepOrMalformed_ofParts : StepOrMalformed kind name
    (Step.ofParts kind (.text name) selector (some (.text value))) := by
  have hshown : (Datum.text kind.label).truthy? = some (.text kind.label) := by
    cases kind <;> rfl
  rw [ofParts_eq, Step.ofDatum, lookup?_partKind]
  simp only [Datum.string?, Option.bind_some, StepKind.ofLabel?_label, stepOfKind, hshown,
    lookup?_partKind, Option.getD_some, stepFields?_partEntries, filled?_partSelector,
    filled?_partValue]
  -- A kind asks for both parts or refuses them first, so that only good ones are read.
  cases kind <;> cases selector <;> cases Text.isBlank value <;>
    simp [selectorPresence, valuePresence, checkPresence, actionOf, Step.selectorField_toDatum,
      filledField_text, optionalField, Checked.both, Checked.orFault, Except.map, bind,
      Except.bind, mapError_ok, StepOrMalformed, Step.kind, Action.kind]

end

/-! ## Selectors -/

theorem ofDatum_selectorFields (s : Selector) :
    ((Selector.ofDatum s.toDatum).map some).mapError Fault.invalid = .ok (some s) := by
  rw [Selector.ofDatum_toDatum]
  rfl

/-- A target makes a selector, whatever its strategy is called. -/
theorem selectorOf_texts {target : String} {strategy : Option String} (htarget : target ≠ "")
    (hstrategy : ∀ word ∈ strategy, word ≠ "") :
    ∃ s, selectorOf (some (.text target)) (strategy.map .text) = .ok (some s) := by
  have hraw : (some (Datum.text target)).bind Datum.truthy? = some (.text target) :=
    truthy?_text htarget
  unfold selectorOf
  rw [hraw]
  cases strategy with
  | none => exact ⟨_, ofDatum_selectorFields ⟨none, target, htarget⟩⟩
  | some word =>
      have hword : ((some word).map Datum.text).bind Datum.truthy? = some (.text word) :=
        truthy?_text (hstrategy word rfl)
      rw [hword]
      simp only [Datum.string?, Option.bind_some]
      cases SelectorKind.ofLabelAnyCase? word with
      | some kind => exact ⟨_, ofDatum_selectorFields ⟨some kind, target, htarget⟩⟩
      | none =>
          have hlong : word ++ "=" ++ target ≠ "" := by simp
          have hjoined : Datum.ofLoose
              ((Datum.text word).displayed ++ .ofString "=" ++ (Datum.text target).displayed) =
                .text (word ++ "=" ++ target) := by
            rw [← Datum.ofLoose_ofString (word ++ "=" ++ target), Loose.ofString_append,
              Loose.ofString_append]
            rfl
          rw [hjoined]
          exact ⟨_, ofDatum_selectorFields ⟨none, word ++ "=" ++ target, hlong⟩⟩

theorem given_bind_ok {result : Except Fault α} {a : α} (h : result = .ok a)
    (f : α → Supplied β) : (given result >>= f) = f a := by
  rw [h]
  rfl

/-! ## Records -/

/-- The record of a step as a designer stores it. -/
def recordOf (keyword : String) (strategy : Option String) (target value name : String) : Datum :=
  .ofFields [("type", .text keyword), ("selector", .text target),
    ("selectorType", .ofString? strategy), ("value", .text value), ("name", .text name)]

section

variable {keyword target value name : String} {strategy : Option String} {kind : StepKind}

/-- Of the parts that a designer records a step is made in the same way. -/
theorem stepOrMalformed_build (htarget : target ≠ "") (hstrategy : ∀ word ∈ strategy, word ≠ "")
    (supply : Supply) :
    StepOrMalformed kind name (build kind (.text name) (some (.text target)) (strategy.map .text)
      (some (.text value)) supply).1 := by
  cases kind with
  | navigate => exact stepOrMalformed_ofParts .navigate name none value
  | screenshot => exact stepOrMalformed_ofParts .screenshot name none value
  | click | typeText | assertText =>
      obtain ⟨selector, hselector⟩ := selectorOf_texts htarget hstrategy
      unfold build
      dsimp only
      rw [given_bind_ok hselector]
      exact stepOrMalformed_ofParts _ name (some selector) value

/-- A record that names a step by a keyword is read by its parts. -/
theorem readStep_of_keyword {τ : Type} [Textual τ] {entries : List (Datum × Datum)}
    (hshape : holds (.map entries) "kind" = .ok false)
    (hshown : ((Datum.lookup? entries "type").getD (.text "")).isShowable = true)
    (hkind : kindOfKeyword?
      (Text.upper ((Datum.lookup? entries "type").getD (.text "")).display) = some kind) :
    readStep (τ := τ) (.map entries) =
      build kind ((part? entries "name").getD (.text "")) (part? entries "selector")
        (part? entries "selectorType") (part? entries "value") := by
  unfold readStep
  rw [hshape]
  dsimp only
  rw [hshown, hkind]
  rfl

/-- A record with all of its parts makes the step of these parts. -/
theorem readStep_recordOf (hkind : kindOfKeyword? (Text.upper keyword) = some kind)
    (hstrategy : ∀ word ∈ strategy, word ≠ "") (htarget : target ≠ "") (hvalue : value ≠ "")
    (hname : name ≠ "") :
    readStep (recordOf keyword strategy target value name) =
      build kind (.text name) (some (.text target)) (strategy.map .text) (some (.text value)) := by
  have hstrategyPart : (Datum.ofString? strategy).truthy? = strategy.map .text := by
    cases strategy with
    | none => rfl
    | some word => exact truthy?_text (hstrategy word rfl)
  have hread : readStep (recordOf keyword strategy target value name) =
      build kind ((Datum.truthy? (.text name)).getD (.text "")) (Datum.truthy? (.text target))
        (Datum.truthy? (.ofString? strategy)) (Datum.truthy? (.text value)) :=
    readStep_of_keyword rfl rfl hkind
  rw [hread, hstrategyPart, truthy?_text hname, truthy?_text htarget, truthy?_text hvalue]
  rfl

end

end Clickpath.Designer
