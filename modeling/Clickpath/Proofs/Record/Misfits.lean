import Clickpath.Proofs.Record.Made
import Clickpath.Proofs.Record.Parts

/-! # Misfits among records

A step that breaks a rule of records is refused with a fault that says so. What is no record of a
step at all, names its strategy by something else than a text, or holds a number too long to be
shown where it has to be shown, is a misfit, and its fault says nothing of rules. Steps are read in
order, so a misfit shows only if every step in front of it is read.
-/

namespace Clickpath.Designer

open Record

variable {τ : Type} [Textual τ]

/-! ## Steps -/

/-- What a record gives for its keyword. -/
def keywordOf (entries : List (Datum × Datum)) : Datum :=
  (Datum.lookup? entries "type").getD (.text "")

/-- The kind that the keyword of a record stands for. -/
def keywordKind? (entries : List (Datum × Datum)) : Option StepKind :=
  kindOfKeyword? (Text.upper (keywordOf entries).display)

/-- A datum in the place of a step that is no record of one: it cannot be asked for a kind, or it is
no record, or its keyword is none that can be shown, or no selector can be made of its target. -/
inductive Misfit : Datum → Prop
  | scalar {record : Datum} (hholds : holds record "kind" = .error .notAContainer) : Misfit record
  | noRecord {record : Datum} (hholds : holds record "kind" = .ok false)
      (hrecord : ∀ entries, record ≠ .map entries) : Misfit record
  | keyword {entries : List (Datum × Datum)} (hholds : holds (.map entries) "kind" = .ok false)
      (hlong : (keywordOf entries).isShowable = false) : Misfit (.map entries)
  | target {entries : List (Datum × Datum)} {kind : StepKind} {target strategy : Datum}
      (hholds : holds (.map entries) "kind" = .ok false)
      (hshown : (keywordOf entries).isShowable = true) (hkind : keywordKind? entries = some kind)
      (hneeds : selectorPresence kind = .required)
      (htarget : part? entries "selector" = some target)
      (hstrategy : part? entries "selectorType" = some strategy)
      (hbad : Untargeted target strategy) : Misfit (.map entries)

/-- A record that is to be read as a step is none. -/
theorem not_misfit_of_holds {record : Datum} (hholds : holds record "kind" = .ok true) :
    ¬Misfit record := by
  intro hmisfit
  cases hmisfit with
  | scalar h => cases hholds.symm.trans h
  | noRecord h => cases hholds.symm.trans h
  | keyword h => cases hholds.symm.trans h
  | target h => cases hholds.symm.trans h

/-- A record of fields whose keyword can be shown is a misfit just if its target and strategy
are. -/
theorem misfit_map_iff {entries : List (Datum × Datum)}
    (hholds : holds (.map entries) "kind" = .ok false)
    (hshown : (keywordOf entries).isShowable = true) :
    Misfit (.map entries) ↔
      ∃ kind ∈ keywordKind? entries, selectorPresence kind = .required ∧
        ∃ target strategy, part? entries "selector" = some target ∧
          part? entries "selectorType" = some strategy ∧ Untargeted target strategy := by
  constructor
  · intro hmisfit
    cases hmisfit with
    | scalar h => cases hholds.symm.trans h
    | noRecord _ h => exact absurd rfl (h entries)
    | keyword _ hlong => cases hshown.symm.trans hlong
    | target _ _ hkind hneeds htarget hstrategy hbad =>
        exact ⟨_, hkind, hneeds, _, _, htarget, hstrategy, hbad⟩
  · rintro ⟨kind, hkind, hneeds, target, strategy, htarget, hstrategy, hbad⟩
    exact .target hholds hshown hkind hneeds htarget hstrategy hbad

theorem holds_error {d : Datum} {name : String} {fault : Fault} (h : holds d name = .error fault) :
    fault = .notAContainer := by
  cases d <;> cases h <;> rfl

theorem truthy?_part? (entries : List (Datum × Datum)) (field : String) :
    (part? entries field).bind Datum.truthy? = part? entries field := by
  unfold part?
  cases Datum.lookup? entries field with
  | none => rfl
  | some d =>
      rw [Option.bind_some]
      cases hfalsy : d.isFalsy <;> simp [Datum.truthy?, hfalsy]

/-- It fails with a fault that is no refusal. -/
def Derails (result : Except Fault α) : Prop := ∃ fault, result = .error fault ∧ ¬fault.IsRefusal

theorem not_derails_of_refuses {result : Except Fault α} (h : Refuses result) : ¬Derails result :=
  fun ⟨fault, hfault, hmisfit⟩ => hmisfit (h fault hfault)

theorem derails_error_iff {fault : Fault} :
    Derails (.error fault : Except Fault α) ↔ ¬fault.IsRefusal := by
  constructor
  · rintro ⟨_, ⟨⟩, hmisfit⟩
    exact hmisfit
  · exact fun hmisfit => ⟨fault, rfl, hmisfit⟩

theorem derails_notARecord : Derails (.error .notARecord : Except Fault α) :=
  derails_error_iff.mpr id

theorem derails_unshowable : Derails (.error .unshowable : Except Fault α) :=
  derails_error_iff.mpr id

/-- Making a selector fails without a rule exactly if a target and a strategy are given of which
none can be made. -/
theorem derails_selectorOf_iff (raw strategy : Option Datum) :
    Derails (selectorOf raw strategy) ↔
      ∃ target word, raw.bind Datum.truthy? = some target ∧
        strategy.bind Datum.truthy? = some word ∧ Untargeted target word := by
  constructor
  · intro h
    rcases selectorOf_cases raw strategy with hrefuses | ⟨-, hparts⟩
    · exact absurd h (not_derails_of_refuses hrefuses)
    · exact hparts
  · rintro ⟨target, word, hraw, hword, hbad⟩
    unfold selectorOf
    rw [hraw, hword]
    cases word with
    | text s =>
        obtain ⟨hkind, hlong⟩ := hbad
        dsimp only [Datum.string?, Option.bind_some]
        rw [hkind, hlong]
        exact derails_unshowable
    | torn | binary =>
        replace hbad : target.isShowable = false := hbad
        dsimp only [Datum.string?, Option.bind_none]
        rw [hbad]
        exact derails_unshowable
    | _ => exact derails_notARecord

/-- Of what a step is built from, only a selector derails. -/
theorem derails_build_iff (kind : StepKind) (name : Datum) (target strategy value : Option Datum)
    (supply : Supply) :
    Derails (build (τ := τ) kind name target strategy value supply).1 ↔
      selectorPresence kind = .required ∧ Derails (selectorOf target strategy) := by
  have hselector : Derails ((given (selectorOf target strategy) >>= fun selector =>
      given (Step.ofParts (τ := τ) kind name selector value)) supply).1 ↔
        Derails (selectorOf target strategy) := by
    cases selectorOf target strategy with
    | ok selector =>
        exact iff_of_false (not_derails_of_refuses (Step.refuses_ofParts kind name selector value))
          (not_derails_of_refuses (.ok selector))
    | error fault => exact derails_error_iff.trans derails_error_iff.symm
  cases kind with
  | navigate =>
      refine iff_of_false (not_derails_of_refuses ?_) (fun h => nomatch h.1)
      exact Step.refuses_ofParts .navigate name none (value.orElse fun _ => target)
  | screenshot =>
      refine iff_of_false (not_derails_of_refuses ?_) (fun h => nomatch h.1)
      rw [build]
      cases value.orElse fun _ => target with
      | some file => exact Step.refuses_ofParts .screenshot name none (some file)
      | none =>
          exact Step.refuses_ofParts .screenshot name none
            (some (.text (generatedName supply.readClock.1)))
  | click | typeText | assertText => exact hselector.trans (and_iff_right rfl).symm

/-- A step that is recorded as fields derails just if its keyword cannot be shown, or no selector
can be made of its target. -/
theorem derails_fields_iff {entries : List (Datum × Datum)}
    (hholds : holds (.map entries) "kind" = .ok false) (supply : Supply) :
    Derails (readStep (τ := τ) (.map entries) supply).1 ↔ Misfit (.map entries) := by
  cases hshown : (keywordOf entries).isShowable with
  | false =>
      refine iff_of_true ?_ (.keyword hholds hshown)
      unfold readStep
      rw [hholds]
      dsimp only
      rw [← keywordOf, hshown]
      exact derails_unshowable
  | true =>
      rw [misfit_map_iff hholds hshown]
      cases hkind : keywordKind? entries with
      | none =>
          refine iff_of_false (not_derails_of_refuses ?_) (fun ⟨_, h, _⟩ => nomatch h)
          unfold readStep
          rw [hholds]
          dsimp only
          rw [← keywordOf, hshown, ← keywordKind?, hkind]
          exact Refuses.error trivial
      | some kind =>
          rw [readStep_of_keyword hholds hshown hkind, derails_build_iff, derails_selectorOf_iff,
            truthy?_part?, truthy?_part?]
          constructor
          · exact fun h => ⟨kind, rfl, h⟩
          · rintro ⟨_, ⟨⟩, h⟩
            exact h

/-- A step derails just if its record is a misfit. -/
theorem derails_readStep_iff (record : Datum) (supply : Supply) :
    Derails (readStep (τ := τ) record supply).1 ↔ Misfit record := by
  cases hholds : holds record "kind" with
  | error fault =>
      obtain rfl := holds_error hholds
      refine iff_of_true ⟨.notAContainer, ?_, id⟩ (.scalar hholds)
      unfold readStep
      rw [hholds]
      rfl
  | ok isStep =>
      cases isStep with
      | true =>
          refine iff_of_false (not_derails_of_refuses ?_) (not_misfit_of_holds hholds)
          unfold readStep
          rw [hholds]
          exact Step.refuses_ofDatum record
      | false =>
          by_cases hrecord : ∃ entries, record = .map entries
          · obtain ⟨entries, rfl⟩ := hrecord
            exact derails_fields_iff hholds supply
          · rw [not_exists] at hrecord
            refine iff_of_true ?_ (.noRecord hholds hrecord)
            unfold readStep
            rw [hholds]
            cases record with
            | map entries => exact absurd rfl (hrecord entries)
            | _ => exact derails_notARecord

/-! ## Steps in order -/

/-- A step can be made of the record, at any time. -/
def Readable (record : Datum) : Prop :=
  ∀ supply, ∃ step : Step Loose, (readStep record supply).1 = .ok step

theorem readable_of_ok {record : Datum} {supply : Supply} {step : Step Loose}
    (h : (readStep record supply).1 = .ok step) : Readable record := by
  intro later
  have hsame := (alike_readStep (τ := Loose) record supply later rfl rfl).1
  rw [h] at hsame
  rcases hsame.cases with ⟨_, other, -, hother, -⟩ | ⟨fault, hfault, -⟩
  · exact ⟨other, hother⟩
  · cases hfault

theorem not_misfit_of_ok {record : Datum} {supply : Supply} {step : Step Loose}
    (h : (readStep record supply).1 = .ok step) : ¬Misfit record := by
  rw [← derails_readStep_iff (τ := Loose) record supply, h]
  exact not_derails_of_refuses (.ok step)

theorem derails_map_iff (m : Supplied α) (f : α → β) (supply : Supply) :
    Derails ((m >>= fun a => pure (f a)) supply).1 ↔ Derails (m supply).1 := by
  rw [bind_run]
  cases (m supply).1 with
  | ok a => exact iff_of_false nofun nofun
  | error fault => exact derails_error_iff.trans derails_error_iff.symm

/-- One that follows on ones that may stand in front of it is the head of a list, or it follows on
them in the rest and the head may stand in front too. -/
theorem exists_behind_cons_iff {before last : α → Prop} {a : α} {l : List α} :
    (∃ front b rest, a :: l = front ++ b :: rest ∧ (∀ other ∈ front, before other) ∧ last b) ↔
      last a ∨ before a ∧
        ∃ front b rest, l = front ++ b :: rest ∧ (∀ other ∈ front, before other) ∧ last b := by
  constructor
  · rintro ⟨front, b, rest, hl, hfront, hb⟩
    cases front with
    | nil =>
        cases hl
        exact .inl hb
    | cons first front =>
        cases hl
        obtain ⟨hfirst, hfront⟩ := List.forall_mem_cons.mp hfront
        exact .inr ⟨hfirst, front, b, rest, rfl, hfront, hb⟩
  · rintro (ha | ⟨ha, front, b, rest, rfl, hfront, hb⟩)
    · exact ⟨[], a, l, rfl, List.forall_mem_nil _, ha⟩
    · exact ⟨a :: front, b, rest, rfl, List.forall_mem_cons.mpr ⟨ha, hfront⟩, hb⟩

/-- Steps derail at the first of them that is not read, if this is a misfit. -/
theorem derails_mapM_iff (items : List Datum) (supply : Supply) :
    Derails (items.mapM (readStep (τ := Loose)) supply).1 ↔
      ∃ front record rest, items = front ++ record :: rest ∧ (∀ other ∈ front, Readable other) ∧
        Misfit record := by
  induction items generalizing supply with
  | nil =>
      refine iff_of_false nofun ?_
      rintro ⟨front, record, rest, hitems, -⟩
      cases front <;> cases hitems
  | cons item items ih =>
      rw [List.mapM_cons, bind_run, exists_behind_cons_iff]
      cases hstep : (readStep (τ := Loose) item supply).1 with
      | error fault =>
          have hunread : ¬Readable item := by
            intro hread
            obtain ⟨step, hok⟩ := hread supply
            cases hstep.symm.trans hok
          rw [or_iff_left (fun h => hunread h.1), ← derails_readStep_iff (τ := Loose) item supply,
            hstep]
          exact derails_error_iff.trans derails_error_iff.symm
      | ok step =>
          -- A step that is read now is read at any time, so it can stand in front of the misfit.
          dsimp only
          rw [derails_map_iff, ih, or_iff_right (not_misfit_of_ok hstep),
            and_iff_right (readable_of_ok hstep)]

/-- The stored steps of a record cannot be read for what they are: they are no sequence, or there is
a misfit behind steps that are read. -/
inductive HasMisfit (entries : List (Datum × Datum)) : Prop
  | noSequence {steps : Datum} (hsteps : part? entries "steps" = some steps)
      (hitems : itemsOf steps = .error .notAContainer)
  | step {steps record : Datum} {front rest : List Datum}
      (hsteps : part? entries "steps" = some steps)
      (hitems : itemsOf steps = .ok (front ++ record :: rest))
      (hfront : ∀ other ∈ front, Readable other) (hrecord : Misfit record)

/-- A misfit counts if the items in front of it can be read. -/
theorem hasMisfit_iff (entries : List (Datum × Datum)) :
    HasMisfit entries ↔ ∃ steps ∈ part? entries "steps", itemsOf steps = .error .notAContainer ∨
      ∃ front record rest, itemsOf steps = .ok (front ++ record :: rest) ∧
        (∀ other ∈ front, Readable other) ∧ Misfit record := by
  constructor
  · intro h
    cases h with
    | noSequence hsteps hitems => exact ⟨_, hsteps, .inl hitems⟩
    | step hsteps hitems hfront hrecord =>
      exact ⟨_, hsteps, .inr ⟨_, _, _, hitems, hfront, hrecord⟩⟩
  · rintro ⟨steps, hsteps, hitems | ⟨front, record, rest, hitems, hfront, hrecord⟩⟩
    · exact .noSequence hsteps hitems
    · exact .step hsteps hitems hfront hrecord

theorem hasMisfit_congr {entries others : List (Datum × Datum)}
    (h : part? entries "steps" = part? others "steps") : HasMisfit entries ↔ HasMisfit others := by
  rw [hasMisfit_iff, hasMisfit_iff, h]

theorem itemsOf_error {d : Datum} {fault : Fault} (h : itemsOf d = .error fault) :
    fault = .notAContainer := by
  cases d <;> cases h <;> rfl

/-- Reading the steps of a record fails without a rule exactly if there is a misfit among them. -/
theorem derails_readSteps_iff (entries : List (Datum × Datum)) (supply : Supply) :
    Derails (readSteps (τ := Loose) entries supply).1 ↔ HasMisfit entries := by
  rw [hasMisfit_iff]
  unfold readSteps
  cases hsteps : part? entries "steps" with
  | none => exact iff_of_false (not_derails_of_refuses (.ok [])) (fun ⟨_, h, _⟩ => nomatch h)
  | some steps =>
      simp only [Option.mem_some_iff, exists_eq_left']
      cases hitems : itemsOf steps with
      | error fault =>
          obtain rfl := itemsOf_error hitems
          exact iff_of_true (derails_error_iff.mpr id) (.inl rfl)
      | ok items =>
          refine (derails_mapM_iff items supply).trans ⟨?_, fun h => ?_⟩
          · rintro ⟨front, record, rest, rfl, hfront, hrecord⟩
            exact .inr ⟨front, record, rest, rfl, hfront, hrecord⟩
          · obtain ⟨front, record, rest, hsplit, hfront, hrecord⟩ := h.resolve_left nofun
            exact ⟨front, record, rest, Except.ok.inj hsplit, hfront, hrecord⟩

/-- A record of a test that is read derails only in its steps. -/
theorem derails_readTest_iff (entries : List (Datum × Datum)) (supply : Supply) :
    Derails (readTest (τ := Loose) entries supply).1 ↔ HasMisfit entries := by
  rw [← derails_readSteps_iff entries supply, readTest, bind_run]
  cases (readSteps (τ := Loose) entries supply).1 with
  | error fault => exact derails_error_iff.trans derails_error_iff.symm
  | ok steps =>
      dsimp only
      rw [(ofEntriesWith_run entries steps _).1]
      exact iff_of_false (not_derails_of_refuses (.orFault _)) (not_derails_of_refuses (.ok steps))

end Clickpath.Designer
