import Clickpath.Proofs.Record.Stored
import Mathlib.Data.List.Forall2

/-! # Tests and the clock

Of the supply, reading a stored test asks nothing but the clock, for the name of a screenshot that
was given none. Whenever a record is read, the same comes out but for such names.
-/

namespace Clickpath

variable {τ : Type} [Textual τ]

/-- A supply whose clock stands still. -/
def Supply.still (millis : Int) : Supply :=
  ⟨fun _ => "", fun _ => millis, ⟨1970, 1, 1, 0, 0, 0, 0, some 0, by decide⟩, 0, 0⟩

/-! ## The same but for generated names -/

/-- One outcome at two times: the same fault, or results that correspond. -/
def SameOutcome (same : α → α → Prop) : Except ε α → Except ε α → Prop
  | .ok a, .ok b => same a b
  | .error fault, .error other => fault = other
  | _, _ => False

def Step.SameAt (first second : Nat → Int) (a b : Step τ) : Prop :=
  a = b ∨ a.name = b.name ∧ ∃ i j,
    a.action = .screenshot (some (Textual.ofString (Designer.generatedName (first i)))) ∧
    b.action = .screenshot (some (Textual.ofString (Designer.generatedName (second j))))

def Test.SameAt (first second : Nat → Int) (a b : Test τ) : Prop :=
  List.Forall₂ (Step.SameAt first second) a.steps b.steps ∧ b = { a with steps := b.steps }

section

variable {first second : Nat → Int}

/-- A step is the same at two times at which the clock reads the same. -/
theorem Step.SameAt.eq (hclock : ∀ i j, first i = second j) {a b : Step τ}
    (h : a.SameAt first second b) : a = b := by
  rcases h with h | ⟨hname, i, j, ha, hb⟩
  · exact h
  · obtain ⟨name, action⟩ := a
    obtain ⟨other, action'⟩ := b
    simp only at hname ha hb
    rw [hname, ha, hb, hclock i j]

theorem Test.SameAt.eq (hclock : ∀ i j, first i = second j) {a b : Test τ}
    (h : a.SameAt first second b) : a = b := by
  obtain ⟨hsteps, hrest⟩ := h
  have hsame : a.steps = b.steps := by
    rw [← List.forall₂_eq_eq_eq]
    exact hsteps.imp fun _ _ hstep => hstep.eq hclock
  rw [hrest, ← hsame]

theorem Test.SameAt.id {a b : Test τ} (h : a.SameAt first second b) : a.id = b.id := by
  rw [h.2]

theorem Test.SameAt.created {a b : Test τ} (h : a.SameAt first second b) :
    a.created = b.created := by
  rw [h.2]

/-- Two outcomes are both results that correspond, or one and the same fault. -/
theorem SameOutcome.cases {same : α → α → Prop} {x y : Except ε α} (h : SameOutcome same x y) :
    (∃ a b, x = .ok a ∧ y = .ok b ∧ same a b) ∨ ∃ fault, x = .error fault ∧ y = .error fault := by
  cases x with
  | ok a =>
      cases y with
      | ok b => exact .inl ⟨a, b, rfl, rfl, h⟩
      | error fault => exact h.elim
  | error fault =>
      cases y with
      | ok b => exact h.elim
      | error other => exact .inr ⟨fault, rfl, congrArg Except.error (Eq.symm h)⟩

theorem SameOutcome.eq {same : α → α → Prop} (hsame : ∀ a b, same a b → a = b)
    {x y : Except ε α} (h : SameOutcome same x y) : x = y := by
  rcases h.cases with ⟨a, b, rfl, rfl, hab⟩ | ⟨fault, rfl, rfl⟩
  · rw [hsame a b hab]
  · rfl

theorem SameOutcome.mapError {same : α → α → Prop} {x y : Except ε α} (h : SameOutcome same x y)
    (f : ε → δ) : SameOutcome same (x.mapError f) (y.mapError f) := by
  rcases h.cases with ⟨a, b, rfl, rfl, hab⟩ | ⟨fault, rfl, rfl⟩
  · exact hab
  · exact rfl

end

namespace Record

/-! ## Computations at two times -/

/-- Two computations that come to the same at two times, and leave the clock as it is. -/
def Alike (first second : Nat → Int) (same : α → α → Prop) (m n : Supplied α) : Prop :=
  ∀ s t : Supply, s.millisAt = first → t.millisAt = second →
    SameOutcome same (m s).1 (n t).1 ∧ (m s).2.millisAt = first ∧ (n t).2.millisAt = second

section

variable {first second : Nat → Int}

theorem Alike.given {same : α → α → Prop} (hsame : ∀ a, same a a) (result : Except Fault α) :
    Alike first second same (given result) (given result) := by
  intro s t hs ht
  refine ⟨?_, hs, ht⟩
  cases result with
  | ok a => exact hsame a
  | error fault => rfl

theorem Alike.pure {same : α → α → Prop} {a b : α} (hsame : same a b) :
    Alike first second same (Pure.pure a) (Pure.pure b) :=
  fun _ _ hs ht => ⟨hsame, hs, ht⟩

theorem bind_run (m : Supplied α) (f : α → Supplied β) (s : Supply) :
    (m >>= f) s = match (m s).1 with
      | .ok a => f a (m s).2
      | .error fault => (.error fault, (m s).2) := by
  show ExceptT.bindCont f (m s).1 (m s).2 = _
  cases (m s).1 <;> rfl

/-- Two computations one after another come to the same at two times if each of them does. -/
theorem Alike.bind {same : α → α → Prop} {other : β → β → Prop} {m n : Supplied α}
    {f g : α → Supplied β} (hm : Alike first second same m n)
    (hf : ∀ a b, same a b → Alike first second other (f a) (g b)) :
    Alike first second other (m >>= f) (n >>= g) := by
  intro s t hs ht
  obtain ⟨hsame, hs', ht'⟩ := hm s t hs ht
  rw [bind_run, bind_run]
  rcases hsame.cases with ⟨a, b, hx, hy, hab⟩ | ⟨fault, hx, hy⟩ <;> rw [hx, hy]
  · exact hf a b hab _ _ hs' ht'
  · exact ⟨rfl, hs', ht'⟩

theorem Alike.given_bind {same : β → β → Prop} {f : α → Supplied β} (result : Except Fault α)
    (hf : ∀ a, Alike first second same (f a) (f a)) :
    Alike first second same (Record.given result >>= f) (Record.given result >>= f) :=
  (Alike.given (fun _ => rfl) result).bind fun a _ heq => heq ▸ hf a

theorem Alike.mapM {same : β → β → Prop} {f : α → Supplied β}
    (hf : ∀ a, Alike first second same (f a) (f a)) (items : List α) :
    Alike first second (List.Forall₂ same) (items.mapM f) (items.mapM f) := by
  induction items with
  | nil => exact Alike.pure .nil
  | cons item items ih =>
      rw [List.mapM_cons]
      exact (hf item).bind fun a b hab => ih.bind fun as bs hrest => Alike.pure (.cons hab hrest)

end

end Record

open Record

/-! ## Steps -/

namespace Designer

variable {first second : Nat → Int}

theorem isBlank_generatedName (millis : Int) : Text.isBlank (generatedName millis) = false := by
  simp [Text.isBlank, generatedName, Chars.isBlank, Chars.blankRanges]

/-- The entries of a screenshot that is given its name. -/
def screenshotEntries (name : Datum) (file : String) : List (Datum × Datum) :=
  [(.text "kind", .text "screenshot"), (.text "name", name), (.text "value", .text file)]

/-- A record of a capture with its name in it makes just this capture. -/
theorem stepOfKind_screenshot (name : Datum) {file : String} (hfile : Text.isBlank file = false) :
    (stepOfKind .screenshot (screenshotEntries name file) : Except Fault (Checked (Step τ))) =
      .ok ((stringField (screenshotEntries name file) "name" (some "")).map
        (⟨·, .screenshot (some (Textual.ofString file))⟩)) := by
  have hvalue : filled? (screenshotEntries name file) "value" = some (.text file) := by
    simp [screenshotEntries, filled?, Datum.lookup?_cons_text, Option.filter_some, Datum.isBlank,
      hfile]
  have hselector : filled? (screenshotEntries name file) "selector" = none := by
    simp [screenshotEntries, filled?, Datum.lookup?_cons_text, Datum.lookup?_nil]
  have hkind : repeatedKind .screenshot (screenshotEntries name file) = .ok () := by rfl
  have hfurther : noFurtherFields (screenshotEntries name file) = .ok () := by rfl
  unfold stepOfKind stepFields?
  rw [hvalue, hselector, hkind, hfurther]
  dsimp only
  cases (stringField (screenshotEntries name file) "name" (some "") : Checked τ) <;> rfl

theorem ofParts_screenshot (name : Datum) {file : String} (hfile : Text.isBlank file = false) :
    (Step.ofParts .screenshot name none (some (.text file)) : Except Fault (Step τ)) =
      Checked.orFault (Checked.under (.field "screenshot")
        ((Checked.under (.field "name") name.asText).map
          (⟨·, .screenshot (some (Textual.ofString file))⟩))) := by
  have hdatum : (Step.ofParts .screenshot name none (some (.text file)) : Except Fault (Step τ)) =
      (stepOfKind .screenshot (screenshotEntries name file) >>= fun step =>
        Checked.orFault (Checked.under (.field "screenshot") step)) := by rfl
  have hlookup : Datum.lookup? (screenshotEntries name file) "name" = some name := by
    simp [screenshotEntries, Datum.lookup?_cons_text]
  rw [hdatum, stepOfKind_screenshot name hfile]
  unfold stringField
  rw [hlookup]
  rfl

theorem alike_readClock {same : α → α → Prop} {f : Int → Supplied α}
    (hf : ∀ i j, Alike first second same (f (first i)) (f (second j))) :
    Alike first second same (readClock >>= f) (readClock >>= f) := by
  rintro s t rfl rfl
  exact hf s.readingsTaken t.readingsTaken _ _ rfl rfl

/-- A step that a designer recorded is built alike at two times: only a capture without a name asks
for the clock. -/
theorem alike_build (kind : StepKind) (name : Datum) (target strategy value : Option Datum) :
    Alike first second (Step.SameAt first second)
      (build kind name target strategy value : Supplied (Step τ))
      (build kind name target strategy value) := by
  have hself : ∀ s : Step τ, s.SameAt first second s := fun _ => .inl rfl
  unfold build
  split
  · exact Alike.given hself _
  · split
    · exact Alike.given hself _
    · -- Only here is the clock read, and its reading goes into the name and nowhere else.
      apply alike_readClock
      intro i j s t hs ht
      refine ⟨?_, hs, ht⟩
      simp only [given, ofParts_screenshot (τ := τ) name (isBlank_generatedName _)]
      cases (name.asText : Checked τ) with
      | error issues => rfl
      | ok shown => exact .inr ⟨rfl, i, j, rfl, rfl⟩
  · exact Alike.given_bind _ fun _ => Alike.given hself _

/-- A stored record is read as a step alike at two times. -/
theorem alike_readStep (record : Datum) :
    Alike first second (Step.SameAt first second) (readStep record : Supplied (Step τ))
      (readStep record) := by
  have hself : ∀ s : Step τ, s.SameAt first second s := fun _ => .inl rfl
  unfold readStep
  apply Alike.given_bind
  intro isStep
  split
  · exact Alike.given hself _
  · split
    · dsimp only
      split
      · exact Alike.given hself _
      · split
        · exact Alike.given hself _
        · exact alike_build _ _ _ _ _
    · exact Alike.given hself _

theorem alike_readSteps (entries : List (Datum × Datum)) :
    Alike first second (List.Forall₂ (Step.SameAt first second))
      (readSteps entries : Supplied (List (Step τ))) (readSteps entries) := by
  unfold readSteps
  split
  · exact Alike.pure .nil
  · exact Alike.given_bind _ fun items => Alike.mapM alike_readStep items

/-! ## Tests -/

omit [Textual τ] in
theorem assembleTest_steps (id name tool platform : Checked τ) (created : Checked Moment)
    (steps : List (Step τ)) :
    assembleTest id name (.ok steps) tool platform created =
      (assembleTest id name (.ok []) tool platform created).map fun t =>
        { t with steps := steps } := by
  cases id <;> cases name <;> cases tool <;> cases platform <;> cases created <;> rfl

/-- A record that names its identifier and its creation time leaves the supply as it is. -/
theorem ofEntriesWith_eq {entries : List (Datum × Datum)}
    (hid : (Datum.lookup? entries "id").isSome)
    (hcreated : (Datum.lookup? entries (nameInUse entries createdNames)).isSome) :
    ∃ (id name tool platform : Checked τ) (created : Checked Moment), ∀ steps : List (Step τ),
      Test.ofEntriesWith (.ok (.ok steps)) entries =
        given (Checked.orFault (assembleTest id name (.ok steps) tool platform created)) := by
  obtain ⟨id, hid⟩ := Option.isSome_iff_exists.mp hid
  obtain ⟨created, hcreated⟩ := Option.isSome_iff_exists.mp hcreated
  refine ⟨stringField entries "id" none, stringField entries "name" none,
    stringField entries (nameInUse entries toolNames) (some Test.defaultTool),
    stringField entries (nameInUse entries platformNames) (some Test.defaultPlatform),
    Checked.under (.field (nameInUse entries createdNames)) (momentOfDatum created), ?_⟩
  intro steps
  unfold Test.ofEntriesWith idField
  rw [hid]
  simp only [createdField, hcreated]
  rfl

theorem alike_ofEntriesWith {entries : List (Datum × Datum)}
    (hid : (Datum.lookup? entries "id").isSome)
    (hcreated : (Datum.lookup? entries (nameInUse entries createdNames)).isSome)
    {steps others : List (Step τ)} (hsteps : List.Forall₂ (Step.SameAt first second) steps others) :
    Alike first second (Test.SameAt first second) (Test.ofEntriesWith (.ok (.ok steps)) entries)
      (Test.ofEntriesWith (.ok (.ok others)) entries) := by
  obtain ⟨id, name, tool, platform, created, hwhole⟩ := ofEntriesWith_eq (τ := τ) hid hcreated
  rw [hwhole, hwhole, assembleTest_steps _ _ _ _ _ steps, assembleTest_steps _ _ _ _ _ others]
  intro s t hs ht
  refine ⟨?_, hs, ht⟩
  cases (assembleTest id name (.ok []) tool platform created : Checked (Test τ)) with
  | error issues => rfl
  | ok whole => exact ⟨hsteps, rfl⟩

theorem alike_readTest {entries : List (Datum × Datum)}
    (hid : (Datum.lookup? entries "id").isSome)
    (hcreated : (Datum.lookup? entries (nameInUse entries createdNames)).isSome) :
    Alike first second (Test.SameAt first second) (readTest entries : Supplied (Test τ))
      (readTest entries) := by
  unfold readTest
  apply (alike_readSteps entries).bind
  intro steps others hsteps
  exact alike_ofEntriesWith hid hcreated hsteps

end Designer

end Clickpath
