import Clickpath.Proofs.Record.Clock

/-! # Tests and what they draw

A record that names no identifier draws one from the supply, as a screenshot without a name draws on
the clock. The same record comes to the same fault whenever it is read, or to the same test but for
what was drawn.
-/

namespace Clickpath

variable {τ : Type} [Textual τ]

/-- A supply at a later time: more of it may be taken. -/
structure Supply.Continues (later s : Supply) : Prop where
  idAt : later.idAt = s.idAt
  millisAt : later.millisAt = s.millisAt
  now : later.now = s.now

theorem Supply.Continues.refl (s : Supply) : s.Continues s := ⟨rfl, rfl, rfl⟩

theorem Supply.Continues.trans {first second third : Supply} (h : first.Continues second)
    (h' : second.Continues third) : first.Continues third :=
  ⟨h.idAt.trans h'.idAt, h.millisAt.trans h'.millisAt, h.now.trans h'.now⟩

/-- Two supplies with the same readings of the clock to come. -/
def Supply.SameClock (s t : Supply) : Prop :=
  ∀ n, s.millisAt (s.readingsTaken + n) = t.millisAt (t.readingsTaken + n)

/-- One test read from two supplies: it is the same but for what was drawn from them. -/
structure Test.Redrawn (s t : Supply) (a b : Test τ) : Prop where
  id : a.id = b.id ∨ ∃ i j, a.id = Textual.ofString (s.idAt i) ∧ b.id = Textual.ofString (t.idAt j)
  name : a.name = b.name
  steps : List.Forall₂ (Step.SameAt s.millisAt t.millisAt) a.steps b.steps
  tool : a.tool = b.tool
  platform : a.platform = b.platform
  created : a.created = b.created ∨ a.created = s.now ∧ b.created = t.now

theorem SameOutcome.map {same : α → α → Prop} {other : β → β → Prop} {x y : Except ε α}
    {f : α → β} (h : SameOutcome same x y) (hf : ∀ a b, same a b → other (f a) (f b)) :
    SameOutcome other (x.map f) (y.map f) := by
  rcases h.cases with ⟨a, b, rfl, rfl, hab⟩ | ⟨fault, rfl, rfl⟩
  · exact hf a b hab
  · exact rfl

/-- Parts that correspond one by one correspond together. -/
theorem SameOutcome.both {same : α → α → Prop} {other : β → β → Prop} {x x' : Record.Checked α}
    {y y' : Record.Checked β} (h : SameOutcome same x x') (h' : SameOutcome other y y') :
    SameOutcome (fun p q => same p.1 q.1 ∧ other p.2 q.2) (Record.Checked.both x y)
      (Record.Checked.both x' y') := by
  rcases h.cases with ⟨a, b, rfl, rfl, hab⟩ | ⟨issues, rfl, rfl⟩
  · rcases h'.cases with ⟨c, d, rfl, rfl, hcd⟩ | ⟨more, rfl, rfl⟩
    · exact ⟨hab, hcd⟩
    · exact rfl
  · rcases h'.cases with ⟨c, d, rfl, rfl, hcd⟩ | ⟨more, rfl, rfl⟩ <;> exact rfl

theorem SameOutcome.of_eq {same : α → α → Prop} (hsame : ∀ a, same a a) (x : Except ε α) :
    SameOutcome same x x := by
  cases x with
  | ok a => exact hsame a
  | error fault => rfl

namespace Record

/-! ## Drawing -/

/-- A property that a computation has if its steps have it. -/
structure Stepwise (holds : ∀ {α : Type}, Supplied α → Prop) : Prop where
  given : ∀ {α : Type} (result : Except Fault α), holds (given result)
  readClock : holds readClock
  bind : ∀ {α β : Type} {m : Supplied α} {f : α → Supplied β}, holds m → (∀ a, holds (f a)) →
    holds (m >>= f)

theorem Stepwise.mapM {holds : ∀ {α : Type}, Supplied α → Prop} (h : Stepwise holds)
    {f : α → Supplied β} (hf : ∀ a, holds (f a)) (items : List α) : holds (items.mapM f) := by
  induction items with
  | nil => exact h.given (.ok [])
  | cons item items ih =>
      rw [List.mapM_cons]
      exact h.bind (hf item) fun step => h.bind ih fun steps => h.given (.ok (step :: steps))

/-- A computation that takes from the supply and changes nothing else in it. -/
def Draws (m : Supplied α) : Prop := ∀ s : Supply, (m s).2.Continues s

theorem stepwise_draws : Stepwise Draws where
  given _ := .refl
  readClock _ := ⟨rfl, rfl, rfl⟩
  bind {_ _ m f} hm hf s := by
    rw [bind_run]
    cases (m s).1 with
    | ok a => exact (hf a _).trans (hm s)
    | error fault => exact hm s

/-- A computation that asks the supply for nothing but the clock. -/
def AsksClock (m : Supplied α) : Prop :=
  ∀ s t : Supply, s.SameClock t → (m s).1 = (m t).1 ∧ (m s).2.SameClock (m t).2

/-- A computation asks for nothing but the clock if its steps do. -/
theorem stepwise_asksClock : Stepwise AsksClock where
  given _ _ _ h := ⟨rfl, h⟩
  readClock s t h := by
    refine ⟨congrArg Except.ok (h 0), fun n => ?_⟩
    show s.millisAt (s.readingsTaken + 1 + n) = t.millisAt (t.readingsTaken + 1 + n)
    rw [Nat.add_assoc, Nat.add_assoc, Nat.add_comm 1 n]
    exact h (n + 1)
  bind {_ _ m f} hm hf s t h := by
    obtain ⟨hsame, hclock⟩ := hm s t h
    rw [bind_run, bind_run, ← hsame]
    cases (m s).1 with
    | ok a => exact hf a _ _ hclock
    | error fault => exact ⟨rfl, hclock⟩

end Record

open Record

namespace Designer

section

variable {holds : ∀ {α : Type}, Supplied α → Prop}

/-- Building a step has every property that a computation has if its steps have it. -/
theorem build_of_stepwise (h : Stepwise holds) (kind : StepKind) (name : Datum)
    (target strategy value : Option Datum) :
    holds (build kind name target strategy value : Supplied (Step τ)) := by
  unfold build
  split
  · exact h.given _
  · split
    · exact h.given _
    · exact h.bind h.readClock fun _ => h.given _
  · exact h.bind (h.given _) fun _ => h.given _

/-- Reading a step has every property that a computation has if its steps have it. -/
theorem readStep_of_stepwise (h : Stepwise holds) (record : Datum) :
    holds (readStep record : Supplied (Step τ)) := by
  unfold readStep
  apply h.bind (h.given _)
  intro isStep
  split
  · exact h.given _
  · split
    · dsimp only
      split
      · exact h.given _
      · split
        · exact h.given _
        · exact build_of_stepwise h _ _ _ _ _
    · exact h.given _

theorem readSteps_of_stepwise (h : Stepwise holds) (entries : List (Datum × Datum)) :
    holds (readSteps entries : Supplied (List (Step τ))) := by
  unfold readSteps
  split
  · exact h.given (.ok [])
  · exact h.bind (h.given _) fun items => h.mapM (readStep_of_stepwise h) items

end

/-! ## Reading -/

/-- The identifier of a record, drawn if it names none. -/
def idFrom (entries : List (Datum × Datum)) (s : Supply) : Checked τ :=
  match Datum.lookup? entries "id" with
  | none => .ok (Textual.ofString (s.idAt s.idsTaken))
  | some _ => stringField entries "id" none

theorem ofEntriesWith_run (entries : List (Datum × Datum)) (steps : List (Step τ)) (s : Supply) :
    (Test.ofEntriesWith (.ok (.ok steps)) entries s).1 =
        Checked.orFault (assembleTest (idFrom entries s) (stringField entries "name" none)
          (.ok steps) (stringField entries (nameInUse entries toolNames) (some Test.defaultTool))
          (stringField entries (nameInUse entries platformNames) (some Test.defaultPlatform))
          (createdField entries s.now)) ∧
      (Test.ofEntriesWith (.ok (.ok steps)) entries s).2.Continues s := by
  unfold Test.ofEntriesWith idField idFrom
  cases Datum.lookup? entries "id" with
  | none => exact ⟨rfl, rfl, rfl, rfl⟩
  | some d => exact ⟨rfl, rfl, rfl, rfl⟩

theorem draws_readTest (entries : List (Datum × Datum)) :
    Draws (readTest entries : Supplied (Test τ)) :=
  stepwise_draws.bind (readSteps_of_stepwise stepwise_draws entries) fun steps s =>
    (ofEntriesWith_run entries steps s).2

theorem idFrom_redrawn (entries : List (Datum × Datum)) {s t s' t' : Supply}
    (hs : s'.Continues s) (ht : t'.Continues t) :
    SameOutcome
      (fun a b => a = b ∨ ∃ i j, a = Textual.ofString (s.idAt i) ∧ b = Textual.ofString (t.idAt j))
      (idFrom (τ := τ) entries s') (idFrom entries t') := by
  unfold idFrom
  split
  · exact .inr ⟨s'.idsTaken, t'.idsTaken, by rw [hs.idAt], by rw [ht.idAt]⟩
  · exact .of_eq (fun _ => .inl rfl) _

theorem createdField_redrawn (entries : List (Datum × Datum)) (now later : Moment) :
    SameOutcome (fun a b => a = b ∨ a = now ∧ b = later) (createdField entries now)
      (createdField entries later) := by
  unfold createdField
  dsimp only
  split
  · exact .inr ⟨rfl, rfl⟩
  · exact .of_eq (fun _ => .inl rfl) _

/-- Reading a record comes to the same from two supplies, but for what is drawn from them. -/
theorem readTest_redrawn (entries : List (Datum × Datum)) (s t : Supply) :
    SameOutcome (Test.Redrawn (τ := τ) s t) (readTest entries s).1 (readTest entries t).1 := by
  have hsteps := (alike_readSteps (τ := τ) entries s t rfl rfl).1
  have hs := readSteps_of_stepwise (τ := τ) stepwise_draws entries s
  have ht := readSteps_of_stepwise (τ := τ) stepwise_draws entries t
  unfold readTest
  rw [bind_run, bind_run]
  rcases hsteps.cases with ⟨steps, others, hx, hy, hsame⟩ | ⟨fault, hx, hy⟩ <;> rw [hx, hy]
  · simp only [(ofEntriesWith_run (τ := τ) entries _ _).1, hs.now, ht.now]
    have hself : ∀ part : Checked τ, SameOutcome Eq part part := .of_eq fun _ => rfl
    refine (((idFrom_redrawn entries hs ht).both ((hself _).both
      ((show SameOutcome _ (.ok steps) (.ok others) from hsame).both ((hself _).both
        ((hself _).both (createdField_redrawn entries s.now t.now)))))).map ?_).mapError _
    rintro a b ⟨hid, hname, hsteps, htool, hplatform, hcreated⟩
    exact ⟨hid, hname, hsteps, htool, hplatform, hcreated⟩
  · rfl

end Designer

end Clickpath
