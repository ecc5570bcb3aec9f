import Clickpath.Proofs.Record.Drawn
import Clickpath.Repository.Backend

/-! # Entries of a listing

What becomes of the entries that a backend lists. Those that can be converted give a test each, in
their order, and the others none; whether an entry is one of them, or ends the listing, does not
depend on the supply.
-/

namespace Clickpath

open Record

variable {τ : Type} [Textual τ]

theorem Test.Redrawn.of_continues {s t s' t' : Supply} {a b : Test τ} (h : a.Redrawn s' t' b)
    (hs : s'.Continues s) (ht : t'.Continues t) : a.Redrawn s t b := by
  obtain ⟨hid, hname, hsteps, htool, hplatform, hcreated⟩ := h
  rw [hs.idAt, ht.idAt] at hid
  rw [hs.millisAt, ht.millisAt] at hsteps
  rw [hs.now, ht.now] at hcreated
  exact ⟨hid, hname, hsteps, htool, hplatform, hcreated⟩

namespace Repository.Backend

/-- The entry is a record that was read as a test at some later time. -/
def ReadAs (s : Supply) (item : Datum) (test : Test τ) : Prop :=
  ∃ fields later, item = .map fields ∧ later.Continues s ∧
    (Designer.readTest fields later).1 = .ok test

theorem ReadAs.of_continues {s later : Supply} {item : Datum} {test : Test τ}
    (h : ReadAs later item test) (hlater : later.Continues s) : ReadAs s item test := by
  obtain ⟨fields, last, hitem, hlast, hread⟩ := h
  exact ⟨fields, last, hitem, hlast.trans hlater, hread⟩

/-- Two readings of one entry differ only in what was drawn for them. -/
theorem ReadAs.redrawn {s t : Supply} {item : Datum} {a b : Test τ} (h : ReadAs s item a)
    (h' : ReadAs t item b) : a.Redrawn s t b := by
  obtain ⟨fields, s', rfl, hs, hread⟩ := h
  obtain ⟨others, t', heq, ht, hread'⟩ := h'
  cases heq
  have hsame := Designer.readTest_redrawn (τ := τ) fields s' t'
  rw [hread, hread'] at hsame
  exact Test.Redrawn.of_continues hsame hs ht

/-- Whether an entry can be converted, or why not, as long as it is a record at all. It is read when
nothing was drawn yet, which stands for any time. -/
def outcome? : Datum → Option (Except Fault Unit)
  | .map fields =>
      some (((Designer.readTest (τ := τ) fields (.still 0)).1.mapError .record).map fun _ => ())
  | _ => none

/-- The entry can be converted into a test. -/
def converts (item : Datum) : Bool :=
  match outcome? (τ := τ) item with
  | some (.ok ()) => true
  | _ => false

/-- The entry does not end a listing. -/
def Passable (item : Datum) : Prop :=
  ∀ fault, outcome? (τ := τ) item = some (.error fault) → fault.isOfOneTest = true

theorem outcome?_map (fields : List (Datum × Datum)) (s : Supply) :
    outcome? (τ := τ) (.map fields) =
      some (((Designer.readTest (τ := τ) fields s).1.mapError .record).map fun _ => ()) := by
  have hsame := Designer.readTest_redrawn (τ := τ) fields (.still 0) s
  simp only [outcome?]
  rcases hsame.cases with ⟨a, b, hx, hy, _⟩ | ⟨fault, hx, hy⟩
  · rw [hx, hy]
    rfl
  · rw [hx, hy]

theorem converts_of_ok {item : Datum} (h : outcome? (τ := τ) item = some (.ok ())) :
    converts (τ := τ) item = true ∧ Passable (τ := τ) item := by
  refine ⟨?_, fun fault hfault => ?_⟩
  · rw [converts, h]
  · cases h.symm.trans hfault

/-- An entry with a fault is not converted, and the fault tells whether it can be passed over. -/
theorem not_converts_of_error {item : Datum} {fault : Fault}
    (h : outcome? (τ := τ) item = some (.error fault)) :
    converts (τ := τ) item = false ∧ (Passable (τ := τ) item ↔ fault.isOfOneTest = true) := by
  refine ⟨?_, fun hpassable => hpassable fault h, fun hone other hother => ?_⟩
  · rw [converts, h]
  · cases h.symm.trans hother
    exact hone

/-! ## One entry -/

/-- An entry gives a test, or is passed over, or ends the listing. -/
theorem readEntries_cons (tests : List (Test τ)) (skipped : List Datum) (item : Datum)
    (rest : List Datum) (s : Supply) :
    (∃ (test : Test τ) (later : Supply), ReadAs s item test ∧ later.Continues s ∧
      converts (τ := τ) item = true ∧
        Passable (τ := τ) item ∧
        readEntries tests skipped (item :: rest) s =
          readEntries (tests ++ [test]) skipped rest later) ∨
      (∃ name later, later.Continues s ∧ converts (τ := τ) item = false ∧ Passable (τ := τ) item ∧
        readEntries tests skipped (item :: rest) s =
          readEntries tests (skipped ++ [name]) rest later) ∨
      ∃ fault, fault.isOfOneTest = false ∧ ¬Passable (τ := τ) item ∧
        (readEntries tests skipped (item :: rest) s).result = .error fault := by
  cases item with
  | map fields =>
      have houtcome := outcome?_map (τ := τ) fields s
      have hdraws := Designer.draws_readTest (τ := τ) fields s
      rw [readEntries]
      cases hread : Designer.readTest (τ := τ) fields s with
      | mk result later =>
          rw [hread] at houtcome hdraws
          cases result with
          | ok test =>
              obtain ⟨hconverts, hpassable⟩ := converts_of_ok houtcome
              exact .inl ⟨test, later, ⟨fields, s, rfl, .refl s, by rw [hread]⟩, hdraws, hconverts,
                hpassable, rfl⟩
          | error cause =>
              obtain ⟨hconverts, hpassable⟩ := not_converts_of_error houtcome
              by_cases hone : (Fault.record cause).isOfOneTest = true
              · refine .inr (.inl ⟨entryName fields, later, hdraws, hconverts,
                  hpassable.mpr hone, ?_⟩)
                simp only [if_pos hone]
              · refine .inr (.inr ⟨.record cause, Bool.eq_false_iff.mpr hone,
                  mt hpassable.mp hone, ?_⟩)
                simp only [if_neg hone]
  | _ => exact .inr (.inl ⟨_, s, .refl s, rfl, nofun, rfl⟩)

/-! ## All entries -/

/-- A listing that ends met no fault but those of single tests, and read what can be converted. -/
theorem readEntries_ok {items : List Datum} {tests all : List (Test τ)} {skipped : List Datum}
    {s : Supply} (h : (readEntries tests skipped items s).result = .ok all) :
    (∀ item ∈ items, Passable (τ := τ) item) ∧
      ∃ read, all = tests ++ read ∧
        List.Forall₂ (ReadAs s) (items.filter (converts (τ := τ))) read := by
  induction items generalizing tests skipped s with
  | nil =>
      cases h
      exact ⟨List.forall_mem_nil _, [], (List.append_nil _).symm, .nil⟩
  | cons item rest ih =>
      rcases readEntries_cons tests skipped item rest s with
        ⟨test, later, hread, hlater, hconverts, hpassable, hcons⟩ |
          ⟨name, later, hlater, hconverts, hpassable, hcons⟩ | ⟨fault, _, _, hfault⟩
      · rw [hcons] at h
        obtain ⟨hrest, read, rfl, hall⟩ := ih h
        refine ⟨List.forall_mem_cons.mpr ⟨hpassable, hrest⟩, test :: read, by simp, ?_⟩
        rw [List.filter_cons_of_pos hconverts]
        exact .cons hread (hall.imp fun _ _ hlast => hlast.of_continues hlater)
      · rw [hcons] at h
        obtain ⟨hrest, read, rfl, hall⟩ := ih h
        refine ⟨List.forall_mem_cons.mpr ⟨hpassable, hrest⟩, read, rfl, ?_⟩
        rw [List.filter_cons_of_neg (by simp [hconverts])]
        exact hall.imp fun _ _ hlast => hlast.of_continues hlater
      · cases hfault.symm.trans h

/-- Entries that end no listing are all listed or passed over. -/
theorem readEntries_total {items : List Datum} (tests : List (Test τ)) (skipped : List Datum)
    (s : Supply) (hitems : ∀ item ∈ items, Passable (τ := τ) item) :
    ∃ all, (readEntries tests skipped items s).result = .ok all := by
  induction items generalizing tests skipped s with
  | nil => exact ⟨tests, rfl⟩
  | cons item rest ih =>
      obtain ⟨hitem, hrest⟩ := List.forall_mem_cons.mp hitems
      rcases readEntries_cons tests skipped item rest s with
        ⟨test, later, _, _, _, _, hcons⟩ | ⟨name, later, _, _, _, hcons⟩ | ⟨fault, _, hends, _⟩
      · rw [hcons]
        exact ih _ _ _ hrest
      · rw [hcons]
        exact ih _ _ _ hrest
      · exact absurd hitem hends

/-- A listing ends at an entry whose fault is not its own. -/
theorem readEntries_error {items : List Datum} {tests : List (Test τ)} {skipped : List Datum}
    {s : Supply} {fault : Fault} (h : (readEntries tests skipped items s).result = .error fault) :
    fault.isOfOneTest = false := by
  induction items generalizing tests skipped s with
  | nil => cases h
  | cons item rest ih =>
      rcases readEntries_cons tests skipped item rest s with
        ⟨test, later, _, _, _, _, hcons⟩ | ⟨name, later, _, _, _, hcons⟩ |
          ⟨other, hother, _, hfault⟩
      · rw [hcons] at h
        exact ih h
      · rw [hcons] at h
        exact ih h
      · cases hfault.symm.trans h
        exact hother

theorem passable_of_converts {item : Datum} (h : converts (τ := τ) item = true) :
    Passable (τ := τ) item := by
  intro fault hfault
  unfold converts at h
  rw [hfault] at h
  cases h

end Repository.Backend

end Clickpath
