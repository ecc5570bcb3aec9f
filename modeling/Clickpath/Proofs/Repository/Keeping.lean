import Clickpath.Proofs.Repository.Scanning
import Clickpath.Repository.Memory

/-! # Tests kept in memory

What is kept when tests are saved one after the other: one test for each identifier, the last that
was saved with it, in the order in which the identifiers first came up. A scan of files keeps the
tests of the files in the same way.
-/

namespace Clickpath.Repository

variable {τ : Type} [DecidableEq τ]

/-- What is kept of tests that were saved one after the other. -/
structure Kept (saved stored : List (Test τ)) : Prop where
  ids : stored.map (·.id) = (saved.map (·.id)).eraseDups
  last : ∀ id, stored.find? (·.id == id) = (saved.filter (·.id == id)).getLast?

/-! ## Entering tests -/

/-- Entering a file with its test enters the test. -/
theorem map_test_enter (new : Found τ) (found : List (Found τ)) :
    (new.enter found).map (·.test) = Memory.enter new.test (found.map (·.test)) := by
  induction found with
  | nil => rfl
  | cons old rest ih =>
      unfold Found.enter
      rw [List.map_cons, Memory.enter]
      split
      · rfl
      · rw [List.map_cons, ih]

namespace Memory

/-- A test that is entered is found under its identifier, and no other answer changes. -/
theorem find?_enter (test : Test τ) (tests : List (Test τ)) (id : τ) :
    (enter test tests).find? (·.id == id) =
      if test.id = id then some test else tests.find? (·.id == id) := by
  -- Tests are entered as if each had a file.
  have hmap : tests = (tests.map fun t => (⟨t, ""⟩ : Found τ)).map (·.test) := by
    simp [Function.comp_def]
  rw [hmap, ← map_test_enter ⟨test, ""⟩, List.find?_map, List.find?_map]
  simp only [Function.comp_def, Repository.find?_enter]
  split <;> rfl

/-- Entering a test adds its identifier at the end unless it is there. -/
theorem ids_enter (test : Test τ) (tests : List (Test τ)) :
    (enter test tests).map (·.id) =
      if test.id ∈ tests.map (·.id) then tests.map (·.id) else tests.map (·.id) ++ [test.id] := by
  induction tests with
  | nil => rfl
  | cons old rest ih =>
      unfold enter
      by_cases hold : old.id = test.id
      · simp [hold]
      · rw [if_neg hold, List.map_cons, ih]
        have hne : test.id ≠ old.id := Ne.symm hold
        by_cases hmem : test.id ∈ rest.map (·.id)
        · simp [hmem]
        · simp [hmem, hne]

theorem eraseDups_concat (ids : List τ) (id : τ) :
    (ids ++ [id]).eraseDups = if id ∈ ids then ids.eraseDups else ids.eraseDups ++ [id] := by
  rw [List.eraseDups_append]
  by_cases hmem : id ∈ ids
  · simp [List.removeAll, hmem]
  · simp [List.removeAll, hmem, List.eraseDups_cons]

/-- Saving one more test keeps it in the place of the one with its identifier. -/
theorem kept_enter {saved stored : List (Test τ)} (h : Kept saved stored) (test : Test τ) :
    Kept (saved ++ [test]) (enter test stored) := by
  constructor
  · rw [ids_enter, List.map_append, List.map_singleton, eraseDups_concat, h.ids]
    simp only [List.mem_eraseDups]
  · intro id
    rw [find?_enter, List.filter_append, h.last]
    by_cases hid : test.id = id
    · simp [hid]
    · simp [hid]

theorem kept_foldl {saved stored : List (Test τ)} (h : Kept saved stored) (tests : List (Test τ)) :
    Kept (saved ++ tests) (tests.foldl save ⟨stored⟩).tests := by
  induction tests generalizing saved stored with
  | nil => rwa [List.append_nil]
  | cons test rest ih =>
      rw [List.append_cons]
      exact ih (kept_enter h test)

/-- What a memory holds after tests were saved one after the other. -/
theorem kept_of_empty (saved : List (Test τ)) : Kept saved (saved.foldl save empty).tests := by
  have hnone : Kept (τ := τ) [] [] := ⟨rfl, fun _ => rfl⟩
  exact kept_foldl hnone saved

end Memory

/-! ## Scans -/

variable [Textual τ]

/-- The test was loaded from the file while the clock gave these readings. -/
def LoadedFrom (format : Format) (disk : Disk) (readings : Nat → Int) (path : String)
    (test : Test τ) : Prop :=
  Found.LoadedAt format disk readings ⟨test, path⟩

namespace Directory

variable {r : Directory} {disk : Disk}

/-- A scan saves the tests of the files that can be loaded, one after the other. -/
theorem Scans.saves {format : Format} {readings : Nat → Int} {paths : List String}
    {found tests : List (Found τ)} (hscan : Scans format disk readings found paths (.ok tests)) :
    ∃ loaded, List.Forall₂ (LoadedFrom format disk readings)
        (paths.filter fun path => (idIn (τ := τ) format disk path).isOk) loaded ∧
      tests.map (·.test) = (loaded.foldl Memory.save ⟨found.map (·.test)⟩).tests := by
  generalize hresult : Except.ok tests = result at hscan
  induction hscan with
  | done =>
      cases hresult
      exact ⟨[], .nil, rfl⟩
  | @loaded _ _ _ test _ hload _ ih =>
      obtain ⟨loaded, hloaded, htests⟩ := ih hresult
      refine ⟨test :: loaded, ?_, ?_⟩
      · rw [List.filter_cons_of_pos (by rw [hload.idIn]; rfl)]
        exact .cons hload hloaded
      · rw [htests, map_test_enter]
        rfl
  | passed hid _ _ ih =>
      obtain ⟨loaded, hloaded, htests⟩ := ih hresult
      refine ⟨loaded, ?_, htests⟩
      rwa [List.filter_cons_of_neg (by rw [hid]; exact Bool.false_ne_true)]
  | ended => cases hresult

theorem scan_kept {tests : List (Found τ)} {supply : Supply}
    (h : (r.scan disk supply).result = .ok tests) :
    ∃ loaded, List.Forall₂ (LoadedFrom r.format disk supply.millisAt)
        ((r.files disk).filter fun path => (idIn (τ := τ) r.format disk path).isOk) loaded ∧
      Kept loaded (tests.map (·.test)) := by
  obtain ⟨loaded, hloaded, htests⟩ := (Scans.of_scanFiles h).saves
  refine ⟨loaded, hloaded, ?_⟩
  rw [htests]
  exact Memory.kept_of_empty loaded

end Directory

end Clickpath.Repository
