import Clickpath.Proofs.Repository.Visiting

/-! # Finding saved tests

Whether a test that was saved is found again. It is if a scan comes to the file to which it was
written, as the last file with its identifier is the one to which it is written.
-/

namespace Clickpath.Repository.Directory

open Wildcard

variable {τ : Type} [Textual τ] {r : Directory} {disk : Disk}

/-! ## Answers after saving -/

theorem file_withTest {test : Test τ} {place : Location}
    (hplace : disk.entryAt? place ≠ some .directory) {path : String}
    (hpath : disk.locate path = .ok place) :
    (r.withTest disk place test).file path = .ok (written r.format test disk.present) := by
  have hlocate : (r.withTest disk place test).locate path = .ok place :=
    ((Disk.differ_put _ hplace).locate_iff path place).mpr hpath
  have hentry : (r.withTest disk place test).entryAt? place =
      some (.file (written r.format test disk.present)) := by
    rw [entryAt?_withTest hplace, if_pos rfl]
  unfold Disk.file
  rw [hlocate]
  simp only [hentry]

variable [DecidableEq τ]

/-- A test is found exactly if there is a file that holds it. -/
theorem get_isOk_iff {tests : List (Found τ)} {supply : Supply} (id : τ)
    (hscan : (r.scan disk supply).result = .ok tests) :
    (∃ found, (r.get disk id supply).result = .ok found) ↔
      ∃ path ∈ r.files disk, holds r.format disk id path = true := by
  have hpath := find?_of_scan hscan id
  rw [get_of_scan id hscan]
  cases hfound : tests.find? (·.test.id == id) with
  | none =>
      rw [hfound, Option.map_none, eq_comm, List.getLast?_eq_none_iff,
        List.filter_eq_nil_iff] at hpath
      refine iff_of_false ?_ ?_
      · rintro ⟨found, hanswer⟩
        cases hanswer
      · rintro ⟨path, hmem, hheld⟩
        exact hpath path hmem hheld
  | some f =>
      obtain ⟨hmem, hid⟩ := mem_files_of_find? hscan hfound
      exact iff_of_true ⟨f.test, rfl⟩ ⟨f.path, hmem, holds_iff.mpr hid⟩

/-- Behind a test that was written, another is held by a file at another place or by the same
file. -/
theorem apart_or_locate {test : Test τ} {place : Location}
    (hplace : disk.entryAt? place ≠ some .directory) {path : String} {id : τ}
    (hheld : holds r.format (r.withTest disk place test) id path = true) :
    disk.apart place path = true ∨ disk.locate path = .ok place := by
  obtain ⟨other, hother⟩ := locate_of_holds hheld
  have hpath : disk.locate path = .ok other :=
    ((Disk.differ_put _ hplace).locate_iff path other).mp hother
  by_cases hsame : other = place
  · exact .inr (hsame ▸ hpath)
  · left
    unfold Disk.apart
    rw [hpath]
    exact decide_eq_true hsame

theorem holds_withTest_of_apart {test : Test τ} {place : Location}
    (hplace : disk.entryAt? place ≠ some .directory) {id : τ} {path : String}
    (hapart : disk.apart place path = true) :
    holds r.format (r.withTest disk place test) id path = holds r.format disk id path := by
  unfold holds
  rw [idIn_withTest_of_apart hplace hapart]

theorem pathFor_eq {tests : List (Found τ)} {supply : Supply} {id : τ} {path : String}
    (hscan : (r.scan disk supply).result = .ok tests)
    (hlast : ((r.files disk).filter (holds r.format disk id)).getLast? = some path) :
    r.pathFor tests id = path := by
  have hpath := find?_of_scan hscan id
  rw [hlast] at hpath
  obtain ⟨f, hfound, rfl⟩ := Option.map_eq_some_iff.mp hpath
  exact pathFor_of_find? hfound

theorem le_of_getLast? {paths : List String} (hordered : paths.Pairwise (· ≤ ·))
    {last path : String} (hlast : paths.getLast? = some last) (hpath : path ∈ paths) :
    path ≤ last := by
  obtain ⟨before, rfl⟩ := List.getLast?_eq_some_iff.mp hlast
  obtain ⟨_, _, hbefore⟩ := List.pairwise_append.mp hordered
  rcases List.mem_append.mp hpath with hmem | hmem
  · exact hbefore path hmem last (List.mem_singleton_self last)
  · obtain rfl := List.mem_singleton.mp hmem
    exact String.le_refl path

section

variable {test : Test τ} {place : Location} (hsound : disk.Sound) (hnamed : disk.Named)
  (hformat : r.format.Restores test.toDatum) {tests : List (Found τ)} {during : Supply}
  (hscan : (r.scan disk during).result = .ok tests)
  (hlocate : disk.locate (r.pathFor tests test.id) = .ok place)
  (hplace : disk.entryAt? place ≠ some .directory)

include hformat hplace

theorem holds_written_iff {path : String} (hpath : disk.locate path = .ok place) :
    holds r.format (r.withTest disk place test) test.id path = true ↔
      ∃ again, test.reread = .ok again := by
  unfold holds
  rw [idIn_written hformat (file_withTest hplace hpath)]
  cases hread : test.reread with
  | ok again => simp [mapError_ok, Except.map, Test.id_reread hread]
  | error fault => simp [mapError_error, Except.map]

include hsound hlocate

omit hformat in
theorem mem_files_of_apart {path : String} (hapart : disk.apart place path = true) :
    path ∈ r.files (r.withTest disk place test) ↔ path ∈ r.files disk := by
  have hfiles : (r.files (r.withTest disk place test)).filter (disk.apart place) =
      (r.files disk).filter (disk.apart place) := files_withTest hsound hplace hlocate
  have hmem := congrArg (path ∈ ·) hfiles
  simpa [List.mem_filter, hapart] using hmem

include hnamed

/-- Behind a write, a test is held by a file elsewhere or by the one that was written, if a scan
comes to it. -/
theorem exists_holds_withTest :
    (∃ path ∈ r.files (r.withTest disk place test),
        holds r.format (r.withTest disk place test) test.id path = true) ↔
      (∃ path ∈ r.files disk, disk.apart place path = true ∧
        holds r.format disk test.id path = true) ∨
      (∃ again, test.reread = .ok again) ∧ r.Visited disk place := by
  constructor
  · rintro ⟨path, hpath, hheld⟩
    rcases apart_or_locate hplace hheld with hapart | hleads
    · rw [holds_withTest_of_apart hplace hapart] at hheld
      exact .inl ⟨path, (mem_files_of_apart hsound hlocate hplace hapart).mp hpath, hapart, hheld⟩
    · exact .inr ⟨(holds_written_iff hformat hplace hleads).mp hheld, path,
        (mem_files_withTest test hsound hplace hlocate hnamed path).mp ⟨hpath, hleads⟩⟩
  · rintro (⟨path, hpath, hapart, hheld⟩ | ⟨hread, path, hvisited⟩)
    · refine ⟨path, (mem_files_of_apart hsound hlocate hplace hapart).mpr hpath, ?_⟩
      rwa [holds_withTest_of_apart hplace hapart]
    · obtain ⟨hpath, hleads⟩ :=
        (mem_files_withTest test hsound hplace hlocate hnamed path).mpr hvisited
      exact ⟨path, hpath, (holds_written_iff hformat hplace hleads).mpr hread⟩

include hscan

/-- The last of the files that hold the identifier after saving is the written one: a later one
would have been written instead. -/
theorem last_withTest (hread : ∃ again, test.reread = .ok again) (hvisited : r.Visited disk place) :
    ∃ last, ((r.files (r.withTest disk place test)).filter
        (holds r.format (r.withTest disk place test) test.id)).getLast? = some last ∧
      disk.locate last = .ok place := by
  obtain ⟨path, hvisitedBy⟩ := hvisited
  obtain ⟨hpath, hleads⟩ :=
    (mem_files_withTest test hsound hplace hlocate hnamed path).mpr hvisitedBy
  have hmem : path ∈ (r.files (r.withTest disk place test)).filter
      (holds r.format (r.withTest disk place test) test.id) :=
    List.mem_filter.mpr ⟨hpath, (holds_written_iff hformat hplace hleads).mpr hread⟩
  obtain ⟨last, hlast⟩ : ∃ last, ((r.files (r.withTest disk place test)).filter
      (holds r.format (r.withTest disk place test) test.id)).getLast? = some last :=
    ⟨_, List.getLast?_eq_some_getLast (List.ne_nil_of_mem hmem)⟩
  refine ⟨last, hlast, ?_⟩
  obtain ⟨hlastListed, hlastHeld⟩ := List.mem_filter.mp (List.mem_of_getLast? hlast)
  rcases apart_or_locate hplace hlastHeld with hapart | hleads
  · exfalso
    have hlastBefore : last ∈ (r.files disk).filter (holds r.format disk test.id) := by
      rw [mem_files_of_apart hsound hlocate hplace hapart] at hlastListed
      rw [holds_withTest_of_apart hplace hapart] at hlastHeld
      exact List.mem_filter.mpr ⟨hlastListed, hlastHeld⟩
    obtain ⟨before, hbefore⟩ : ∃ before,
        ((r.files disk).filter (holds r.format disk test.id)).getLast? = some before :=
      ⟨_, List.getLast?_eq_some_getLast (List.ne_nil_of_mem hlastBefore)⟩
    -- It is before the one that was last and is written now, and that one is before it.
    rw [pathFor_eq hscan hbefore] at hlocate
    have hle := le_of_getLast? ((pairwise_files r disk).filter _) hbefore hlastBefore
    obtain ⟨hbeforeListed, _⟩ := (mem_files_withTest test hsound hplace hlocate hnamed before).mpr
      (visitedBy_of_mem_files hnamed (List.mem_filter.mp (List.mem_of_getLast? hbefore)).1 hlocate)
    have hge := le_of_getLast? ((pairwise_files r _).filter _) hlast
      (List.mem_filter.mpr ⟨hbeforeListed, (holds_written_iff hformat hplace hlocate).mpr hread⟩)
    obtain rfl := String.le_antisymm hle hge
    simp [Disk.apart, hlocate] at hapart
  · exact hleads

/-- A test that was written is found as it is read back, if a scan comes to its file. -/
theorem get_withTest {again : Test τ} (hread : test.reread = .ok again)
    (hvisited : r.Visited disk place) (after : Supply) :
    (r.get (r.withTest disk place test) test.id after).result = .ok again := by
  obtain ⟨others, hothers⟩ := scan_withTest hsound hformat hscan hlocate hplace after
  obtain ⟨last, hlast, hleads⟩ :=
    last_withTest hsound hnamed hformat hscan hlocate hplace ⟨again, hread⟩ hvisited
  have hpath := find?_of_scan hothers test.id
  rw [hlast] at hpath
  obtain ⟨f, hfound, rfl⟩ := Option.map_eq_some_iff.mp hpath
  obtain ⟨supply, _, hload⟩ := loadedAt_of_find? hothers hfound
  rw [loadFile_written hformat (file_withTest hplace hleads), hread] at hload
  rw [get_of_scan test.id hothers, hfound]
  exact hload.symm

end

theorem visitedBy_of_known (hnamed : disk.Named) {tests : List (Found τ)} {supply : Supply}
    {id : τ} {place : Location} (hscan : (r.scan disk supply).result = .ok tests)
    (hknown : tests.find? (·.test.id == id) ≠ none)
    (hlocate : disk.locate (r.pathFor tests id) = .ok place) :
    r.VisitedBy disk place (r.pathFor tests id) := by
  obtain ⟨f, hfound⟩ := Option.ne_none_iff_exists'.mp hknown
  rw [pathFor_of_find? hfound] at hlocate ⊢
  exact visitedBy_of_mem_files hnamed (mem_files_of_find? hscan hfound).1 hlocate

/-- A saved test is the only thing that changes on the disk. A new one lies in the directory itself
exactly if its identifier leads back there. A test with its identifier is found exactly if a scan
comes to the location and the test can be read again, or if another file holds one. So it is for
known tests and for plain identifiers, in a directory without wildcards in its path. -/
theorem save_found_iff (r : Directory) (disk : Disk) (test : Test τ) (during after : Supply)
    (hsound : disk.Sound) (hnamed : disk.Named) (hformat : r.format.Restores test.toDatum)
    (hsaved : (r.save disk test during).1.result = .ok test) :
    ∃ tests place, (r.scan disk during).result = .ok tests ∧
      disk.locate (r.pathFor tests test.id) = .ok place ∧
      (∀ other, other ≠ place →
        (r.save disk test during).2.entryAt? other = disk.entryAt? other) ∧
      (tests.find? (·.test.id == test.id) = none →
        (r.Inside disk place ↔ r.LeadsBack disk (Textual.shown test.id))) ∧
      ((∃ found, (r.get (r.save disk test during).2 test.id after).result = .ok found) ↔
        (∃ path ∈ r.files disk, disk.apart place path = true ∧
          holds r.format disk test.id path = true) ∨
        (∃ again, test.reread = .ok again) ∧ r.Visited disk place) ∧
      (isPattern r.path.toList = false → disk.holds r.path = true →
        tests.find? (·.test.id == test.id) ≠ none ∨
          Path.endsWithSlash r.path = false ∧ IsPlainId (Textual.shown test.id) →
        r.Inside disk place ∧ ∀ again, test.reread = .ok again →
          (r.get (r.save disk test during).2 test.id after).result = .ok again) := by
  rcases save_cases r disk test during with
    ⟨_, fault, hfault⟩ | ⟨tests, place, hscan, hlocate, hplace, hwritten⟩
  · cases hsaved.symm.trans hfault
  have hnew : tests.find? (·.test.id == test.id) = none →
      disk.locate (Path.join r.path (Textual.shown test.id ++ ".yaml")) = .ok place := by
    intro hnone
    unfold pathFor at hlocate
    rwa [hnone] at hlocate
  rw [hwritten]
  refine ⟨tests, place, hscan, hlocate, ?rest, ?inside, ?found, ?plain⟩
  case rest =>
    intro other hother
    rw [entryAt?_withTest hplace, if_neg hother]
  case inside => exact fun hnone => inside_iff_leadsBack hsound hplace (hnew hnone)
  case found =>
    obtain ⟨others, hothers⟩ := scan_withTest hsound hformat hscan hlocate hplace after
    rw [get_isOk_iff test.id hothers]
    exact exists_holds_withTest hsound hnamed hformat hlocate hplace
  case plain =>
    intro hplain hpath hcase
    obtain ⟨path, hvisited⟩ : r.Visited disk place := by
      by_cases hknown : tests.find? (·.test.id == test.id) = none
      · obtain ⟨hend, hid⟩ := hcase.resolve_left (not_not.mpr hknown)
        exact ⟨_, visitedBy_of_isPlainId hplain hend hid (hnew hknown)⟩
      · exact ⟨_, visitedBy_of_known hnamed hscan hknown hlocate⟩
    refine ⟨inside_of_visitedBy hsound hplace hplain hpath hvisited, fun again hread => ?_⟩
    exact get_withTest hsound hnamed hformat hscan hlocate hplace hread ⟨path, hvisited⟩ after

/-- A directory whose path is a pattern for another one. -/
def bracketed : Directory := ⟨"[a]", .yaml⟩

def onlyBracketed : Disk := ⟨[(["[a]"], .directory)], [], 1⟩

theorem searched_onlyBracketed : onlyBracketed.searched bracketed.path = [] := by decide

theorem files_onlyBracketed : bracketed.files onlyBracketed = [] := by
  rw [List.eq_nil_iff_forall_not_mem]
  intro path hpath
  obtain ⟨found, hfound, _⟩ := mem_files.mp hpath
  rw [searched_onlyBracketed] at hfound
  cases hfound

theorem save_onlyBracketed (supply : Supply) :
    (bracketed.save onlyBracketed login supply).1.result = .ok login := by
  have hscan : (bracketed.scan onlyBracketed supply).result = .ok [] := by
    rw [scan, files_onlyBracketed]
    rfl
  have hpath : bracketed.pathFor [] login.id = "[a]/login.yaml" := by decide
  have hplace : onlyBracketed.locateForWriting "[a]/login.yaml" = .ok ["[a]", "login.yaml"] := by
    rfl
  simp [save, hscan, Except.bind, store, hpath, Disk.write, hplace, mapError_ok]

/-- A test is saved in the directory and found nowhere, as another directory is searched for it. -/
theorem save_found_iff_bracketed :
    (bracketed.save onlyBracketed login (.still 0)).1.result = .ok login ∧
      ∀ found, (bracketed.get (bracketed.save onlyBracketed login (.still 0)).2 login.id
        (.still 0)).result ≠ .ok found := by
  have hsound : onlyBracketed.Sound := by
    apply Disk.sound_of_entries
    simp [onlyBracketed, Disk.entryAt?]
  have hnamed : onlyBracketed.Named := by
    unfold Disk.Named
    decide
  refine ⟨save_onlyBracketed _, fun found hget => ?_⟩
  obtain ⟨_, _, _, _, _, _, hfound, _⟩ := save_found_iff bracketed onlyBracketed login (.still 0)
    (.still 0) hsound hnamed restores_login (save_onlyBracketed _)
  rcases hfound.mp ⟨found, hget⟩ with ⟨path, hpath, _⟩ | ⟨_, path, other, hother, _⟩
  · rw [files_onlyBracketed] at hpath
    cases hpath
  · rw [searched_onlyBracketed] at hother
    cases hother

end Clickpath.Repository.Directory
