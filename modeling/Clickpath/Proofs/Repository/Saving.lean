import Clickpath.Proofs.Disk.Writing
import Clickpath.Proofs.Repository.Storing

/-! # Saving tests

What saving a test does to the other tests of a directory. Saving writes one file, and all others
are listed and loaded as before. The tests that are found elsewhere are therefore found again; a
test in the written file is lost unless it has the saved identifier.
-/

namespace Clickpath.Repository.Directory

variable {τ : Type} [Textual τ] {r : Directory} {disk : Disk}

/-! ## Files after saving -/

theorem pairwise_mergeSort (paths : List String) :
    (paths.mergeSort fun a b => decide (a ≤ b)).Pairwise (· ≤ ·) := by
  refine (List.pairwise_mergeSort ?_ ?_ paths).imp of_decide_eq_true
  · intro a b c hab hbc
    simp only [decide_eq_true_eq] at hab hbc ⊢
    exact String.le_trans hab hbc
  · intro a b
    simpa using String.le_total a b

theorem filter_mergeSort (keep : String → Bool) (paths : List String) :
    (paths.mergeSort fun a b => decide (a ≤ b)).filter keep =
      (paths.filter keep).mergeSort fun a b => decide (a ≤ b) := by
  -- Both sides are the kept paths in order, and there is only one such list.
  refine List.Perm.eq_of_pairwise ?_ ((pairwise_mergeSort paths).filter keep)
    (pairwise_mergeSort _) ?_
  · exact fun a b _ _ => String.le_antisymm
  · exact ((List.mergeSort_perm _ _).filter keep).trans (List.mergeSort_perm _ _).symm

/-- The paths that are kept are listed alike if every pattern finds them alike. -/
theorem filter_files {other : Disk} {keep : String → Bool}
    (h : ∀ pattern, (other.matching r.path pattern).filter keep =
      (disk.matching r.path pattern).filter keep) :
    (r.files other).filter keep = (r.files disk).filter keep := by
  unfold files
  rw [filter_mergeSort, filter_mergeSort, List.filter_flatMap, List.filter_flatMap]
  simp only [h]

theorem getLast?_filter {keep : String → Bool} {paths : List String}
    (hkeep : ∀ path, paths.getLast? = some path → keep path = true) :
    (paths.filter keep).getLast? = paths.getLast? := by
  rcases List.eq_nil_or_concat paths with rfl | ⟨before, last, rfl⟩
  · rfl
  · have hlast := hkeep last (by simp)
    simp [List.filter_append, hlast]

theorem entryAt?_withTest {place : Location} (hplace : disk.entryAt? place ≠ some .directory)
    {test : Test τ} (other : Location) : (r.withTest disk place test).entryAt? other =
      if other = place then some (.file (written r.format test disk.present))
      else disk.entryAt? other :=
  Disk.entryAt?_put _ hplace other

/-- A test that is stored is put where no directory stands. -/
theorem store_ok [DecidableEq τ] {tests : List (Found τ)} {test : Test τ} {after : Disk}
    (h : r.store disk tests test = .ok after) :
    ∃ place, disk.locate (r.pathFor tests test.id) = .ok place ∧
      disk.entryAt? place ≠ some .directory ∧ after = r.withTest disk place test := by
  unfold store at h
  split at h
  next => cases h
  next =>
    rw [Disk.write] at h
    cases hwrite : disk.locateForWriting (r.pathFor tests test.id) with
    | error cause =>
        rw [hwrite] at h
        cases h
    | ok place =>
        rw [hwrite] at h
        cases h
        obtain ⟨hlocate, hplace⟩ := Disk.locateForWriting_ok hwrite
        exact ⟨place, hlocate, hplace, rfl⟩

/-- Either nothing is written, or a file with the test is put where no directory stands. -/
theorem save_cases [DecidableEq τ] (r : Directory) (disk : Disk) (test : Test τ)
    (supply : Supply) :
    ((r.save disk test supply).2 = disk ∧
        ∃ fault, (r.save disk test supply).1.result = .error fault) ∨
      ∃ tests place, (r.scan disk supply).result = .ok tests ∧
        disk.locate (r.pathFor tests test.id) = .ok place ∧
        disk.entryAt? place ≠ some .directory ∧
        (r.save disk test supply).2 = r.withTest disk place test := by
  cases hscan : (r.scan (τ := τ) disk supply).result with
  | error fault =>
      left
      unfold save
      simp only [hscan, Except.bind]
      exact ⟨trivial, fault, rfl⟩
  | ok tests =>
      obtain ⟨hresult, hwritten⟩ := save_of_scan hscan test
      cases hstored : r.store disk tests test with
      | error fault =>
          rw [hstored] at hresult hwritten
          exact .inl ⟨hwritten, fault, hresult⟩
      | ok after =>
          rw [hstored] at hwritten
          obtain ⟨place, hlocate, hplace, rfl⟩ := store_ok hstored
          exact .inr ⟨tests, place, rfl, hlocate, hplace, hwritten⟩

/-! ## What the other files hold -/

section

variable {test : Test τ} {place : Location}

theorem files_withTest (hsound : disk.Sound) (hplace : disk.entryAt? place ≠ some .directory)
    {path : String} (hpath : disk.locate path = .ok place) :
    (r.files (r.withTest disk place test)).filter (disk.apart place) =
      (r.files disk).filter (disk.apart place) := by
  obtain ⟨above, last, hlast, hname, _⟩ := Disk.locate_name hsound hpath hplace
  exact filter_files (Disk.matching_put _ hsound hplace hlast hname _)

theorem idIn_withTest_of_apart (hplace : disk.entryAt? place ≠ some .directory) {path : String}
    (hpath : disk.apart place path = true) :
    idIn (τ := τ) r.format (r.withTest disk place test) path = idIn r.format disk path :=
  idIn_congr (Disk.file_put_of_apart _ hplace hpath)

/-- A path to the written file, or to nothing, gives the saved test or a fault of its own. -/
theorem idIn_withTest_of_not_apart (hformat : r.format.Restores test.toDatum)
    (hplace : disk.entryAt? place ≠ some .directory) {path : String}
    (hpath : disk.apart place path = false) :
    GivesOnly test.id (idIn r.format (r.withTest disk place test) path) := by
  rcases Disk.file_put_of_not_apart (written r.format test disk.present) hplace hpath with
    hfile | ⟨cause, hcause, hfile⟩
  · exact givesOnly_written hformat hfile
  · unfold withTest
    rw [idIn_of_error hfile]
    simpa [GivesOnly, Fault.isOfOneTest] using hcause

/-- No path ends a scan that did not end one before. -/
theorem passable_withTest (hformat : r.format.Restores test.toDatum)
    (hplace : disk.entryAt? place ≠ some .directory)
    (hfiles : (r.files (r.withTest disk place test)).filter (disk.apart place) =
      (r.files disk).filter (disk.apart place))
    (hbefore : ∀ path ∈ r.files disk, Passable (τ := τ) r.format disk path) :
    ∀ path ∈ r.files (r.withTest disk place test),
      Passable (τ := τ) r.format (r.withTest disk place test) path := by
  intro path hpath fault hfault
  cases hapart : disk.apart place path with
  | true =>
      have hlisted : path ∈ (r.files disk).filter (disk.apart place) := by
        rw [← hfiles]
        exact List.mem_filter.mpr ⟨hpath, hapart⟩
      rw [idIn_withTest_of_apart hplace hapart] at hfault
      exact hbefore path (List.mem_filter.mp hlisted).1 fault hfault
  | false =>
      have hgives := idIn_withTest_of_not_apart hformat hplace hapart
      rw [hfault] at hgives
      exact hgives

variable [DecidableEq τ]

/-- A file holds another test behind a write exactly if it did before and is not the one written. -/
theorem holds_withTest (hformat : r.format.Restores test.toDatum)
    (hplace : disk.entryAt? place ≠ some .directory) {id : τ} (hid : id ≠ test.id)
    (path : String) :
    holds r.format (r.withTest disk place test) id path =
      (holds r.format disk id path && disk.apart place path) := by
  unfold holds
  cases hapart : disk.apart place path with
  | true => rw [idIn_withTest_of_apart hplace hapart, Bool.and_true]
  | false =>
      have hgives := idIn_withTest_of_not_apart hformat hplace hapart
      rw [Bool.and_false]
      split
      next other hother =>
        rw [hother] at hgives
        simpa [show other = test.id from hgives] using Ne.symm hid
      next => rfl

/-- Tests with another identifier are held by the files that held them, but for the written one. -/
theorem filter_holds_withTest (hformat : r.format.Restores test.toDatum)
    (hplace : disk.entryAt? place ≠ some .directory)
    (hfiles : (r.files (r.withTest disk place test)).filter (disk.apart place) =
      (r.files disk).filter (disk.apart place))
    {id : τ} (hid : id ≠ test.id) :
    (r.files (r.withTest disk place test)).filter
        (holds r.format (r.withTest disk place test) id) =
      ((r.files disk).filter (holds r.format disk id)).filter (disk.apart place) := by
  rw [funext (holds_withTest hformat hplace hid), ← List.filter_filter, hfiles,
    List.filter_filter, List.filter_filter]
  simp only [Bool.and_comm]

end

theorem sound_withTest (hsound : disk.Sound) {path : String} {place : Location}
    (hlocate : disk.locate path = .ok place) (hplace : disk.entryAt? place ≠ some .directory)
    (test : Test τ) : (r.withTest disk place test).Sound := by
  obtain ⟨above, last, rfl, _, habove⟩ := Disk.locate_name hsound hlocate hplace
  exact hsound.put _ hplace (by rwa [List.dropLast_concat])

variable [DecidableEq τ]

theorem save_sound (hsound : disk.Sound) (test : Test τ) (supply : Supply) :
    (r.save disk test supply).2.Sound := by
  rcases save_cases r disk test supply with
    ⟨hsame, _⟩ | ⟨tests, place, _, hlocate, hplace, hwritten⟩
  · rwa [hsame]
  · rw [hwritten]
    exact sound_withTest hsound hlocate hplace test

/-- After a test was written, a scan comes to its end. -/
theorem scan_withTest (hsound : disk.Sound) {test : Test τ} {during : Supply}
    (hformat : r.format.Restores test.toDatum) {tests : List (Found τ)} {path : String}
    {place : Location} (hscan : (r.scan disk during).result = .ok tests)
    (hlocate : disk.locate path = .ok place) (hplace : disk.entryAt? place ≠ some .directory)
    (after : Supply) :
    ∃ others : List (Found τ),
      (r.scan (r.withTest disk place test) after).result = .ok others := by
  obtain ⟨hpassable, _⟩ := scanFiles_ok hscan
  exact scanFiles_total [] [] after
    (passable_withTest hformat hplace (files_withTest hsound hplace hlocate) hpassable)

/-- After a test was written, a scan comes to its end, and another identifier is held by the files
that held it, but for the written one. -/
theorem scan_save (hsound : disk.Sound) {test : Test τ} {during : Supply}
    (hformat : r.format.Restores test.toDatum) {tests : List (Found τ)} {place : Location}
    (hscan : (r.scan disk during).result = .ok tests)
    (hlocate : disk.locate (r.pathFor tests test.id) = .ok place)
    (hplace : disk.entryAt? place ≠ some .directory) {id : τ} (hid : id ≠ test.id)
    (after : Supply) :
    (∃ others : List (Found τ), (r.scan (r.withTest disk place test) after).result = .ok others) ∧
      (r.files (r.withTest disk place test)).filter
          (holds r.format (r.withTest disk place test) id) =
        ((r.files disk).filter (holds r.format disk id)).filter (disk.apart place) :=
  ⟨scan_withTest hsound hformat hscan hlocate hplace after,
    filter_holds_withTest hformat hplace (files_withTest hsound hplace hlocate) hid⟩

/-! ## Other tests -/

/-- A test whose file is written for a test with another identifier is not found any more, unless a
further file holds a test with its identifier. -/
theorem save_loses_other (r : Directory) (disk : Disk) (test : Test τ) (id : τ)
    (during after : Supply) (hsound : disk.Sound) (hformat : r.format.Restores test.toDatum)
    (hid : id ≠ test.id) (hsaved : (r.save disk test during).1.result = .ok test)
    {tests : List (Found τ)} (hscan : (r.scan disk during).result = .ok tests)
    (honly : ∀ path ∈ r.files disk, holds r.format disk id path = true →
      disk.locate path = disk.locate (r.pathFor tests test.id)) :
    (r.get (r.save disk test during).2 id after).result =
      .error (.unknownTest (Textual.shown id)) := by
  rcases save_cases r disk test during with
    ⟨_, fault, hfault⟩ | ⟨others, place, hothers, hlocate, hplace, hwritten⟩
  · cases hsaved.symm.trans hfault
  · cases hscan.symm.trans hothers
    obtain ⟨⟨found, hfound⟩, hholds⟩ := scan_save hsound hformat hscan hlocate hplace hid after
    have hnone :
        ((r.files disk).filter (holds r.format disk id)).filter (disk.apart place) = [] := by
      rw [List.filter_eq_nil_iff]
      intro path hpath
      obtain ⟨hlisted, hheld⟩ := List.mem_filter.mp hpath
      simp [Disk.apart, (honly path hlisted hheld).trans hlocate]
    have hpath := find?_of_scan hfound id
    rw [hholds, hnone] at hpath
    rw [hwritten, get_of_scan id hfound, Option.map_eq_none_iff.mp hpath]
    rfl

/-- A test that was found in another file than the written one is found there again. -/
theorem get_withTest_of_ne (hsound : disk.Sound) {test : Test τ} {during : Supply}
    (hformat : r.format.Restores test.toDatum) {tests : List (Found τ)} {place : Location}
    (hscan : (r.scan disk during).result = .ok tests)
    (hlocate : disk.locate (r.pathFor tests test.id) = .ok place)
    (hplace : disk.entryAt? place ≠ some .directory) {id : τ} (hid : id ≠ test.id)
    (hfound : ∀ found, tests.find? (·.test.id == id) = some found →
      disk.locate found.path ≠ .ok place) (before after : Supply) :
    SameOutcome (Test.SameAt before.millisAt after.millisAt) (r.get disk id before).result
      (r.get (r.withTest disk place test) id after).result := by
  obtain ⟨earlier, hearlier⟩ := scanFiles_total [] [] before (scanFiles_ok hscan).1
  obtain ⟨⟨later, hlater⟩, hholds⟩ := scan_save hsound hformat hscan hlocate hplace hid after
  have hapart : ∀ path, ((r.files disk).filter (holds r.format disk id)).getLast? = some path →
      disk.apart place path = true := by
    intro path hlast
    -- The last file with the identifier is the one in which its test was found.
    have hpath := find?_of_scan hscan id
    rw [hlast] at hpath
    obtain ⟨found, hsome, rfl⟩ := Option.map_eq_some_iff.mp hpath
    have hne := hfound found hsome
    obtain ⟨other, hother⟩ := locate_of_holds (List.mem_filter.mp (List.mem_of_getLast? hlast)).2
    rw [hother] at hne
    simpa [Disk.apart, hother] using hne
  refine get_sameAt hearlier hlater ?_ ?_
  · rw [hholds, getLast?_filter hapart]
  · intro path hlast
    exact (Disk.file_put_of_apart _ hplace (hapart path hlast)).symm

/-- Saving a test leaves the answer for another identifier as it was, unless the test that was found
for it is in the file that is written. -/
theorem save_keeps_other (r : Directory) (disk : Disk) (test : Test τ) (id : τ)
    (before during after : Supply) (hsound : disk.Sound)
    (hformat : r.format.Restores test.toDatum) (hid : id ≠ test.id)
    (hplace : ∀ tests found, (r.scan disk during).result = .ok tests →
      tests.find? (·.test.id == id) = some found →
      disk.locate found.path ≠ disk.locate (r.pathFor tests test.id)) :
    SameOutcome (Test.SameAt before.millisAt after.millisAt) (r.get disk id before).result
        (r.get (r.save disk test during).2 id after).result ∧
      ((∀ i j, before.millisAt i = after.millisAt j) →
        (r.get (r.save disk test during).2 id after).result = (r.get disk id before).result) := by
  have hsame : SameOutcome (Test.SameAt before.millisAt after.millisAt)
      (r.get disk id before).result (r.get (r.save disk test during).2 id after).result := by
    rcases save_cases r disk test during with
      ⟨hunchanged, _⟩ | ⟨tests, place, hscan, hlocate, hdirectory, hwritten⟩
    · rw [hunchanged]
      exact get_again r disk id before after
    · rw [hwritten]
      refine get_withTest_of_ne hsound hformat hscan hlocate hdirectory hid ?_ before after
      intro found hfound
      rw [← hlocate]
      exact hplace tests found hscan hfound
  exact ⟨hsame, fun hclock => (hsame.eq fun _ _ h => h.eq hclock).symm⟩

/-- A directory with a test in a file that is named after another test. -/
def misnamed : Disk where
  entries := [(["tests"], .directory),
    (["tests", "kept.yaml"], .file ⟨.text "name: n\nsteps: []\n", 0⟩),
    (["tests", "login.yaml"], .file ⟨.text "id: other\nname: n\nsteps: []\n", 0⟩)]
  current := []
  present := 1

/-- The test that the file is named after. -/
def login : Test :=
  ⟨"login", "n", [], "playwright", "javascript", ⟨2024, 5, 1, 12, 0, 0, 0, some 0, by decide⟩⟩

def yamlTests : Directory := ⟨"tests", .yaml⟩

theorem sound_misnamed : misnamed.Sound := by
  apply Disk.sound_of_entries
  simp [misnamed, Disk.entryAt?, Disk.lookup_cons]

theorem read_login :
    (match Format.yaml.read (Chars.unifyLineEnds (Format.yaml.write login.toDatum)) with
      | .ok (.map [(.text a, .text id), (.text b, .text name), (.text c, .list []),
          (.text d, .text tool), (.text e, .text platform), (.text f, .text created)]) =>
        [a, id, b, name, c, d, tool, e, platform, f, created] ==
          ["id", "login", "name", "n", "steps", "automation_tool", "playwright", "target_platform",
            "javascript", "created_at", "2024-05-01T12:00:00Z"]
      | _ => false) = true := by
  decide +kernel

theorem restores_login : Format.yaml.Restores login.toDatum := by
  have hread := read_login
  have hcreated : login.created.stored = "2024-05-01T12:00:00Z" := by decide
  unfold Format.Restores
  split at hread
  next hwhole =>
    simp only [beq_iff_eq, List.cons.injEq] at hread
    obtain ⟨rfl, rfl, rfl, rfl, rfl, rfl, rfl, rfl, rfl, rfl, rfl, _⟩ := hread
    rw [hwhole, login.toDatum_eq, Test.entries, hcreated]
    rfl
  next => cases hread

theorem files_misnamed :
    yamlTests.files misnamed = ["tests/kept.yaml", "tests/login.yaml"] := by
  have hmatching : patterns.flatMap (fun pattern => misnamed.matching "tests" pattern) =
      ["tests/kept.yaml", "tests/login.yaml"] := by decide
  unfold files
  rw [show yamlTests.path = "tests" from rfl, hmatching]
  apply List.mergeSort_of_pairwise
  decide

theorem eq_ok_pair {x : Except ε (List α)} {f : α → β} {b c : β}
    (h : x.toOption.map (·.map f) = some [b, c]) :
    ∃ first second, x = .ok [first, second] ∧ f first = b ∧ f second = c := by
  cases x with
  | error fault => cases h
  | ok found =>
      obtain ⟨first, rest, rfl, hfirst, hrest⟩ := List.map_eq_cons_iff.mp (Option.some.inj h)
      obtain ⟨second, last, rfl, hsecond, hlast⟩ := List.map_eq_cons_iff.mp hrest
      obtain rfl := List.map_eq_nil_iff.mp hlast
      exact ⟨first, second, rfl, hfirst, hsecond⟩

theorem scan_misnamed :
    ∃ kept other, (yamlTests.scan misnamed (.still 0)).result = .ok [kept, other] ∧
      kept.test.id = "kept" ∧ kept.path = "tests/kept.yaml" ∧ other.test.id = "other" ∧
      other.path = "tests/login.yaml" := by
  have hfound : (yamlTests.scanFiles misnamed [] [] ["tests/kept.yaml", "tests/login.yaml"]
      (.still 0)).result.toOption.map (·.map fun found => (found.test.id, found.path)) =
        some [("kept", "tests/kept.yaml"), ("other", "tests/login.yaml")] := by
    decide +kernel
  rw [scan, files_misnamed]
  obtain ⟨kept, other, hresult, hkept, hother⟩ := eq_ok_pair hfound
  obtain ⟨hkeptId, hkeptPath⟩ := Prod.mk.inj hkept
  obtain ⟨hotherId, hotherPath⟩ := Prod.mk.inj hother
  exact ⟨kept, other, hresult, hkeptId, hkeptPath, hotherId, hotherPath⟩

/-- Of the two tests in the directory the one in the misnamed file is lost, and the other is
kept. -/
theorem save_keeps_other_misnamed :
    (yamlTests.get (yamlTests.save misnamed login (.still 0)).2 "kept" (.still 0)).result =
        (yamlTests.get misnamed "kept" (.still 0)).result ∧
      (∃ test, (yamlTests.get misnamed "other" (.still 0)).result = .ok test) ∧
      (yamlTests.get (yamlTests.save misnamed login (.still 0)).2 "other" (.still 0)).result =
        .error (.unknownTest "other") := by
  obtain ⟨kept, other, hscan, hkept, hkeptPath, hother, hotherPath⟩ := scan_misnamed
  have hpath : yamlTests.pathFor [kept, other] login.id = "tests/login.yaml" := by
    simp [pathFor, hkept, hother, login, yamlTests, Path.join, Path.isAbsolute, Path.endsWithSlash]
  refine ⟨?_, ⟨other.test, ?_⟩, ?_⟩
  · refine (save_keeps_other yamlTests misnamed login "kept" (.still 0) (.still 0) (.still 0)
      sound_misnamed restores_login (by decide) ?_).2 fun _ _ => rfl
    intro tests found htests hfind
    cases hscan.symm.trans htests
    rw [find?_cons_id, if_pos hkept] at hfind
    cases hfind
    rw [hpath, hkeptPath]
    have hapart : (misnamed.locate "tests/kept.yaml").toOption ≠
        (misnamed.locate "tests/login.yaml").toOption := by decide +kernel
    exact fun hsame => hapart (congrArg Except.toOption hsame)
  · rw [get_of_scan "other" hscan, find?_cons_id, find?_cons_id]
    simp [answer, hkept, hother]
  · refine save_loses_other yamlTests misnamed login "other" (.still 0) (.still 0) sound_misnamed
      restores_login (by decide) ?_ hscan ?_
    · have hplace : misnamed.locateForWriting "tests/login.yaml" = .ok ["tests", "login.yaml"] := by
        rfl
      simp [save, hscan, Except.bind, store, hpath, Disk.write, hplace, mapError_ok]
    · intro path hlisted hheld
      have hkeptId : holds .yaml misnamed "other" "tests/kept.yaml" = false := by decide +kernel
      rw [files_misnamed] at hlisted
      rw [hpath]
      rcases List.mem_cons.mp hlisted with rfl | hlisted
      · cases hkeptId.symm.trans hheld
      · rw [List.mem_singleton.mp hlisted]

end Clickpath.Repository.Directory
