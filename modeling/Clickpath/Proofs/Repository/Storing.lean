import Clickpath.Proofs.Disk.Following
import Clickpath.Proofs.Repository.Scanning

/-! # Where a test is stored

A test goes to the file in which a scan found its identifier, and this file can always be written. A
test with a new identifier goes to a file that is named after it, and there are identifiers that
name no file.
-/

namespace Clickpath.Repository.Directory

variable {τ : Type} [Textual τ] [DecidableEq τ] {r : Directory} {disk : Disk}

/-- A path that holds a test leads to a location. -/
theorem locate_of_holds {format : Format} {id : τ} {path : String}
    (h : holds format disk id path = true) :
    ∃ place, disk.locate path = .ok place := by
  cases hlocate : disk.locate path with
  | ok place => exact ⟨place, rfl⟩
  | error cause =>
      have hfile : disk.file path = .error ⟨cause, path⟩ := by rw [Disk.file, hlocate]
      rw [holds_of_error (idIn_of_error hfile)] at h
      cases h

omit [DecidableEq τ] in
/-- A path that gives a test names a file. -/
theorem file_of_isOk {format : Format} {path : String} {id : τ} {place : Location}
    (hid : idIn format disk path = .ok id) (hlocate : disk.locate path = .ok place) :
    ∃ file, disk.entryAt? place = some (.file file) := by
  have hfile : ∀ cause, disk.file path ≠ .error ⟨cause, path⟩ := by
    intro cause h
    cases hid.symm.trans (idIn_of_error h)
  unfold Disk.file at hfile
  rw [hlocate] at hfile
  cases hentry : disk.entryAt? place with
  | none => exact absurd (by simp only [hentry]) (hfile .noSuchFile)
  | some entry =>
      cases entry with
      | file file => exact ⟨file, rfl⟩
      | directory => exact absurd (by simp only [hentry]) (hfile .isADirectory)

/-- A scan comes to its end at all times or at none. -/
theorem scan_again {supply : Supply} {found : List (Found τ)}
    (hscan : (r.scan disk supply).result = .ok found) (later : Supply) :
    ∃ others : List (Found τ), (r.scan disk later).result = .ok others :=
  scanFiles_total [] [] later (scanFiles_ok hscan).1

/-- A scan finds no test with an identifier if no listed file holds one, and only then. -/
theorem find?_eq_none_iff {supply : Supply} {found : List (Found τ)}
    (hscan : (r.scan disk supply).result = .ok found) (id : τ) :
    found.find? (·.test.id == id) = none ↔
      ∀ path ∈ r.files disk, holds r.format disk id path = false := by
  have hlast := find?_of_scan hscan id
  rw [← Option.map_eq_none_iff, hlast, List.getLast?_eq_none_iff, List.filter_eq_nil_iff]
  simp only [Bool.not_eq_true]

theorem pathFor_of_find? {found : List (Found τ)} {id : τ} {there : Found τ}
    (hfound : found.find? (·.test.id == id) = some there) : r.pathFor found id = there.path := by
  unfold pathFor
  rw [hfound]

/-- The disk with a file at a location to which a test was just written. -/
def withTest (r : Directory) (disk : Disk) (place : Location) (test : Test τ) : Disk :=
  disk.put place (.file (written r.format test disk.present))

/-- The file in which a test was found takes the test in its place. -/
theorem store_of_find? {supply : Supply} {found : List (Found τ)} {test : Test τ} {there : Found τ}
    (hscan : (r.scan disk supply).result = .ok found)
    (hfound : found.find? (·.test.id == test.id) = some there) :
    ∃ place file, disk.locate there.path = .ok place ∧ disk.entryAt? place = some (.file file) ∧
      r.store disk found test = .ok (r.withTest disk place test) := by
  have hid := (mem_files_of_find? hscan hfound).2
  have hsame : (there.test.id == test.id) = true :=
    List.find?_some (p := fun other : Found τ => other.test.id == test.id) hfound
  have hknown : found.any (·.test.id == test.id) = true :=
    List.any_eq_true.mpr ⟨there, List.mem_of_find?_eq_some hfound, hsame⟩
  obtain ⟨place, hlocate⟩ := locate_of_holds (holds_iff.mpr hid)
  obtain ⟨file, hfile⟩ := file_of_isOk hid hlocate
  refine ⟨place, file, hlocate, hfile, ?_⟩
  rw [store, hknown, Bool.not_true, Bool.and_false, if_neg Bool.false_ne_true,
    pathFor_of_find? hfound, Disk.write, Disk.locateForWriting_of_file hlocate hfile]
  rfl

/-- A test has a new identifier after which no file can be named. -/
def Misplaces (r : Directory) (disk : Disk) (id : τ) : Prop :=
  (Textual.string? id = none ∨
      '\x00' ∈ (Path.join r.path (Textual.shown id ++ ".yaml")).toList) ∧
    ∀ path ∈ r.files disk, holds r.format disk id path = false

/-- A test is stored, or it is misplaced, or the disk has a fault of another cause. -/
theorem store_cases {supply : Supply} {found : List (Found τ)}
    (hscan : (r.scan disk supply).result = .ok found) (test : Test τ) :
    (∃ after, r.store disk found test = .ok after ∧ ¬r.Misplaces disk test.id) ∨
      (r.store disk found test = .error .unencodable ∧ r.Misplaces disk test.id) ∨
      ∃ fault, r.store disk found test = .error (.disk fault) ∧
        (fault.cause = .zeroInPath ↔ r.Misplaces disk test.id) := by
  cases hfound : found.find? (·.test.id == test.id) with
  | some there =>
      obtain ⟨place, file, -, -, hstored⟩ := store_of_find? hscan hfound
      refine .inl ⟨_, hstored, fun hmisplaces => ?_⟩
      cases hfound.symm.trans ((find?_eq_none_iff hscan test.id).mpr hmisplaces.2)
  | none =>
      have hnew : found.any (·.test.id == test.id) = false := by
        rw [List.any_eq_false]
        exact List.find?_eq_none.mp hfound
      have hmisplaces : r.Misplaces disk test.id ↔ _ :=
        and_iff_left ((find?_eq_none_iff hscan test.id).mp hfound)
      rw [hmisplaces, store, hnew, Bool.not_false, Bool.and_true]
      cases hwhole : Textual.string? test.id with
      | none => exact .inr (.inl ⟨rfl, .inl rfl⟩)
      | some name =>
          have hpath : r.pathFor found test.id =
              Path.join r.path (Textual.shown test.id ++ ".yaml") := by
            unfold pathFor
            rw [hfound]
          have hnamed : ¬some name = none := nofun
          rw [Option.isNone_some, if_neg Bool.false_ne_true, hpath, or_iff_right hnamed,
            ← Disk.locateForWriting_eq_zeroInPath_iff disk, Disk.write]
          cases disk.locateForWriting (Path.join r.path (Textual.shown test.id ++ ".yaml")) with
          | ok place => exact .inl ⟨_, rfl, nofun⟩
          | error cause => exact .inr (.inr ⟨_, rfl, by rw [Except.error.injEq]⟩)

/-- After a scan a test is saved as it is stored; nothing is written if it is not. -/
theorem save_of_scan {supply : Supply} {found : List (Found τ)}
    (hscan : (r.scan disk supply).result = .ok found) (test : Test τ) :
    (r.save disk test supply).1.result = (r.store disk found test).map (fun _ => test) ∧
      (r.save disk test supply).2 = (r.store disk found test).toOption.getD disk := by
  unfold save
  simp only [hscan, Except.bind]
  cases r.store disk found test with
  | ok after => exact ⟨rfl, rfl⟩
  | error fault => exact ⟨rfl, rfl⟩

end Clickpath.Repository.Directory
