import Clickpath.Proofs.Disk.Writing
import Clickpath.Proofs.Record.Clock
import Clickpath.Proofs.Record.Stored
import Clickpath.Repository.Directory

/-! # Test files

What is loaded from one file. It depends on the file and on the clock alone, and from a file to
which a test was written comes a test with the identifier of that test, or none.
-/

namespace Clickpath

open Record

/-! ## Completed records -/

theorem Datum.sameKey_text (key : Datum) (name : String) :
    key.sameKey (.text name) = (key.string? == some name) := by
  cases key <;> simp [sameKey, string?, beq, number?]

/-- A field that is entered is found under its name, and no other field changes. -/
theorem Datum.lookup?_insert (entries : List (Datum × Datum)) (name key : String) (d : Datum) :
    lookup? (insert entries (.text name) d) key =
      if name = key then some d else lookup? entries key := by
  induction entries with
  | nil =>
      rw [insert, lookup?_cons_text]
      simp
  | cons entry rest ih =>
      obtain ⟨first, old⟩ := entry
      rw [insert, sameKey_text]
      by_cases hfirst : first.string? = some name
      · rw [if_pos (by simpa using hfirst), lookup?_cons, lookup?_cons, hfirst]
        by_cases hkey : name = key <;> simp [hkey]
      · rw [if_neg (by simpa using hfirst), lookup?_cons, lookup?_cons, ih]
        by_cases hkey : name = key
        · subst hkey
          simp [hfirst]
        · simp [hkey]

namespace Repository

theorem lookup?_withId (path : String) (entries : List (Datum × Datum)) :
    (Datum.lookup? (withId path entries) "id").isSome := by
  unfold withId
  split
  next hid => rw [hid]; rfl
  next => rw [Datum.lookup?_insert, if_pos rfl]; rfl

theorem nameInUse_isSome {entries : List (Datum × Datum)} {names : List String} {name : String}
    (hname : name ∈ names) (hheld : (Datum.lookup? entries name).isSome) :
    (Datum.lookup? entries (nameInUse entries names)).isSome := by
  unfold nameInUse
  split
  next found hfound =>
    have hfilled := List.find?_some hfound
    exact hfilled
  next hnone => exact absurd hheld (List.find?_eq_none.mp hnone name hname)

/-- Entries that are dated keep what they had, and hold a creation time under the name in use. -/
theorem withCreation_ok {changed : Int} {entries dated : List (Datum × Datum)}
    (h : withCreation changed entries = .ok dated) :
    ((Datum.lookup? entries "id").isSome → (Datum.lookup? dated "id").isSome) ∧
      (Datum.lookup? dated (nameInUse dated createdNames)).isSome := by
  unfold withCreation at h
  split at h
  next hdated =>
    cases h
    refine ⟨id, ?_⟩
    rw [Bool.or_eq_true] at hdated
    rcases hdated with hdated | hdated
    · exact nameInUse_isSome (by decide) hdated
    · exact nameInUse_isSome (by decide) hdated
  next =>
    cases hchange : momentOfChange changed with
    | error fault => rw [hchange] at h; cases h
    | ok created =>
        rw [hchange] at h
        cases h
        refine ⟨?_, nameInUse_isSome (show "created_at" ∈ createdNames by decide) ?_⟩
        · rw [Datum.lookup?_insert]
          exact id
        · rw [Datum.lookup?_insert]
          rfl

/-! ## Loading -/

variable {τ : Type} [Textual τ]

/-- A loaded record names its identifier and its creation time. -/
theorem recordIn_ok {format : Format} {disk : Disk} {path : String}
    {entries : List (Datum × Datum)} (h : recordIn format disk path = .ok entries) :
    (Datum.lookup? entries "id").isSome ∧
      (Datum.lookup? entries (nameInUse entries createdNames)).isSome := by
  obtain ⟨file, _, h⟩ := exists_of_bind_eq_ok h
  obtain ⟨text, _, h⟩ := exists_of_bind_eq_ok h
  obtain ⟨d, _, h⟩ := exists_of_bind_eq_ok h
  cases d with
  | map held =>
      obtain ⟨hid, hcreated⟩ := withCreation_ok h
      exact ⟨hid (lookup?_withId path held), hcreated⟩
  | _ => cases h

theorem recordIn_congr {format : Format} {disk other : Disk} {path : String}
    (hfile : disk.file path = other.file path) :
    recordIn format disk path = recordIn format other path := by
  unfold recordIn
  rw [hfile]

/-- A file is loaded alike from two disks and at two times if it is the same on both. -/
theorem loadFile_sameAt (format : Format) {disk other : Disk} {path : String}
    (hfile : disk.file path = other.file path) (s t : Supply) :
    SameOutcome (Test.SameAt s.millisAt t.millisAt) (loadFile (τ := τ) format disk path s).1
      (loadFile format other path t).1 := by
  unfold loadFile
  rw [recordIn_congr hfile]
  cases hrecord : recordIn format other path with
  | error fault => rfl
  | ok entries =>
      obtain ⟨hid, hcreated⟩ := recordIn_ok hrecord
      exact (Designer.alike_readTest hid hcreated s t rfl rfl).1.mapError Fault.record

theorem millisAt_loadFile (format : Format) (disk : Disk) (path : String) (supply : Supply) :
    (loadFile (τ := τ) format disk path supply).2.millisAt = supply.millisAt := by
  unfold loadFile
  cases hrecord : recordIn format disk path with
  | error fault => rfl
  | ok entries =>
      obtain ⟨hid, hcreated⟩ := recordIn_ok hrecord
      exact (Designer.alike_readTest (τ := τ) hid hcreated supply supply rfl rfl).2.1

/-- The identifier of the test in a file, or why there is none; it does not depend on the clock. -/
def idIn (format : Format) (disk : Disk) (path : String) : Except Fault τ :=
  (loadFile format disk path (Supply.still 0)).1.map (·.id)

/-- The identifier in a file is the same whatever is drawn. -/
theorem idIn_eq (format : Format) (disk : Disk) (path : String) (supply : Supply) :
    idIn (τ := τ) format disk path = (loadFile format disk path supply).1.map (·.id) := by
  have hsame := loadFile_sameAt (τ := τ) format (show disk.file path = disk.file path from rfl)
    (Supply.still 0) supply
  unfold idIn
  rcases hsame.cases with ⟨a, b, hs, ht, hab⟩ | ⟨fault, hs, ht⟩
  · rw [hs, ht]
    exact congrArg Except.ok hab.id
  · rw [hs, ht]

theorem idIn_congr {format : Format} {disk other : Disk} {path : String}
    (hfile : disk.file path = other.file path) :
    idIn (τ := τ) format disk path = idIn format other path := by
  unfold idIn loadFile
  rw [recordIn_congr hfile]

theorem idIn_of_error {format : Format} {disk : Disk} {path : String} {fault : Disk.Fault}
    (hfile : disk.file path = .error fault) : idIn (τ := τ) format disk path =
      .error (.disk fault) := by
  unfold idIn loadFile recordIn
  rw [hfile]
  rfl

/-! ## Written tests -/

/-- What the format writes of a datum is read as the datum, as files are read. -/
def Format.Restores (format : Format) (d : Datum) : Prop :=
  format.read (Chars.unifyLineEnds (format.write d)) = .ok d

def written (format : Format) (t : Test τ) (changed : Int) : File :=
  ⟨.text (String.ofList (format.write t.toDatum)), changed⟩

/-- A file whose text is read as the stored form of a test. -/
theorem recordIn_of_read {format : Format} {disk : Disk} {path : String} {text : List Char}
    {changed : Int} {t : Test τ} (hread : format.read (Chars.unifyLineEnds text) = .ok t.toDatum)
    (hfile : disk.file path = .ok ⟨.text (String.ofList text), changed⟩) :
    recordIn format disk path = .ok t.entries := by
  -- The stored form names both, so that neither is taken from the file.
  have hid : withId path t.entries = t.entries := by
    simp [withId, Test.entries, Datum.lookup?_cons_text]
  have hcreated : withCreation changed t.entries = .ok t.entries := by
    simp [withCreation, Test.entries, Datum.lookup?_cons_text]
  unfold recordIn
  simp only [hfile, Content.read, String.toList_ofList, mapError_ok, Bind.bind, Except.bind, hread]
  rw [t.toDatum_eq]
  simp only [hid, hcreated]

theorem loadFile_of_read {format : Format} {disk : Disk} {path : String} {text : List Char}
    {changed : Int} {t : Test τ} (hread : format.read (Chars.unifyLineEnds text) = .ok t.toDatum)
    (hfile : disk.file path = .ok ⟨.text (String.ofList text), changed⟩) (supply : Supply) :
    loadFile format disk path supply = (t.reread.mapError .record, supply) := by
  unfold loadFile
  rw [recordIn_of_read hread hfile]
  simp only [Designer.readTest_entries, given]

/-- Only the steps of a written test can keep it from being loaded. -/
theorem loadFile_written {format : Format} {disk : Disk} {path : String} {t : Test τ}
    {changed : Int} (hformat : format.Restores t.toDatum)
    (hfile : disk.file path = .ok (written format t changed)) (supply : Supply) :
    (loadFile format disk path supply).1 = t.reread.mapError .record := by
  rw [loadFile_of_read hformat hfile]

theorem idIn_written {format : Format} {disk : Disk} {path : String} {t : Test τ} {changed : Int}
    (hformat : format.Restores t.toDatum)
    (hfile : disk.file path = .ok (written format t changed)) :
    idIn format disk path = (t.reread.mapError .record).map (·.id) := by
  unfold idIn
  rw [loadFile_written hformat hfile]

theorem Test.id_reread {t again : Test τ} (h : t.reread = .ok again) : again.id = t.id := by
  unfold Test.reread at h
  cases hsteps : t.steps.mapM Step.reread with
  | error fault => rw [hsteps] at h; cases h
  | ok steps => rw [hsteps] at h; cases h; rfl

def GivesOnly (id : τ) : Except Fault τ → Prop
  | .ok other => other = id
  | .error fault => fault.isOfOneTest = true

/-- A file to which a test was written holds this test, or none. -/
theorem givesOnly_written {format : Format} {disk : Disk} {path : String} {t : Test τ}
    {changed : Int} (hformat : format.Restores t.toDatum)
    (hfile : disk.file path = .ok (written format t changed)) :
    GivesOnly t.id (idIn format disk path) := by
  rw [idIn_written hformat hfile]
  unfold Test.reread
  cases hsteps : t.steps.mapM Step.reread with
  | ok steps => rfl
  | error fault =>
      obtain ⟨s, _, hread⟩ := Test.mapM_reread_error hsteps
      rw [Step.reread_error hread]
      rfl

end Repository

end Clickpath
