import Clickpath.Proofs.Repository.Files

/-! # Scans of test files

A scan keeps for each identifier the last test that has it, so an answer can be read off the list of
the files that hold a test with the identifier. A file that cannot be loaded is passed over unless
its fault is not its own. The course of a scan is told file by file, and all else follows from it.
-/

namespace Clickpath.Repository

variable {τ : Type} [Textual τ] [DecidableEq τ]

/-- A file holds a test with an identifier. -/
def holds (format : Format) (disk : Disk) (id : τ) (path : String) : Bool :=
  match idIn format disk path with
  | .ok other => other == id
  | .error _ => false

theorem holds_of_ok {format : Format} {disk : Disk} {path : String} {id other : τ}
    (h : idIn format disk path = .ok other) : holds format disk id path = (other == id) := by
  unfold holds
  rw [h]

theorem holds_of_error {format : Format} {disk : Disk} {path : String} {id : τ} {fault : Fault}
    (h : idIn (τ := τ) format disk path = .error fault) : holds format disk id path = false := by
  unfold holds
  rw [h]

theorem holds_eq (format : Format) (disk : Disk) (id : τ) (path : String) :
    holds format disk id path = ((idIn format disk path).toOption == some id) := by
  unfold holds
  cases idIn (τ := τ) format disk path <;> rfl

theorem holds_iff {format : Format} {disk : Disk} {id : τ} {path : String} :
    holds format disk id path = true ↔ idIn format disk path = .ok id := by
  rw [holds_eq, beq_iff_eq]
  cases idIn (τ := τ) format disk path <;> simp [Except.toOption]

/-- A file that cannot be loaded does not end a scan. -/
def Passable (format : Format) (disk : Disk) (path : String) : Prop :=
  ∀ fault, idIn (τ := τ) format disk path = .error fault → fault.isOfOneTest = true

omit [DecidableEq τ] in
theorem passable_iff {format : Format} {disk : Disk} {path : String} :
    Passable (τ := τ) format disk path ↔
      (((idIn (τ := τ) format disk path).map fun _ => true).tryCatch fun fault =>
        .ok fault.isOfOneTest).toOption = some true := by
  unfold Passable
  cases idIn (τ := τ) format disk path <;> simp [Except.map, Except.tryCatch, Except.toOption]

instance (format : Format) (disk : Disk) (path : String) :
    Decidable (Passable (τ := τ) format disk path) :=
  decidable_of_iff _ passable_iff.symm

/-- The test was loaded from its file while the clock gave these readings. -/
def Found.LoadedAt (format : Format) (disk : Disk) (readings : Nat → Int)
    (found : Found τ) : Prop :=
  ∃ supply : Supply, supply.millisAt = readings ∧
    (loadFile format disk found.path supply).1 = .ok found.test

omit [DecidableEq τ] in
theorem Found.LoadedAt.idIn {format : Format} {disk : Disk} {readings : Nat → Int} {found : Found τ}
    (h : found.LoadedAt format disk readings) :
    idIn format disk found.path = .ok found.test.id := by
  obtain ⟨supply, -, hload⟩ := h
  rw [idIn_eq format disk found.path supply, hload]
  rfl

/-- What is answered when a test was looked for. -/
def answer (id : τ) : Option (Found τ) → Except Fault (Test τ)
  | some found => .ok found.test
  | none => .error (.unknownTest (Textual.shown id))

omit [Textual τ] in
theorem find?_cons_id (first : Found τ) (rest : List (Found τ)) (id : τ) :
    (first :: rest).find? (·.test.id == id) =
      if first.test.id = id then some first else rest.find? (·.test.id == id) := by
  by_cases h : first.test.id = id
  · simp [h]
  · rw [List.find?_cons, beq_eq_false_iff_ne.mpr h, if_neg h]

omit [Textual τ] in
/-- A test that was entered is found under its identifier, and no other answer changes. -/
theorem find?_enter (new : Found τ) (found : List (Found τ)) (id : τ) :
    (Found.enter new found).find? (·.test.id == id) =
      if new.test.id = id then some new else found.find? (·.test.id == id) := by
  induction found with
  | nil => exact find?_cons_id new [] id
  | cons old rest ih =>
      unfold Found.enter
      split
      next hsame =>
        rw [find?_cons_id, find?_cons_id, hsame]
        split <;> rfl
      next hdiffers =>
        rw [find?_cons_id, find?_cons_id, ih]
        by_cases hnew : new.test.id = id
        · rw [if_pos hnew, if_neg fun hold => hdiffers (hold.trans hnew.symm)]
          exact (if_pos hnew).symm
        · rw [if_neg hnew, if_neg hnew]

omit [Textual τ] in
theorem mem_enter {new found : Found τ} {entered : List (Found τ)} (h : found ∈ new.enter entered) :
    found = new ∨ found ∈ entered := by
  induction entered with
  | nil => exact .inl (List.mem_singleton.mp h)
  | cons old rest ih =>
      unfold Found.enter at h
      split at h
      next =>
        rcases List.mem_cons.mp h with hnew | hrest
        · exact .inl hnew
        · exact .inr (List.mem_cons_of_mem _ hrest)
      next =>
        rcases List.mem_cons.mp h with hold | hrest
        · exact .inr (hold ▸ List.mem_cons_self)
        · exact (ih hrest).imp_right (List.mem_cons_of_mem _)

/-- A path that comes later is in front of the one that was there before. -/
theorem getLast?_cons_or (path : String) (later : List String) (old : Option String) :
    (path :: later).getLast?.or old = later.getLast?.or (some path) := by
  rw [List.getLast?_cons]
  cases later.getLast? <;> rfl

namespace Directory

variable {r : Directory} {disk : Disk}

/-- The course of a scan behind what was found so far. Each file gives a test, is passed over, or
ends the scan. -/
inductive Scans (format : Format) (disk : Disk) (readings : Nat → Int) :
    List (Found τ) → List String → Except Fault (List (Found τ)) → Prop
  | done {found : List (Found τ)} : Scans format disk readings found [] (.ok found)
  | loaded {found : List (Found τ)} {path : String} {rest : List String} {test : Test τ}
      {result : Except Fault (List (Found τ))}
      (hload : Found.LoadedAt format disk readings ⟨test, path⟩)
      (hrest : Scans format disk readings (Found.enter ⟨test, path⟩ found) rest result) :
      Scans format disk readings found (path :: rest) result
  | passed {found : List (Found τ)} {path : String} {rest : List String} {fault : Fault}
      {result : Except Fault (List (Found τ))} (hid : idIn (τ := τ) format disk path = .error fault)
      (hone : fault.isOfOneTest = true) (hrest : Scans format disk readings found rest result) :
      Scans format disk readings found (path :: rest) result
  | ended {found : List (Found τ)} {path : String} {rest : List String} {fault : Fault}
      (hid : idIn (τ := τ) format disk path = .error fault) (hends : fault.isOfOneTest = false) :
      Scans format disk readings found (path :: rest) (.error fault)

namespace Scans

variable {format : Format} {readings : Nat → Int} {found tests : List (Found τ)}
    {paths : List String}

/-- A scan of files takes one of the courses that a scan can take. -/
theorem of_scanFiles {skipped : List Datum} {supply : Supply}
    {result : Except Fault (List (Found τ))}
    (h : (r.scanFiles disk found skipped paths supply).result = result) :
    Scans r.format disk supply.millisAt found paths result := by
  subst h
  induction paths generalizing found skipped supply with
  | nil => exact .done
  | cons path rest ih =>
      have hid := idIn_eq (τ := τ) r.format disk path supply
      have hmillis := millisAt_loadFile (τ := τ) r.format disk path supply
      rw [scanFiles]
      rcases hfile : loadFile (τ := τ) r.format disk path supply with ⟨result, after⟩
      rw [hfile] at hid hmillis
      cases result with
      | ok test => exact .loaded ⟨supply, rfl, by rw [hfile]⟩ (hmillis ▸ ih)
      | error fault =>
          dsimp only
          split
          next hone => exact .passed hid hone (hmillis ▸ ih)
          next hends => exact .ended hid (Bool.eq_false_iff.mpr hends)

/-- In a scan that comes to an end no file ends it. -/
theorem passable (hscan : Scans format disk readings found paths (.ok tests)) :
    ∀ path ∈ paths, Passable (τ := τ) format disk path := by
  generalize hresult : Except.ok tests = result at hscan
  induction hscan with
  | done => exact List.forall_mem_nil _
  | loaded hload _ ih =>
      refine List.forall_mem_cons.mpr ⟨fun fault hfault => ?_, ih hresult⟩
      cases hload.idIn.symm.trans hfault
  | passed hid hone _ ih =>
      refine List.forall_mem_cons.mpr ⟨fun fault hfault => ?_, ih hresult⟩
      cases hid.symm.trans hfault
      exact hone
  | ended => cases hresult

/-- What a scan adds was loaded from its file at the time of the scan. -/
theorem loadedAt (hscan : Scans format disk readings found paths (.ok tests)) :
    ∀ f ∈ tests, f ∈ found ∨ f.LoadedAt format disk readings := by
  generalize hresult : Except.ok tests = result at hscan
  induction hscan with
  | done =>
      cases hresult
      exact fun _ => .inl
  | loaded hload _ ih =>
      intro f hf
      rcases ih hresult f hf with hmem | hload'
      · rcases mem_enter hmem with rfl | hold
        · exact .inr hload
        · exact .inl hold
      · exact .inr hload'
  | passed _ _ _ ih => exact ih hresult
  | ended => cases hresult

/-- A scan finds a test in the last file that holds it, or else where it was found before. -/
theorem find? (hscan : Scans format disk readings found paths (.ok tests)) (id : τ) :
    (tests.find? (·.test.id == id)).map (·.path) =
      (paths.filter (holds format disk id)).getLast?.or
        ((found.find? (·.test.id == id)).map (·.path)) := by
  generalize hresult : Except.ok tests = result at hscan
  induction hscan with
  | done =>
      cases hresult
      rfl
  | @loaded _ _ _ test _ hload _ ih =>
      -- The test takes the place of what was found before, and later ones that of it.
      rw [ih hresult, find?_enter, List.filter_cons, holds_of_ok hload.idIn]
      by_cases hsame : test.id = id
      · rw [if_pos hsame, if_pos (beq_iff_eq.mpr hsame), getLast?_cons_or]
        rfl
      · rw [if_neg hsame, if_neg fun hid => hsame (beq_iff_eq.mp hid)]
  | passed hid _ _ ih =>
      rw [ih hresult, List.filter_cons, holds_of_error hid, if_neg Bool.false_ne_true]
  | ended => cases hresult

/-- A scan ends at a file whose fault is not its own. -/
theorem fault {fault : Fault} (hscan : Scans format disk readings found paths (.error fault)) :
    fault.isOfOneTest = false ∧ ∃ path ∈ paths, idIn (τ := τ) format disk path = .error fault := by
  generalize hresult : Except.error fault = result at hscan
  induction hscan with
  | done => cases hresult
  | loaded _ _ ih | passed _ _ _ ih =>
      obtain ⟨hends, path, hpath, hid⟩ := ih hresult
      exact ⟨hends, path, List.mem_cons_of_mem _ hpath, hid⟩
  | ended hid hends =>
      cases hresult
      exact ⟨hends, _, List.mem_cons_self, hid⟩

/-- A file that ends a scan ends every scan. -/
theorem error_again {fault : Fault}
    (hscan : Scans format disk readings found paths (.error fault)) {later : Nat → Int}
    {others : List (Found τ)} {result : Except Fault (List (Found τ))}
    (hagain : Scans format disk later others paths result) : result = .error fault := by
  generalize hresult : Except.error fault = first at hscan
  induction hscan generalizing others with
  | done => cases hresult
  | loaded hload _ ih =>
      cases hagain with
      | loaded _ hrest => exact ih hrest hresult
      | passed hid | ended hid => cases hload.idIn.symm.trans hid
  | passed hid hone _ ih =>
      cases hagain with
      | loaded hload => cases hload.idIn.symm.trans hid
      | passed _ _ hrest => exact ih hrest hresult
      | ended hid' hends =>
          cases hid.symm.trans hid'
          cases hone.symm.trans hends
  | ended hid hends =>
      cases hagain with
      | loaded hload => cases hload.idIn.symm.trans hid
      | passed hid' hone =>
          cases hid.symm.trans hid'
          cases hone.symm.trans hends
      | ended hid' =>
          cases hid.symm.trans hid'
          rfl

end Scans

/-- A scan that ends met no fault but those of single tests. What it found was loaded, and for each
identifier it is from the last file that has it. -/
theorem scanFiles_ok {paths : List String} {found tests : List (Found τ)} {skipped : List Datum}
    {supply : Supply} (h : (r.scanFiles disk found skipped paths supply).result = .ok tests) :
    (∀ path ∈ paths, Passable (τ := τ) r.format disk path) ∧
      (∀ f ∈ tests, f ∈ found ∨ f.LoadedAt r.format disk supply.millisAt) ∧
      ∀ id, (tests.find? (·.test.id == id)).map (·.path) =
        (paths.filter (holds r.format disk id)).getLast?.or
          ((found.find? (·.test.id == id)).map (·.path)) := by
  have hscan := Scans.of_scanFiles h
  exact ⟨hscan.passable, hscan.loadedAt, hscan.find?⟩

/-- A scan comes to an end if no file ends it. -/
theorem scanFiles_total {paths : List String} (found : List (Found τ)) (skipped : List Datum)
    (supply : Supply) (hpaths : ∀ path ∈ paths, Passable (τ := τ) r.format disk path) :
    ∃ tests, (r.scanFiles disk found skipped paths supply).result = .ok tests := by
  cases hresult : (r.scanFiles disk found skipped paths supply).result with
  | ok tests => exact ⟨tests, rfl⟩
  | error fault =>
      obtain ⟨hends, path, hpath, hid⟩ := (Scans.of_scanFiles hresult).fault
      cases (hpaths path hpath fault hid).symm.trans hends

theorem scanFiles_error {paths : List String} {found others : List (Found τ)}
    {skipped passed : List Datum} {supply other : Supply} {fault : Fault}
    (h : (r.scanFiles disk found skipped paths supply).result = .error fault) :
    (r.scanFiles disk others passed paths other).result = .error fault :=
  (Scans.of_scanFiles h).error_again (.of_scanFiles rfl)

/-- For each identifier a scan finds the test in the last file that has it. -/
theorem find?_of_scan {tests : List (Found τ)} {supply : Supply}
    (h : (r.scan disk supply).result = .ok tests) (id : τ) :
    (tests.find? (·.test.id == id)).map (·.path) =
      ((r.files disk).filter (holds r.format disk id)).getLast? := by
  simpa using (scanFiles_ok h).2.2 id

theorem mem_files_of_find? {tests : List (Found τ)} {supply : Supply}
    (h : (r.scan disk supply).result = .ok tests) {id : τ} {found : Found τ}
    (hfound : tests.find? (·.test.id == id) = some found) :
    found.path ∈ r.files disk ∧ idIn r.format disk found.path = .ok id := by
  have hlast := find?_of_scan h id
  rw [hfound, Option.map_some, eq_comm] at hlast
  obtain ⟨hmem, hheld⟩ := List.mem_filter.mp (List.mem_of_getLast? hlast)
  exact ⟨hmem, holds_iff.mp hheld⟩

theorem loadedAt_of_find? {tests : List (Found τ)} {supply : Supply}
    (h : (r.scan disk supply).result = .ok tests) {id : τ} {found : Found τ}
    (hfound : tests.find? (·.test.id == id) = some found) :
    found.LoadedAt r.format disk supply.millisAt :=
  ((scanFiles_ok h).2.1 found (List.mem_of_find?_eq_some hfound)).resolve_left List.not_mem_nil

theorem get_of_scan {tests : List (Found τ)} {supply : Supply} (id : τ)
    (h : (r.scan disk supply).result = .ok tests) :
    (r.get disk id supply).result = answer id (tests.find? (·.test.id == id)) := by
  unfold get Reply.andThen testWithId
  simp only [h, Except.bind, List.find?_map, Function.comp_def]
  cases tests.find? (·.test.id == id) <;> rfl

/-- Who looks for a test while a scan fails is told of its fault, or that there is no such test. -/
theorem get_of_error {fault : Fault} {supply : Supply} (id : τ)
    (h : (r.scan (τ := τ) disk supply).result = .error fault) :
    (r.get disk id supply).result = .error (fault.toSeeker (Textual.shown id)) := by
  unfold get Reply.andThen Reply.told
  simp only [h, Except.bind, Except.mapError]

/-- An identifier has the same answer on two disks if the last file with it is the same. -/
theorem get_sameAt {other : Disk} {id : τ} {before after : Supply} {tests others : List (Found τ)}
    (htests : (r.scan disk before).result = .ok tests)
    (hothers : (r.scan other after).result = .ok others)
    (hlast : ((r.files disk).filter (holds r.format disk id)).getLast? =
      ((r.files other).filter (holds r.format other id)).getLast?)
    (hfile : ∀ path, ((r.files disk).filter (holds r.format disk id)).getLast? = some path →
      disk.file path = other.file path) :
    SameOutcome (Test.SameAt before.millisAt after.millisAt) (r.get disk id before).result
      (r.get other id after).result := by
  have hpath := find?_of_scan htests id
  have hpath' := find?_of_scan hothers id
  rw [← hlast] at hpath'
  rw [get_of_scan id htests, get_of_scan id hothers]
  cases hfound : tests.find? (·.test.id == id) with
  | none =>
      rw [← hpath, hfound] at hpath'
      rw [Option.map_eq_none_iff.mp hpath']
      rfl
  | some f =>
      rw [hfound, Option.map_some] at hpath
      rw [← hpath] at hpath'
      obtain ⟨g, hfound', hsame⟩ := Option.map_eq_some_iff.mp hpath'
      obtain ⟨s, hs, hload⟩ := loadedAt_of_find? htests hfound
      obtain ⟨t, ht, hload'⟩ := loadedAt_of_find? hothers hfound'
      have htest := loadFile_sameAt (τ := τ) r.format (hfile f.path hpath.symm) s t
      rw [hfound']
      rw [hsame] at hload'
      rwa [hload, hload', hs, ht] at htest

/-- A question that is asked again has the same answer. -/
theorem get_again (r : Directory) (disk : Disk) (id : τ) (before after : Supply) :
    SameOutcome (Test.SameAt before.millisAt after.millisAt) (r.get disk id before).result
      (r.get disk id after).result := by
  cases hscan : (r.scan (τ := τ) disk before).result with
  | ok tests =>
      obtain ⟨hpassable, _⟩ := scanFiles_ok hscan
      obtain ⟨others, hothers⟩ := scanFiles_total [] [] after hpassable
      exact get_sameAt hscan hothers rfl fun _ _ => rfl
  | error fault =>
      rw [get_of_error id hscan, get_of_error id (scanFiles_error hscan)]
      rfl

end Directory

end Clickpath.Repository
