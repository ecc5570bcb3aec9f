import Clickpath.Proofs.Repository.Finding
import Clickpath.Proofs.Repository.Keeping

/-! # Replacing steps

What replacing the steps of a stored test does. Nothing changes if the test is unknown or a new step
is not sound. Otherwise the test is stored with its new steps in the place where it was, and all
other tests stay as they are.
-/

namespace Clickpath.Repository

open Record

variable {τ : Type} [Textual τ]

/-- The steps that a datum stores. -/
def stepsOf (steps : Datum) : Except Record.Fault (List (Step τ)) := do
  let items ← itemsOf steps
  items.mapM Step.ofDatum

theorem withSteps_eq (test : Test τ) (steps : Datum) :
    withSteps test steps =
      ((stepsOf steps).map fun new => { test with steps := new }).mapError .record := by
  unfold withSteps Test.withSteps stepsOf
  cases itemsOf steps with
  | error fault => rfl
  | ok items =>
      simp only [Bind.bind, Except.bind]
      cases items.mapM (Step.ofDatum (τ := τ)) <;> rfl

/-! ## In memory -/

variable [DecidableEq τ]

namespace Memory

theorem get_ok {m : Memory τ} {id : τ} {test : Test τ} (h : m.get id = .ok test) :
    m.tests.find? (·.id == id) = some test := by
  unfold get testWithId at h
  split at h
  next found hfound =>
    cases h
    exact hfound
  next => cases h

theorem get_save (m : Memory τ) (test : Test τ) (id : τ) :
    (m.save test).get id = if test.id = id then .ok test else m.get id := by
  unfold get testWithId save
  rw [find?_enter]
  by_cases hid : test.id = id
  · rw [if_pos hid, if_pos hid]
  · rw [if_neg hid, if_neg hid]

omit [Textual τ] in
theorem ids_save {m : Memory τ} {test : Test τ} (h : test.id ∈ m.tests.map (·.id)) :
    (m.save test).tests.map (·.id) = m.tests.map (·.id) := by
  unfold save
  rw [ids_enter, if_pos h]

/-- Steps that are refused, or that are for no test, change nothing. -/
theorem replaceSteps_refused {m : Memory τ} {id : τ} {steps : Datum}
    (h : (∃ fault, m.get id = .error fault) ∨ ∃ fault, stepsOf (τ := τ) steps = .error fault) :
    ∃ fault, m.replaceSteps id steps = .error fault := by
  unfold replaceSteps
  cases hget : m.get id with
  | error fault => exact ⟨fault, rfl⟩
  | ok old =>
      rcases h with ⟨fault, hfault⟩ | ⟨fault, hfault⟩
      · cases hget.symm.trans hfault
      · simp only [withSteps_eq, hfault]
        exact ⟨.record fault, rfl⟩

theorem replaceSteps_ok {m : Memory τ} {id : τ} {steps : Datum} {old : Test τ} {new : List (Step τ)}
    (hold : m.get id = .ok old) (hnew : stepsOf steps = .ok new) :
    m.replaceSteps id steps =
      .ok ({ old with steps := new }, m.save { old with steps := new }) := by
  unfold replaceSteps
  rw [hold]
  simp only [Bind.bind, Except.bind, withSteps_eq, hnew]
  rfl

end Memory

/-! ## Locations of known tests -/

/-- The name of a file does not depend on its directory. -/
theorem stem_join {directory name : String} (hname : '/' ∉ name.toList) :
    Path.stem (Path.join directory name) = Path.stem name := by
  have hbase : ∀ directory, Path.base (Path.join directory name) = name := by
    intro directory
    unfold Path.base
    rw [Path.split_join hname]
  have hself := hbase ""
  rw [Path.join_empty (Path.isAbsolute_of_notMem hname)] at hself
  unfold Path.stem
  rw [hbase, hself]

/-- The record in a file depends on the file and on the last name of its path. -/
theorem recordIn_of_stem {format : Format} {disk : Disk} {first second : String} {file : File}
    (hfirst : disk.file first = .ok file) (hsecond : disk.file second = .ok file)
    (hstem : Path.stem first = Path.stem second) {entries : List (Datum × Datum)}
    (h : recordIn format disk first = .ok entries) :
    recordIn format disk second = .ok entries := by
  -- Of its path a record takes the last name alone.
  have hid : ∀ held, withId first held = withId second held := by
    intro held
    unfold withId
    rw [hstem]
  unfold recordIn at h ⊢
  rw [hfirst] at h
  rw [hsecond]
  obtain ⟨content, hcontent, h⟩ := exists_of_bind_eq_ok h
  cases hcontent
  obtain ⟨text, htext, h⟩ := exists_of_bind_eq_ok h
  obtain ⟨d, hread, h⟩ := exists_of_bind_eq_ok h
  simp only [mapError_ok, Bind.bind, Except.bind, htext, hread]
  cases d with
  | map held =>
      simp only [← hid]
      exact h
  | _ => cases h

namespace Directory

variable {r : Directory} {disk : Disk}

theorem file_of_entryAt? {path : String} {place : Location} {file : File}
    (hlocate : disk.locate path = .ok place) (hfile : disk.entryAt? place = some (.file file)) :
    disk.file path = .ok file := by
  unfold Disk.file
  rw [hlocate]
  simp only [hfile]

omit [DecidableEq τ] in
/-- Paths by which a scan comes to one file have one last name, so that they hold one test. -/
theorem idIn_of_visitedBy (hsound : disk.Sound) {place : Location} {first second : String} {id : τ}
    (hfirst : r.VisitedBy disk place first) (hsecond : r.VisitedBy disk place second)
    (hid : idIn r.format disk first = .ok id) : idIn r.format disk second = .ok id := by
  obtain ⟨found, _, name, rfl, hslash, _, hlocate⟩ := hfirst
  obtain ⟨other, _, name', rfl, hslash', _, hlocate'⟩ := hsecond
  obtain ⟨file, hfile⟩ := file_of_isOk hid hlocate
  have hplace : disk.entryAt? place ≠ some .directory := by
    rw [hfile]
    exact nofun
  obtain ⟨above, _, _, rfl⟩ := locate_join_name hsound hslash hlocate hplace
  obtain ⟨above', _, _, hwhole⟩ := locate_join_name hsound hslash' hlocate' hplace
  obtain ⟨_, hname⟩ := List.append_inj' hwhole rfl
  obtain rfl := List.singleton_inj.mp hname
  have hstem : Path.stem (Path.join found name) = Path.stem (Path.join other name) := by
    rw [stem_join hslash, stem_join hslash]
  unfold idIn loadFile at hid ⊢
  cases hrecord : recordIn r.format disk (Path.join found name) with
  | error fault =>
      rw [hrecord] at hid
      cases hid
  | ok entries =>
      rw [hrecord] at hid
      rw [recordIn_of_stem (file_of_entryAt? hlocate hfile) (file_of_entryAt? hlocate' hfile) hstem
        hrecord]
      exact hid

theorem save_known (test : Test τ) {tests : List (Found τ)} {supply : Supply}
    (hscan : (r.scan disk supply).result = .ok tests)
    (hknown : tests.find? (·.test.id == test.id) ≠ none) :
    ∃ place file, disk.locate (r.pathFor tests test.id) = .ok place ∧
      disk.entryAt? place = some (.file file) ∧
      (r.save disk test supply).1.result = .ok test ∧
      (r.save disk test supply).2 = r.withTest disk place test := by
  obtain ⟨there, hfound⟩ := Option.ne_none_iff_exists'.mp hknown
  obtain ⟨place, file, hlocate, hfile, hstored⟩ := store_of_find? hscan hfound
  obtain ⟨hresult, hwritten⟩ := save_of_scan hscan test
  rw [hstored] at hresult hwritten
  exact ⟨place, file, by rw [pathFor_of_find? hfound, hlocate], hfile, hresult, hwritten⟩

/-! ## In a directory -/

/-- A test that is found has the identifier that was asked for. -/
theorem find?_of_get {id : τ} {test : Test τ} {tests : List (Found τ)} {supply : Supply}
    (hscan : (r.scan disk supply).result = .ok tests)
    (hget : (r.get disk id supply).result = .ok test) :
    test.id = id ∧ tests.find? (·.test.id == id) ≠ none := by
  rw [get_of_scan id hscan] at hget
  cases hfound : tests.find? (·.test.id == id) with
  | none =>
      rw [hfound] at hget
      cases hget
  | some f =>
      rw [hfound] at hget
      cases hget
      have hid := List.find?_some hfound
      simp only [beq_iff_eq] at hid
      exact ⟨hid, nofun⟩

theorem replaceSteps_error {id : τ} {steps : Datum} {supply : Supply} {fault : Fault}
    (h : ((r.get disk id supply).result.bind fun test => withSteps test steps) = .error fault) :
    (r.replaceSteps disk id steps supply).1.result = .error fault ∧
      (r.replaceSteps disk id steps supply).2 = disk := by
  unfold replaceSteps Reply.andThen
  simp only [h]
  exact ⟨trivial, trivial⟩

theorem replaceSteps_ok {id : τ} {steps : Datum} {supply : Supply} {updated : Test τ}
    (h : ((r.get disk id supply).result.bind fun test => withSteps test steps) = .ok updated) :
    (r.replaceSteps disk id steps supply).1.result =
        (r.save disk updated (r.get disk id supply).supply).1.result ∧
      (r.replaceSteps disk id steps supply).2 =
        (r.save disk updated (r.get disk id supply).supply).2 := by
  unfold replaceSteps Reply.andThen
  simp only [h]
  exact ⟨trivial, trivial⟩

/-- Steps that are refused, or that are for no test, leave the disk as it is. -/
theorem replaceSteps_refused {id : τ} {steps : Datum} {before : Supply} (during : Supply)
    (h : (∃ fault, (r.get disk id before).result = .error fault) ∨
      ∃ fault, stepsOf (τ := τ) steps = .error fault) :
    (∃ fault, (r.replaceSteps disk id steps during).1.result = .error fault) ∧
      (r.replaceSteps disk id steps during).2 = disk := by
  obtain ⟨fault, hfault⟩ : ∃ fault,
      ((r.get disk id during).result.bind fun test => withSteps test steps) = .error fault := by
    rcases (get_again r disk id before during).cases with
      ⟨old, test, hold, htest, _⟩ | ⟨fault, _, hlost⟩
    · rcases h with ⟨fault, hlost⟩ | ⟨fault, hsteps⟩
      · cases hold.symm.trans hlost
      · refine ⟨.record fault, ?_⟩
        rw [htest]
        simp only [Except.bind, withSteps_eq, hsteps]
        rfl
    · exact ⟨fault, by rw [hlost]; rfl⟩
  obtain ⟨hresult, hdisk⟩ := replaceSteps_error hfault
  exact ⟨⟨fault, hresult⟩, hdisk⟩

/-- A test with new steps is saved in the file where the test was found a moment before. -/
theorem replaceSteps_saves {id : τ} {steps : Datum} {before : Supply} (during : Supply)
    {tests : List (Found τ)} (hscan : (r.scan disk before).result = .ok tests) {old : Test τ}
    {new : List (Step τ)} (hold : (r.get disk id before).result = .ok old)
    (hnew : stepsOf steps = .ok new) :
    ∃ found later place file, (r.scan disk later).result = .ok found ∧
      found.find? (·.test.id == old.id) ≠ none ∧
      disk.locate (r.pathFor found old.id) = .ok place ∧
      disk.entryAt? place = some (.file file) ∧
      (r.replaceSteps disk id steps during).1.result = .ok { old with steps := new } ∧
      (r.replaceSteps disk id steps during).2 =
        r.withTest disk place { old with steps := new } := by
  obtain ⟨rfl, _⟩ := find?_of_get hscan hold
  -- The test that is found meanwhile can differ in its steps alone, and they are replaced.
  have hreplaced : ((r.get disk old.id during).result.bind fun test => withSteps test steps) =
      .ok { old with steps := new } := by
    have hagain := get_again r disk old.id before during
    rw [hold] at hagain
    cases hget : (r.get disk old.id during).result with
    | error fault =>
        rw [hget] at hagain
        exact hagain.elim
    | ok test =>
        rw [hget] at hagain
        simp only [Except.bind, withSteps_eq, hnew]
        rw [hagain.2]
        rfl
  obtain ⟨hresult, hdisk⟩ := replaceSteps_ok hreplaced
  have hpassable := (scanFiles_ok hscan).1
  obtain ⟨found, hfound⟩ :=
    scanFiles_total [] [] (r.get disk old.id during).supply hpassable
  have hknown : found.find? (·.test.id == old.id) ≠ none := by
    have hagain := get_again r disk old.id before (r.get disk old.id during).supply
    rw [hold] at hagain
    cases hget : (r.get disk old.id (r.get disk old.id during).supply).result with
    | error fault =>
        rw [hget] at hagain
        exact hagain.elim
    | ok test => exact (find?_of_get hfound hget).2
  obtain ⟨place, file, hlocate, hfile, hsaved, hwritten⟩ :=
    save_known { old with steps := new } hfound hknown
  exact ⟨found, _, place, file, hfound, hknown, hlocate, hfile, hresult.trans hsaved,
    hdisk.trans hwritten⟩

/-- Writing a known test changes the answer for no other identifier, as its file holds no other
test. -/
theorem get_withTest_of_known (hsound : disk.Sound) (hnamed : disk.Named) {test : Test τ}
    (hformat : r.format.Restores test.toDatum) {tests : List (Found τ)} {during : Supply}
    (hscan : (r.scan disk during).result = .ok tests)
    (hknown : tests.find? (·.test.id == test.id) ≠ none) {place : Location} {file : File}
    (hlocate : disk.locate (r.pathFor tests test.id) = .ok place)
    (hfile : disk.entryAt? place = some (.file file)) {id : τ} (hid : id ≠ test.id)
    (before after : Supply) :
    SameOutcome (Test.SameAt before.millisAt after.millisAt) (r.get disk id before).result
      (r.get (r.withTest disk place test) id after).result := by
  have hplace : disk.entryAt? place ≠ some .directory := by
    rw [hfile]
    exact nofun
  refine get_withTest_of_ne hsound hformat hscan hlocate hplace hid ?_ before after
  -- Otherwise the file of the known test would hold the other identifier.
  intro g hg hleads
  obtain ⟨f, hf⟩ := Option.ne_none_iff_exists'.mp hknown
  obtain ⟨hfListed, hfId⟩ := mem_files_of_find? hscan hf
  obtain ⟨hgListed, hgId⟩ := mem_files_of_find? hscan hg
  rw [pathFor_of_find? hf] at hlocate
  have hsame := idIn_of_visitedBy hsound (visitedBy_of_mem_files hnamed hfListed hlocate)
    (visitedBy_of_mem_files hnamed hgListed hleads) hfId
  exact hid (Except.ok.inj (hgId.symm.trans hsame))

omit [DecidableEq τ] in
theorem places_withTest {test : Test τ} {place : Location} {file : File}
    (hfile : disk.entryAt? place = some (.file file)) :
    (r.withTest disk place test).entries.map (·.1) = disk.entries.map (·.1) := by
  cases place with
  | nil => cases hfile
  | cons name above => exact Disk.places_enter hfile

end Directory

/-! ## Frames -/

/-- In memory a test took the place of the one with its identifier, and nothing else changed. -/
structure Memory.Updates (m replaced : Memory τ) (test : Test τ) : Prop where
  found : replaced.get test.id = .ok test
  ids : replaced.tests.map (·.id) = m.tests.map (·.id)
  others : ∀ id, id ≠ test.id → replaced.get id = m.get id

/-- In a directory a test took the place of the one with its identifier, and nothing else changed. A
value that is blank is not read again, and captures without a name are given one at each reading. -/
structure Directory.Updates (r : Directory) (before after : Supply) (disk replaced : Disk)
    (test : Test τ) : Prop where
  found : (∀ s ∈ test.steps, s.Filled) → (r.get replaced test.id after).result = .ok test
  places : replaced.entries.map (·.1) = disk.entries.map (·.1)
  elsewhere : ∃ place, ∀ other, other ≠ place → replaced.entryAt? other = disk.entryAt? other
  others : ∀ id, id ≠ test.id → SameOutcome (Test.SameAt before.millisAt after.millisAt)
    (r.get disk id before).result (r.get replaced id after).result
  othersStill : (∀ i j, before.millisAt i = after.millisAt j) → ∀ id, id ≠ test.id →
    (r.get replaced id after).result = (r.get disk id before).result

/-- Steps that are replaced are those of one test alone, and they are read back as they were
stored. -/
theorem Directory.replaceSteps_updates {r : Directory} {disk : Disk} {id : τ} {steps : Datum}
    {before : Supply} (during after : Supply) (hsound : disk.Sound) (hnamed : disk.Named)
    {tests : List (Found τ)} (hscan : (r.scan disk before).result = .ok tests) {old : Test τ}
    {new : List (Step τ)} (hold : (r.get disk id before).result = .ok old)
    (hnew : stepsOf steps = .ok new)
    (hformat : r.format.Restores (Test.toDatum { old with steps := new })) :
    (r.replaceSteps disk id steps during).1.result = .ok { old with steps := new } ∧
      r.Updates before after disk (r.replaceSteps disk id steps during).2
        { old with steps := new } := by
  obtain ⟨found, later, place, file, hfound, hknown, hlocate, hfile, hresult, hwritten⟩ :=
    replaceSteps_saves during hscan hold hnew
  have hplace : disk.entryAt? place ≠ some .directory := by
    rw [hfile]
    exact nofun
  have hothers : ∀ other, other ≠ old.id →
      SameOutcome (Test.SameAt before.millisAt after.millisAt) (r.get disk other before).result
        (r.get (r.withTest disk place { old with steps := new }) other after).result := by
    intro other hother
    exact get_withTest_of_known hsound hnamed hformat hfound hknown hlocate hfile hother before
      after
  refine ⟨hresult, ?_⟩
  rw [hwritten]
  constructor
  case found =>
    intro hfilled
    exact get_withTest hsound hnamed hformat hfound hlocate hplace
      ((Test.reread_eq_self_iff _).mpr hfilled)
      ⟨_, visitedBy_of_known hnamed hfound hknown hlocate⟩ after
  case places => exact places_withTest hfile
  case elsewhere =>
    refine ⟨place, fun other hother => ?_⟩
    rw [entryAt?_withTest hplace, if_neg hother]
  case others => exact hothers
  case othersStill =>
    intro hclock other hother
    exact ((hothers other hother).eq fun _ _ h => h.eq hclock).symm

/-- In memory the steps of one test are replaced, and nothing else changes. -/
theorem Memory.replaceSteps_updates {m : Memory τ} {id : τ} {steps : Datum} {old : Test τ}
    {new : List (Step τ)} (hold : m.get id = .ok old) (hnew : stepsOf steps = .ok new) :
    ∃ replaced, m.replaceSteps id steps = .ok ({ old with steps := new }, replaced) ∧
      m.Updates replaced { old with steps := new } := by
  have hmem := List.mem_of_find?_eq_some (get_ok hold)
  refine ⟨_, replaceSteps_ok hold hnew, ?_, ?_, fun other hother => ?_⟩
  · rw [get_save, if_pos rfl]
  · exact ids_save (List.mem_map.mpr ⟨old, hmem, rfl⟩)
  · rw [get_save, if_neg (Ne.symm hother)]

/-- Replacing the steps of an unknown test, or by steps that are not sound, fails and leaves
everything as it was. Otherwise the test is the old one but for its steps, and is stored in its
place. -/
theorem replaceSteps_framed :
    (∀ (m : Memory τ) (id : τ) (steps : Datum),
        ((∃ fault, m.get id = .error fault) ∨ (∃ fault, stepsOf (τ := τ) steps = .error fault) →
          ∃ fault, m.replaceSteps id steps = .error fault) ∧
        ∀ old new, m.get id = .ok old → stepsOf steps = .ok new →
          old.id = id ∧ ∃ replaced,
            m.replaceSteps id steps = .ok ({ old with steps := new }, replaced) ∧
            m.Updates replaced { old with steps := new }) ∧
      ∀ (r : Directory) (disk : Disk) (id : τ) (steps : Datum) (before during after : Supply),
        disk.Sound → disk.Named →
        (∃ tests : List (Found τ), (r.scan disk before).result = .ok tests) →
        ((∃ fault, (r.get disk id before).result = .error fault) ∨
            (∃ fault, stepsOf (τ := τ) steps = .error fault) →
          (∃ fault, (r.replaceSteps disk id steps during).1.result = .error fault) ∧
            (r.replaceSteps disk id steps during).2 = disk) ∧
        ∀ old new, (r.get disk id before).result = .ok old → stepsOf steps = .ok new →
          r.format.Restores (Test.toDatum { old with steps := new }) →
          old.id = id ∧
            (r.replaceSteps disk id steps during).1.result = .ok { old with steps := new } ∧
            r.Updates before after disk (r.replaceSteps disk id steps during).2
              { old with steps := new } := by
  constructor
  · intro m id steps
    refine ⟨Memory.replaceSteps_refused, fun old new hold hnew => ⟨?_, ?_⟩⟩
    · have hid := List.find?_some (Memory.get_ok hold)
      simpa using hid
    · exact Memory.replaceSteps_updates hold hnew
  · intro r disk id steps before during after hsound hnamed ⟨tests, hscan⟩
    refine ⟨Directory.replaceSteps_refused during, fun old new hold hnew hformat => ⟨?_, ?_⟩⟩
    · exact (Directory.find?_of_get hscan hold).1
    · exact Directory.replaceSteps_updates during after hsound hnamed hscan hold hnew hformat

/-- A directory with two tests, of which one makes a capture without a name. -/
def captures : Disk where
  entries := [(["tests"], .directory),
    (["tests", "login.yaml"], .file ⟨.text
      "name: n\ncreated_at: '2024-05-01T12:00:00Z'\nsteps:\n- type: SCREENSHOT\n  value: a.png\n",
        0⟩),
    (["tests", "shot.yaml"], .file ⟨.text "name: n\nsteps:\n- type: SCREENSHOT\n", 0⟩)]
  current := []
  present := 1

theorem sound_captures : captures.Sound := by
  apply Disk.sound_of_entries
  simp [captures, Disk.entryAt?, Disk.lookup_cons]

theorem named_captures : captures.Named := by
  unfold Disk.Named
  decide

theorem files_captures :
    Directory.yamlTests.files captures = ["tests/login.yaml", "tests/shot.yaml"] := by
  have hmatching : Directory.patterns.flatMap (fun pattern => captures.matching "tests" pattern) =
      ["tests/login.yaml", "tests/shot.yaml"] := by decide
  unfold Directory.files
  rw [show Directory.yamlTests.path = "tests" from rfl, hmatching]
  apply List.mergeSort_of_pairwise
  decide

/-- Both tests are found in the directory, at either time. -/
theorem scan_captures (millis : Int) (h : millis ∈ [1000, 4000]) :
    ∃ first second : Found,
      (Directory.yamlTests.scan captures (.still millis)).result = .ok [first, second] ∧
        { first.test with steps := [] } = Directory.login ∧ second.test.id = "shot" ∧
        second.test.steps.map Step.value? = [some (Designer.generatedName millis)] := by
  have hfound : ∀ millis ∈ [1000, 4000],
      (Directory.yamlTests.scanFiles captures [] [] ["tests/login.yaml", "tests/shot.yaml"]
        (.still millis)).result.toOption.map (·.map fun found =>
          (decide ({ found.test with steps := [] } = Directory.login), found.test.id,
            found.test.steps.map Step.value?)) =
        some [(true, "login", [some "a.png"]),
          (false, "shot", [some (Designer.generatedName millis)])] := by decide +kernel
  rw [Directory.scan, files_captures]
  obtain ⟨first, second, hresult, hfirst, hsecond⟩ := Directory.eq_ok_pair (hfound millis h)
  simp only [Prod.mk.injEq, decide_eq_true_eq] at hfirst hsecond
  exact ⟨first, second, hresult, hfirst.1, hsecond.2⟩

theorem get_captures (millis : Int) (h : millis ∈ [1000, 4000]) :
    (∃ old, (Directory.yamlTests.get captures "login" (.still millis)).result = .ok old ∧
        { old with steps := [] } = Directory.login) ∧
      ∃ shot, (Directory.yamlTests.get captures "shot" (.still millis)).result = .ok shot ∧
        shot.steps.map Step.value? = [some (Designer.generatedName millis)] := by
  obtain ⟨first, second, hscan, hlogin, hshot, hvalues⟩ := scan_captures millis h
  have hid : first.test.id = "login" := congrArg Test.id hlogin
  refine ⟨⟨first.test, ?_, hlogin⟩, second.test, ?_, hvalues⟩
  · rw [Directory.get_of_scan "login" hscan, find?_cons_id, if_pos hid]
    rfl
  · rw [Directory.get_of_scan "shot" hscan, find?_cons_id, find?_cons_id, if_neg (by simp [hid]),
      if_pos hshot]
    rfl

/-- The other test is found with a new name for its capture after steps were replaced. -/
theorem replaceSteps_redraws :
    ∃ first second,
      (Directory.yamlTests.get captures "shot" (.still 1000)).result = .ok first ∧
        (Directory.yamlTests.replaceSteps captures "login" (.list []) (.still 2000)).1.result =
          .ok Directory.login ∧
        (Directory.yamlTests.get
          (Directory.yamlTests.replaceSteps captures "login" (.list []) (.still 2000)).2 "shot"
          (.still 4000)).result = .ok second ∧ first ≠ second := by
  obtain ⟨_, first, hfirst, hvalues⟩ := get_captures 1000 (by simp)
  obtain ⟨⟨old, hold, hlogin⟩, second, hsecond, hvalues'⟩ :=
    get_captures 4000 (by simp)
  obtain ⟨_, _, hscan, _⟩ := scan_captures 4000 (by simp)
  have hnone : stepsOf (.list []) = .ok [] := rfl
  obtain ⟨hresult, hupdates⟩ := Directory.replaceSteps_updates (.still 2000) (.still 4000)
    sound_captures named_captures hscan hold hnone (by rw [hlogin]; exact Directory.restores_login)
  refine ⟨first, second, hfirst, by rw [hresult, hlogin], ?_, ?_⟩
  · rw [hupdates.othersStill (fun _ _ => rfl) "shot" (by rw [hlogin]; decide), hsecond]
  · rintro rfl
    have hnames : Designer.generatedName 1000 ≠ Designer.generatedName 4000 := by decide
    simp only [hvalues, List.cons.injEq, Option.some.injEq, and_true] at hvalues'
    exact hnames hvalues'

/-- In memory and in the directory a test loses its steps, and a step without a target is
refused. -/
theorem replaceSteps_framed_captures :
    (∃ replaced, (Memory.mk [Directory.login]).replaceSteps "login" (.list []) =
        .ok (Directory.login, replaced) ∧ replaced.get "login" = .ok Directory.login) ∧
      (Directory.yamlTests.get
        (Directory.yamlTests.replaceSteps captures "login" (.list []) (.still 2000)).2 "login"
        (.still 3000)).result = .ok Directory.login ∧
      (Directory.yamlTests.replaceSteps captures "login"
        (.list [.ofFields [("kind", .text "click")]]) (.still 2000)).2 = captures := by
  obtain ⟨hmemory, hdirectory⟩ := replaceSteps_framed (τ := String)
  obtain ⟨⟨old, hold, hlogin⟩, _⟩ := get_captures 1000 (by simp)
  obtain ⟨_, _, hscan, _⟩ := scan_captures 1000 (by simp)
  refine ⟨?_, ?_, ?_⟩
  · obtain ⟨_, replaced, hreplaced, hupdates⟩ :=
      (hmemory ⟨[Directory.login]⟩ "login" (.list [])).2 Directory.login [] rfl rfl
    exact ⟨replaced, hreplaced, hupdates.found⟩
  · obtain ⟨_, _, hupdates⟩ := (hdirectory Directory.yamlTests captures "login" (.list [])
      (.still 1000) (.still 2000) (.still 3000) sound_captures named_captures ⟨_, hscan⟩).2 old []
      hold rfl (by rw [hlogin]; exact Directory.restores_login)
    rw [hlogin] at hupdates
    exact hupdates.found (List.forall_mem_nil _)
  · exact ((hdirectory Directory.yamlTests captures "login" _ (.still 1000) (.still 2000)
      (.still 3000) sound_captures named_captures ⟨_, hscan⟩).1 (.inr ⟨_, rfl⟩)).2

end Clickpath.Repository
