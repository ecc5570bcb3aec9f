import Clickpath.Proofs.Disk.Removing
import Clickpath.Proofs.Repository.Ordering

/-! # Definitions that are passed over

What a repository answers while some of what it holds is no test. It answers as if that were not
there, unless a fault is met that is not counted to a single test: then no test is listed or found.
-/

namespace Clickpath.Repository

variable {τ : Type}

/-! ## Corresponding listings -/

section

variable {same : Test τ → Test τ → Prop} {tests others : List (Test τ)}

/-- Lists of corresponding tests correspond behind a new entry. -/
theorem enter_forall₂ [DecidableEq τ] (hid : ∀ a b : Test τ, same a b → a.id = b.id)
    {a b : Test τ} (hab : same a b) (h : List.Forall₂ same tests others) :
    List.Forall₂ same (Memory.enter a tests) (Memory.enter b others) := by
  induction h with
  | nil => exact .cons hab .nil
  | cons hhead hrest ih =>
      unfold Memory.enter
      rw [hid _ _ hhead, hid _ _ hab]
      split
      · exact .cons hab hrest
      · exact .cons hhead ih

theorem foldl_save_forall₂ [DecidableEq τ] (hid : ∀ a b : Test τ, same a b → a.id = b.id)
    {saved again : List (Test τ)} (hsaved : List.Forall₂ same saved again)
    (h : List.Forall₂ same tests others) :
    List.Forall₂ same (saved.foldl Memory.save ⟨tests⟩).tests
      (again.foldl Memory.save ⟨others⟩).tests := by
  induction hsaved generalizing tests others with
  | nil => exact h
  | cons hhead _ ih => exact ih (enter_forall₂ hid hhead h)

/-- Lists of corresponding tests are sorted alike, as the times decide. -/
theorem newestFirst_forall₂ (hcreated : ∀ a b : Test τ, same a b → a.created = b.created)
    (h : List.Forall₂ same tests others) :
    List.Forall₂ same (Test.newestFirst tests) (Test.newestFirst others) := by
  obtain ⟨hlength, hpairs⟩ := List.forall₂_iff_zip.mp h
  have hleft : (tests.zip others).map Prod.fst = tests := List.map_fst_zip (Nat.le_of_eq hlength)
  have hright : (tests.zip others).map Prod.snd = others :=
    List.map_snd_zip (Nat.le_of_eq hlength.symm)
  -- Sorting the pairs sorts both sides, as the two tests of a pair are of one time.
  let sorted := (tests.zip others).mergeSort fun p q =>
    decide (q.1.created.orderKey ≤ p.1.created.orderKey)
  have htests : sorted.map Prod.fst = Test.newestFirst tests := by
    rw [← hleft]
    exact List.map_mergeSort fun _ _ _ _ => rfl
  have hothers : sorted.map Prod.snd = Test.newestFirst others := by
    rw [← hright]
    refine List.map_mergeSort ?_
    rintro ⟨a, b⟩ hab ⟨a', b'⟩ hab'
    rw [hcreated a b (hpairs hab), hcreated a' b' (hpairs hab')]
  rw [← htests, ← hothers, List.forall₂_map_left_iff, List.forall₂_map_right_iff, List.forall₂_same]
  rintro ⟨a, b⟩ hab
  exact hpairs ((List.mergeSort_perm _ _).mem_iff.mp hab)

/-- Corresponding tests are of one sort in both lists or in neither. -/
theorem oneSort_of_forall₂ (hcreated : ∀ a b : Test τ, same a b → a.created = b.created)
    (h : List.Forall₂ same tests others) : OneSort tests ↔ OneSort others := by
  have htimes : tests.map (·.created) = others.map (·.created) := by
    rw [← List.forall₂_eq_eq_eq, List.forall₂_map_left_iff, List.forall₂_map_right_iff]
    exact h.imp hcreated
  have hsort : ∀ stored : List (Test τ), OneSort stored ↔
      (∀ m ∈ stored.map (·.created), m.offset.isSome = true) ∨
        ∀ m ∈ stored.map (·.created), m.offset.isSome = false := by
    intro stored
    rw [List.forall_mem_map, List.forall_mem_map]
    rfl
  rw [hsort, hsort, htimes]

/-- Lists of corresponding tests are listed alike, or are both refused. -/
theorem inOrder_sameOutcome (hcreated : ∀ a b : Test τ, same a b → a.created = b.created)
    (h : List.Forall₂ same tests others) :
    SameOutcome (List.Forall₂ same) (inOrder tests) (inOrder others) := by
  have hsort := oneSort_of_forall₂ hcreated h
  unfold inOrder
  rw [← allComparable_iff, ← allComparable_iff] at hsort
  by_cases hcomparable : Test.allComparable tests = true
  · rw [if_pos hcomparable, if_pos (hsort.mp hcomparable)]
    exact newestFirst_forall₂ hcreated h
  · rw [if_neg hcomparable, if_neg (mt hsort.mpr hcomparable)]
    rfl

end

/-- Lists that correspond to one list correspond to each other. -/
theorem forall₂_of_common {first : α → β → Prop} {second : α → γ → Prop} {same : β → γ → Prop}
    (hsame : ∀ a b c, first a b → second a c → same b c) {items : List α} {bs : List β}
    {cs : List γ} (hfirst : List.Forall₂ first items bs) (hsecond : List.Forall₂ second items cs) :
    List.Forall₂ same bs cs := by
  induction hfirst generalizing cs with
  | nil =>
      cases hsecond
      exact .nil
  | cons hb _ ih =>
      cases hsecond with
      | cons hc hrest => exact .cons (hsame _ _ _ hb hc) (ih hrest)

/-! ## Files -/

variable [Textual τ]

namespace Directory

variable {r : Directory} {disk : Disk}

/-- A file that is listed, and that no path to it gives a test. -/
def unreadable (r : Directory) (disk : Disk) (place : Location) : Bool :=
  match disk.entryAt? place with
  | some (.file _) =>
    let paths := (r.files disk).filter fun path => disk.locate path = .ok place
    !paths.isEmpty && paths.all fun path => !(idIn (τ := τ) r.format disk path).isOk
  | _ => false

/-- The disk as it would be without such files. -/
def readablePart (r : Directory) (disk : Disk) : Disk := disk.without (r.unreadable (τ := τ) disk)

/-- A file is unreadable if it is listed and none of its paths gives a test. -/
theorem unreadable_iff (r : Directory) (disk : Disk) (place : Location) :
    r.unreadable (τ := τ) disk place = true ↔ (∃ file, disk.entryAt? place = some (.file file)) ∧
      (∃ path ∈ r.files disk, disk.locate path = .ok place) ∧
      ∀ path ∈ r.files disk, disk.locate path = .ok place →
        (idIn (τ := τ) r.format disk path).isOk = false := by
  unfold unreadable
  split
  next file hfile => simp [hfile, List.eq_nil_iff_forall_not_mem, or_iff_not_imp_left]
  next hnone =>
    simp only [Bool.false_eq_true, false_iff]
    rintro ⟨⟨file, hfile⟩, _⟩
    exact hnone file hfile

/-- A path that gives a test leads to no unreadable file. -/
theorem avoids_of_isOk {path : String} (hpath : path ∈ r.files disk)
    (hok : (idIn (τ := τ) r.format disk path).isOk = true) :
    disk.avoids (r.unreadable (τ := τ) disk) path = true := by
  unfold Disk.avoids
  cases hlocate : disk.locate path with
  | ok place =>
      simp only [Bool.not_eq_true', Bool.eq_false_iff]
      intro hunreadable
      obtain ⟨_, _, hlost⟩ := (r.unreadable_iff disk place).mp hunreadable
      simp [hlost path hpath hlocate] at hok
  | error cause =>
      have hfile : disk.file path = .error ⟨cause, path⟩ := by rw [Disk.file, hlocate]
      simp [idIn_of_error (τ := τ) hfile, Except.isOk, Except.toBool] at hok

section

variable (hsound : disk.Sound) (hdistinct : disk.Distinct)

include hdistinct

theorem differ_readablePart :
    disk.Differ (r.unreadable (τ := τ) disk) (r.readablePart (τ := τ) disk) :=
  Disk.differ_without (fun place h => ((r.unreadable_iff disk place).mp h).1) hdistinct

theorem idIn_readablePart {path : String}
    (hpath : disk.avoids (r.unreadable (τ := τ) disk) path = true) :
    idIn (τ := τ) r.format (r.readablePart (τ := τ) disk) path = idIn r.format disk path :=
  idIn_congr ((differ_readablePart hdistinct).file_of_avoids hpath)

/-- A path to a file that was taken away leads to nothing, which ends no scan. -/
theorem idIn_readablePart_error {path : String}
    (hpath : disk.avoids (r.unreadable (τ := τ) disk) path = false) :
    ∃ fault, idIn (τ := τ) r.format (r.readablePart (τ := τ) disk) path = .error fault ∧
      fault.isOfOneTest = true := by
  have hgone : ∀ place, r.unreadable (τ := τ) disk place = true →
      ∃ file, disk.entryAt? place = some (.file file) := fun place h =>
    ((r.unreadable_iff disk place).mp h).1
  rw [← (differ_readablePart hdistinct).avoids_eq] at hpath
  unfold Disk.avoids at hpath
  cases hlocate : (r.readablePart (τ := τ) disk).locate path with
  | ok place =>
      rw [hlocate] at hpath
      have hnone : (r.readablePart (τ := τ) disk).entryAt? place = none := by
        unfold readablePart
        rw [Disk.entryAt?_without hgone, if_pos (by simpa using hpath)]
      have hfile : (r.readablePart (τ := τ) disk).file path = .error ⟨.noSuchFile, path⟩ := by
        unfold Disk.file
        rw [hlocate]
        simp only [hnone]
      exact ⟨_, idIn_of_error hfile, rfl⟩
  | error cause =>
      rw [hlocate] at hpath
      have hfile : (r.readablePart (τ := τ) disk).file path = .error ⟨cause, path⟩ := by
        rw [Disk.file, hlocate]
      exact ⟨_, idIn_of_error hfile, by simpa [Fault.isOfOneTest] using hpath⟩

include hsound

theorem files_readablePart :
    (r.files (r.readablePart (τ := τ) disk)).filter (disk.avoids (r.unreadable (τ := τ) disk)) =
      (r.files disk).filter (disk.avoids (r.unreadable (τ := τ) disk)) := by
  refine filter_files ((differ_readablePart hdistinct).matching hsound ?_ r.path)
  intro place hplace
  obtain ⟨⟨file, hfile⟩, ⟨path, _, hlocate⟩, _⟩ := (r.unreadable_iff disk place).mp hplace
  obtain ⟨above, last, hlast, hname, _⟩ :=
    Disk.locate_name hsound hlocate (by rw [hfile]; exact nofun)
  exact ⟨above, last, hlast, hname⟩

/-- Without the unreadable files the same paths are kept by whatever drops the faults. -/
theorem filter_readablePart (keep : Except Fault τ → Bool)
    (hkeep : ∀ fault, keep (.error fault) = false) :
    (r.files (r.readablePart (τ := τ) disk)).filter
        (fun path => keep (idIn r.format (r.readablePart (τ := τ) disk) path)) =
      (r.files disk).filter fun path => keep (idIn r.format disk path) := by
  -- A path to what was taken away gives a fault, which is not kept.
  have hrest : (fun path => keep (idIn r.format (r.readablePart (τ := τ) disk) path)) = fun path =>
      keep (idIn r.format disk path) && disk.avoids (r.unreadable (τ := τ) disk) path := by
    funext path
    cases hpath : disk.avoids (r.unreadable (τ := τ) disk) path with
    | true => rw [idIn_readablePart hdistinct hpath, Bool.and_true]
    | false =>
        obtain ⟨fault, hfault, _⟩ := idIn_readablePart_error hdistinct hpath
        rw [hfault, hkeep, Bool.and_false]
  rw [hrest, ← List.filter_filter, files_readablePart hsound hdistinct, List.filter_filter]
  refine List.filter_congr fun path hpath => ?_
  cases hid : idIn (τ := τ) r.format disk path with
  | ok id => rw [avoids_of_isOk hpath (by rw [hid]; rfl), Bool.and_true]
  | error fault => rw [hkeep, Bool.false_and]

/-- Where no file ends a scan, none does among the readable ones. -/
theorem passable_readablePart
    (hpassable : ∀ path ∈ r.files disk, Passable (τ := τ) r.format disk path) :
    ∀ path ∈ r.files (r.readablePart (τ := τ) disk),
      Passable (τ := τ) r.format (r.readablePart (τ := τ) disk) path := by
  intro path hpath fault hfault
  cases havoids : disk.avoids (r.unreadable (τ := τ) disk) path with
  | true =>
      have hlisted : path ∈ (r.files disk).filter (disk.avoids (r.unreadable (τ := τ) disk)) := by
        rw [← files_readablePart hsound hdistinct]
        exact List.mem_filter.mpr ⟨hpath, havoids⟩
      rw [idIn_readablePart hdistinct havoids] at hfault
      exact hpassable path (List.mem_filter.mp hlisted).1 fault hfault
  | false =>
      obtain ⟨other, hother, hone⟩ := idIn_readablePart_error hdistinct havoids
      cases hother.symm.trans hfault
      exact hone

/-- A listing is that of the readable files, if no file ends it. -/
theorem list_readablePart [DecidableEq τ]
    (hpassable : ∀ path ∈ r.files disk, Passable (τ := τ) r.format disk path)
    (s t : Supply) :
    SameOutcome (List.Forall₂ (Test.SameAt s.millisAt t.millisAt)) (r.list (τ := τ) disk s).result
      (r.list (r.readablePart (τ := τ) disk) t).result := by
  obtain ⟨tests, htests⟩ := scanFiles_total [] [] s hpassable
  obtain ⟨others, hothers⟩ :=
    scanFiles_total [] [] t (passable_readablePart hsound hdistinct hpassable)
  obtain ⟨loaded, hloaded, hstored⟩ := (Scans.of_scanFiles htests).saves
  obtain ⟨again, hagain, hstored'⟩ := (Scans.of_scanFiles hothers).saves
  rw [filter_readablePart hsound hdistinct Except.isOk fun _ => rfl] at hagain
  -- Both scans load the same paths in the same order, one test from each.
  have hsame : List.Forall₂ (Test.SameAt s.millisAt t.millisAt) loaded again := by
    refine forall₂_of_common ?_ hloaded hagain
    rintro path a b ⟨s', hs, ha⟩ ⟨t', ht, hb⟩
    cases havoids : disk.avoids (r.unreadable (τ := τ) disk) path with
    | true =>
        have hfile := (differ_readablePart hdistinct).file_of_avoids havoids
        have htest := loadFile_sameAt (τ := τ) r.format hfile.symm s' t'
        rwa [ha, hb, hs, ht] at htest
    | false =>
        obtain ⟨fault, hfault, _⟩ := idIn_readablePart_error hdistinct havoids
        rw [idIn_eq _ _ _ t', hb] at hfault
        cases hfault
  rw [list_of_scan htests, list_of_scan hothers, hstored, hstored']
  refine inOrder_sameOutcome (fun _ _ h => h.created) ?_
  exact foldl_save_forall₂ (fun _ _ h => h.id) hsame .nil

/-- An answer is that of the readable files, if no file ends the scan. -/
theorem get_readablePart [DecidableEq τ]
    (hpassable : ∀ path ∈ r.files disk, Passable (τ := τ) r.format disk path)
    (id : τ) (s t : Supply) :
    SameOutcome (Test.SameAt s.millisAt t.millisAt) (r.get disk id s).result
      (r.get (r.readablePart (τ := τ) disk) id t).result := by
  obtain ⟨tests, htests⟩ := scanFiles_total [] [] s hpassable
  obtain ⟨others, hothers⟩ :=
    scanFiles_total [] [] t (passable_readablePart hsound hdistinct hpassable)
  have hholds :
      (r.files (r.readablePart (τ := τ) disk)).filter
        (holds r.format (r.readablePart (τ := τ) disk) id) =
      (r.files disk).filter (holds r.format disk id) := by
    rw [funext (holds_eq _ _ id), funext (holds_eq _ _ id)]
    exact filter_readablePart hsound hdistinct (·.toOption == some id) fun _ => rfl
  refine get_sameAt htests hothers (by rw [hholds]) ?_
  intro path hlast
  obtain ⟨hpath, hheld⟩ := List.mem_filter.mp (List.mem_of_getLast? hlast)
  have hok : (idIn (τ := τ) r.format disk path).isOk = true := by
    rw [holds_iff.mp hheld]
    rfl
  exact ((differ_readablePart hdistinct).file_of_avoids (avoids_of_isOk hpath hok)).symm

end

/-! ## Faults that are not of one test -/

/-- A file that ends a scan ends every listing and every search with one fault. -/
theorem error_of_not_passable [DecidableEq τ]
    (h : ∃ path ∈ r.files disk, ¬Passable (τ := τ) r.format disk path) :
    ∃ fault, fault.isOfOneTest = false ∧ ∀ s, (r.list (τ := τ) disk s).result = .error fault ∧
      ∀ id : τ, (r.get disk id s).result = .error (fault.toSeeker (Textual.shown id)) := by
  obtain ⟨path, hpath, hends⟩ := h
  cases hscan : (r.scan (τ := τ) disk (.still 0)).result with
  | ok tests => exact absurd ((scanFiles_ok hscan).1 path hpath) hends
  | error fault =>
      refine ⟨fault, (Scans.of_scanFiles hscan).fault.1, fun s => ?_⟩
      have hagain : (r.scan (τ := τ) disk s).result = .error fault := scanFiles_error hscan
      refine ⟨?_, fun id => get_of_error id hagain⟩
      simp only [list, Reply.andThen, hagain, Except.bind]

end Directory

/-! ## Entries -/

namespace Backend

/-- A listing is that of the entries that can be converted, if no entry ends it. -/
theorem list_converted {b : Backend} {web other : Web} {s : Supply} {entries : List Datum}
    (hentries : b.entriesIn (web.respond ⟨b.listUrl, b.timeout⟩) = .ok entries)
    (hother : b.entriesIn (other.respond ⟨b.listUrl, b.timeout⟩) =
      .ok (entries.filter (converts (τ := τ))))
    (hpassable : ∀ item ∈ entries, Passable (τ := τ) item) :
    SameOutcome (List.Forall₂ (Test.Redrawn s s)) (b.list (τ := τ) web s).1.result
      (b.list other s).1.result := by
  obtain ⟨tests, htests⟩ := readEntries_total [] [] s hpassable
  obtain ⟨others, hothers⟩ := readEntries_total (τ := τ) [] [] s fun item hitem =>
    passable_of_converts (List.mem_filter.mp hitem).2
  obtain ⟨_, _, rfl, hread⟩ := readEntries_ok htests
  obtain ⟨_, _, rfl, hread'⟩ := readEntries_ok hothers
  rw [List.filter_filter] at hread'
  simp only [Bool.and_self] at hread'
  rw [list_of_entries hentries, list_of_entries hother, htests, hothers]
  have hcreated : ∀ a b : Test τ, Test.Redrawn s s a b → a.created = b.created := by
    intro a b h
    rcases h.created with hsame | ⟨ha, hb⟩
    · exact hsame
    · exact ha.trans hb.symm
  exact inOrder_sameOutcome hcreated
    (forall₂_of_common (fun _ _ _ h h' => h.redrawn h') hread hread')

/-- An entry that is not passed over ends the listing. -/
theorem error_of_not_passable {b : Backend} {web : Web} {s : Supply} {entries : List Datum}
    (hentries : b.entriesIn (web.respond ⟨b.listUrl, b.timeout⟩) = .ok entries)
    (h : ∃ item ∈ entries, ¬Passable (τ := τ) item) :
    ∃ fault, fault.isOfOneTest = false ∧ (b.list (τ := τ) web s).1.result = .error fault := by
  obtain ⟨item, hitem, hends⟩ := h
  rw [list_of_entries hentries]
  cases hread : (readEntries (τ := τ) [] [] entries s).result with
  | ok tests => exact absurd ((readEntries_ok hread).1 item hitem) hends
  | error fault => exact ⟨fault, readEntries_error hread, rfl⟩

end Backend

/-- Files and entries that are no tests do not count as long as their faults are counted to them.
Any other fault in one of them ends every listing, and in a directory every search; one that says
that a key is not found is told there as a missing test. -/
theorem unreadable_passedOver [DecidableEq τ] (r : Directory) (disk : Disk) (b : Backend)
    (web other : Web) (s t : Supply) (entries : List Datum) :
    (disk.Sound → disk.Distinct →
        ((∀ path ∈ r.files disk, Passable (τ := τ) r.format disk path) →
          SameOutcome (List.Forall₂ (Test.SameAt s.millisAt t.millisAt))
            (r.list (τ := τ) disk s).result
              (r.list (r.readablePart (τ := τ) disk) t).result ∧
            ∀ id : τ, SameOutcome (Test.SameAt s.millisAt t.millisAt) (r.get disk id s).result
              (r.get (r.readablePart (τ := τ) disk) id t).result) ∧
        ((∃ path ∈ r.files disk, ¬Passable (τ := τ) r.format disk path) →
          ∃ fault, fault.isOfOneTest = false ∧ ∀ s,
            (r.list (τ := τ) disk s).result = .error fault ∧
              ∀ id : τ, (r.get disk id s).result =
                .error (fault.toSeeker (Textual.shown id)))) ∧
      (b.entriesIn (web.respond ⟨b.listUrl, b.timeout⟩) = .ok entries →
        b.entriesIn (other.respond ⟨b.listUrl, b.timeout⟩) =
          .ok (entries.filter (Backend.converts (τ := τ))) →
        ((∀ item ∈ entries, Backend.Passable (τ := τ) item) →
          SameOutcome (List.Forall₂ (Test.Redrawn s s)) (b.list (τ := τ) web s).1.result
            (b.list other s).1.result) ∧
        ((∃ item ∈ entries, ¬Backend.Passable (τ := τ) item) →
          ∃ fault, fault.isOfOneTest = false ∧
            (b.list (τ := τ) web s).1.result = .error fault)) := by
  constructor
  · intro hsound hdistinct
    refine ⟨fun hpassable => ⟨?_, fun id => ?_⟩, Directory.error_of_not_passable⟩
    · exact Directory.list_readablePart hsound hdistinct hpassable s t
    · exact Directory.get_readablePart hsound hdistinct hpassable id s t
  · intro hentries hother
    exact ⟨Backend.list_converted hentries hother, Backend.error_of_not_passable hentries⟩

/-- A directory with a file of this content beside the file of a test. -/
def beside (content : Content) : Disk where
  entries := [(["tests"], .directory), (["tests", "bad.yaml"], .file ⟨content, 0⟩),
    (["tests", "kept.yaml"], .file ⟨.text "name: n\nsteps: []\n", 0⟩)]
  current := []
  present := 1

def garbledByte : Content := .ofBytes [0xFF]

def halfWritten : Content := .text "steps: ["

/-- A definition in which a word is to be a truth value and is none. -/
def misjudged : Content := .text "x: !!bool maybe"

theorem sound_beside (content : Content) : (beside content).Sound := by
  apply Disk.sound_of_entries
  simp [beside, Disk.entryAt?, Disk.lookup_cons]

theorem distinct_beside (content : Content) : (beside content).Distinct := by
  simp [beside, Disk.Distinct]

theorem files_beside {content : Content}
    (hcontent : content ∈ [garbledByte, halfWritten, misjudged]) :
    Directory.yamlTests.files (beside content) = ["tests/bad.yaml", "tests/kept.yaml"] := by
  have hmatching : ∀ content ∈ [garbledByte, halfWritten, misjudged],
      Directory.patterns.flatMap (fun pattern => (beside content).matching "tests" pattern) =
        ["tests/bad.yaml", "tests/kept.yaml"] := by decide
  unfold Directory.files
  rw [show Directory.yamlTests.path = "tests" from rfl, hmatching content hcontent]
  apply List.mergeSort_of_pairwise
  decide

theorem passable_halfWritten : ∀ path ∈ Directory.yamlTests.files (beside halfWritten),
    Passable .yaml (beside halfWritten) path := by
  have hboth : ∀ path ∈ ["tests/bad.yaml", "tests/kept.yaml"],
      Passable .yaml (beside halfWritten) path := by decide +kernel
  rwa [files_beside (by simp)]

theorem not_passable_garbledByte : ¬Passable .yaml (beside garbledByte) "tests/bad.yaml" := by
  decide

theorem not_passable_misjudged : ¬Passable .yaml (beside misjudged) "tests/bad.yaml" := by
  decide +kernel

/-- What ends a scan beside this definition looks like a key that is not found. -/
theorem isOfLookup_misjudged {fault : Fault}
    (h : (Directory.yamlTests.list (beside misjudged) (.still 0)).result = .error fault) :
    fault.isOfLookup = true := by
  have hends : (match (Directory.yamlTests.scanFiles (τ := String) (beside misjudged) [] []
      ["tests/bad.yaml", "tests/kept.yaml"] (.still 0)).result with
      | .ok _ => false
      | .error fault => fault.isOfLookup) = true := by decide +kernel
  rw [← files_beside (show misjudged ∈ _ by simp)] at hends
  unfold Directory.list Directory.scan at h
  split at hends
  next => cases hends
  next other hother =>
    simp only [Reply.andThen, hother, Except.bind] at h
    cases h
    exact hends

/-- A listing of two entries, in the second of which a number stands for the steps. -/
def unevenListing : List Char :=
  "[\x7b\x22name\x22:\x22n\x22\x7d,\x7b\x22steps\x22:5\x7d]".toList

def twoEntries : Web := ⟨fun _ => .answer 200 (Utf8.encode unevenListing), []⟩

def miscounted : Datum := .map [(.text "steps", .int 5)]

theorem read_unevenListing :
    (match Json.read (glyphsOf unevenListing) with
      | .ok (.list [.map [(.text name, .text value)], .map [(.text steps, .int count)]]) =>
        [name, value, steps] == ["name", "n", "steps"] && count == 5
      | _ => false) = true := by
  decide +kernel

theorem entriesIn_twoEntries (request : WebRequest) :
    designer.entriesIn (twoEntries.respond request) =
      .ok [.map [(.text "name", .text "n")], miscounted] := by
  have hdecode : Utf8.decode (Utf8.encode unevenListing) = .ok unevenListing := by decide
  have hread := read_unevenListing
  split at hread
  next name value steps count hwhole =>
    simp only [Bool.and_eq_true, beq_iff_eq, List.cons.injEq] at hread
    obtain ⟨⟨rfl, rfl, rfl, _⟩, rfl⟩ := hread
    simp [Backend.entriesIn, Backend.dataIn, Backend.dataOf, twoEntries, hdecode, hwhole,
      mapError_ok, Bind.bind, Except.bind, miscounted]
  next => cases hread

/-- A definition that breaks off hides no test. A file that is no text, one with a truth value
that is none, and an entry with a number for its steps, do; beside the second a test counts as
missing. -/
theorem unreadable_passedOver_besideTest :
    (Directory.yamlTests.list (beside halfWritten) (.still 0)).result =
        (Directory.yamlTests.list (Directory.yamlTests.readablePart (beside halfWritten))
          (.still 0)).result ∧
      (∃ fault, (Directory.yamlTests.list (beside garbledByte) (.still 0)).result =
        .error fault ∧ fault.isOfOneTest = false) ∧
      (Directory.yamlTests.get (beside misjudged) "kept" (.still 0)).result =
        .error (.unknownTest "kept") ∧
      ∃ fault, (designer.list twoEntries (.still 0)).1.result = .error fault ∧
        fault.isOfOneTest = false := by
  have hboth := fun content => unreadable_passedOver Directory.yamlTests (beside content) designer
    twoEntries oneEntry (.still 0) (.still 0) [.map [(.text "name", .text "n")], miscounted]
  have hdirectory := fun content =>
    (hboth content).1 (sound_beside content) (distinct_beside content)
  refine ⟨?_, ?_, ?_, ?_⟩
  · obtain ⟨hlist, _⟩ := (hdirectory halfWritten).1 passable_halfWritten
    refine hlist.eq fun tests others hsame => ?_
    rw [← List.forall₂_eq_eq_eq]
    exact hsame.imp fun _ _ h => h.eq fun _ _ => rfl
  · obtain ⟨fault, hfault, hfails⟩ := (hdirectory garbledByte).2
      ⟨"tests/bad.yaml", by rw [files_beside (by simp)]; simp, not_passable_garbledByte⟩
    exact ⟨fault, (hfails _).1, hfault⟩
  · obtain ⟨fault, -, hfails⟩ := (hdirectory misjudged).2
      ⟨"tests/bad.yaml", by rw [files_beside (by simp)]; simp, not_passable_misjudged⟩
    obtain ⟨hlist, hget⟩ := hfails (.still 0)
    rw [hget "kept", Fault.toSeeker, if_pos (isOfLookup_misjudged hlist)]
    rfl
  · obtain ⟨fault, hfault, hfails⟩ := ((hboth halfWritten).2
      (entriesIn_twoEntries _) (entriesIn_oneEntry _)).2
      ⟨miscounted, by simp, fun hpassable => by cases hpassable _ rfl⟩
    exact ⟨fault, hfails, hfault⟩

end Clickpath.Repository
