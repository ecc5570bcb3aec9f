import Clickpath.Proofs.Disk.Searching
import Clickpath.Proofs.Repository.Saving

/-! # Locations of test files

Which files a scan of a directory comes to. It goes by names and by patterns, so that it depends on
where a file lies and not on what is in it. The path of the directory is a pattern as well, and an
identifier is put into a path as it is and can lead to other directories.
-/

namespace Clickpath.Repository.Directory

open Wildcard

variable {τ : Type} [Textual τ] {r : Directory} {disk : Disk}

/-! ## Names of test files -/

def endings : List String := [".yaml", ".yml", ".json"]

def IsTestName (name : String) : Prop :=
  isHidden name = false ∧ ∃ ending ∈ endings, ending.toList <:+ name.toList

/-- The names of test files are those with one of the two endings that are not hidden. -/
theorem exists_pattern_iff (name : String) :
    (∃ pattern ∈ patterns, nameMatches pattern name = true) ↔ IsTestName name := by
  have hpatterns : patterns = endings.map ("*" ++ ·) := by rfl
  have hplain : ∀ ending ∈ endings, isPattern ending.toList = false := by decide
  rw [hpatterns]
  unfold IsTestName
  constructor
  · rintro ⟨_, hpattern, hmatches⟩
    obtain ⟨ending, hending, rfl⟩ := List.mem_map.mp hpattern
    obtain ⟨hvisible, hsuffix⟩ := (nameMatches_star (hplain ending hending) name).mp hmatches
    exact ⟨hvisible, ending, hending, hsuffix⟩
  · rintro ⟨hvisible, ending, hending, hsuffix⟩
    exact ⟨_, List.mem_map_of_mem hending,
      (nameMatches_star (hplain ending hending) name).mpr ⟨hvisible, hsuffix⟩⟩

/-- The files of a directory are the test files in all directories that its path stands for. -/
theorem mem_files {path : String} :
    path ∈ r.files disk ↔ ∃ found ∈ disk.searched r.path, ∃ name entry,
      (name, entry) ∈ disk.listing found ∧ IsTestName name ∧ path = Path.join found name := by
  have hslash : ∀ pattern ∈ patterns, '/' ∉ pattern.toList := by decide
  unfold files
  rw [List.mem_mergeSort, List.mem_flatMap]
  constructor
  · rintro ⟨pattern, hpattern, hmatching⟩
    obtain ⟨found, hfound, name, entry, hlisted, hmatches, rfl⟩ :=
      (Disk.mem_matching (hslash pattern hpattern)).mp hmatching
    exact ⟨found, hfound, name, entry, hlisted,
      (exists_pattern_iff name).mp ⟨pattern, hpattern, hmatches⟩, rfl⟩
  · rintro ⟨found, hfound, name, entry, hlisted, hname, rfl⟩
    obtain ⟨pattern, hpattern, hmatches⟩ := (exists_pattern_iff name).mpr hname
    exact ⟨pattern, hpattern, (Disk.mem_matching (hslash pattern hpattern)).mpr
      ⟨found, hfound, name, entry, hlisted, hmatches, rfl⟩⟩

theorem pairwise_files (r : Directory) (disk : Disk) : (r.files disk).Pairwise (· ≤ ·) :=
  pairwise_mergeSort _

/-! ## Visited locations -/

/-- By this path a scan comes to the location, once a file stands there. -/
def VisitedBy (r : Directory) (disk : Disk) (place : Location) (path : String) : Prop :=
  ∃ found ∈ disk.searched r.path, ∃ name, path = Path.join found name ∧ '/' ∉ name.toList ∧
    IsTestName name ∧ disk.locate path = .ok place

/-- A scan comes to the location, once a file stands there. -/
def Visited (r : Directory) (disk : Disk) (place : Location) : Prop :=
  ∃ path, r.VisitedBy disk place path

/-- The location lies in the directory itself. -/
def Inside (r : Directory) (disk : Disk) (place : Location) : Prop :=
  ∃ directory name, disk.locate r.path = .ok directory ∧ place = directory ++ [name]

/-- The directories that an identifier names on the way lead back to the directory. -/
def LeadsBack (r : Directory) (disk : Disk) (id : String) : Prop :=
  ∃ directory, disk.locate r.path = .ok directory ∧
    disk.follow (if Path.isAbsolute id then [] else directory) (Path.parts id).dropLast =
      .ok directory

theorem locate_join_name (hsound : disk.Sound) {found name : String} {place : Location}
    (hname : '/' ∉ name.toList) (h : disk.locate (Path.join found name) = .ok place)
    (hplace : disk.entryAt? place ≠ some .directory) :
    ∃ above, disk.locate (if found.isEmpty then "." else found) = .ok above ∧
      disk.entryAt? above = some .directory ∧ place = above ++ [name] := by
  obtain ⟨above, habove, hfollow⟩ := Disk.locate_of_join (Path.isAbsolute_of_notMem hname) h
  rw [Path.parts_of_notMem hname] at hfollow
  obtain ⟨hdirectory, rfl⟩ := Disk.follow_singleton hsound hfollow hplace
  exact ⟨above, habove, hdirectory, rfl⟩

theorem visitedBy_of_mem_files (hnamed : disk.Named) {path : String} {place : Location}
    (hpath : path ∈ r.files disk) (hlocate : disk.locate path = .ok place) :
    r.VisitedBy disk place path := by
  obtain ⟨found, hfound, name, entry, hlisted, hname, rfl⟩ := mem_files.mp hpath
  obtain ⟨above, _, hmem⟩ := Disk.mem_listing.mp hlisted
  exact ⟨found, hfound, name, rfl, hnamed _ hmem name (by simp), hname, hlocate⟩

section

variable {test : Test τ} {place : Location} (hsound : disk.Sound)
  (hplace : disk.entryAt? place ≠ some .directory)

include hsound hplace

theorem mem_searched_withTest {found : String}
    (hfound : disk.reaches (fun other => other = place) found = false) :
    found ∈ (r.withTest disk place test).searched r.path ↔ found ∈ disk.searched r.path := by
  have hsearched := (Disk.differ_put (written r.format test disk.present) hplace).directoriesWith
    hsound (Path.withoutEndSlashes r.path).length (Path.withoutEndSlashes r.path)
  have hmem := congrArg (found ∈ ·) hsearched
  simp only [List.mem_filter, hfound, Bool.not_false, and_true] at hmem
  exact iff_of_eq hmem

/-- What a directory holds is not where the directory is. -/
theorem reaches_of_locate_join {found name : String} (hname : '/' ∉ name.toList)
    (h : disk.locate (Path.join found name) = .ok place) :
    disk.reaches (fun other => other = place) found = false := by
  obtain ⟨above, habove, hdirectory, _⟩ := locate_join_name hsound hname h hplace
  unfold Disk.reaches
  cases hfound : disk.locate found with
  | error cause => rfl
  | ok other =>
      rw [if_neg (by simpa using (Disk.locate_eq_ok hfound).1)] at habove
      cases habove.symm.trans hfound
      exact decide_eq_false fun h => hplace (h ▸ hdirectory)

variable (test) {somePath : String} (hsome : disk.locate somePath = .ok place)

include hsome

/-- The written file is listed by the paths by which a scan comes to its location. -/
theorem mem_files_withTest (hnamed : disk.Named) (path : String) :
    path ∈ r.files (r.withTest disk place test) ∧ disk.locate path = .ok place ↔
      r.VisitedBy disk place path := by
  have hdiffer := Disk.differ_put (written r.format test disk.present) hplace
  have hlocate : ∀ path other, (r.withTest disk place test).locate path = .ok other ↔
      disk.locate path = .ok other := hdiffer.locate_iff
  obtain ⟨directory, last, hlast, hlastName, _⟩ := Disk.locate_name hsound hsome hplace
  constructor
  · rintro ⟨hpath, hleads⟩
    obtain ⟨found, hfound, name, entry, hlisted, hname, rfl⟩ := mem_files.mp hpath
    obtain ⟨above, _, hmem⟩ := Disk.mem_listing.mp hlisted
    -- The listed name is that of the written file, or it was on the disk before.
    have hslash : '/' ∉ name.toList := by
      obtain ⟨content, hcontent⟩ := Disk.exists_lookup hmem
      have hstands : (r.withTest disk place test).entryAt? (above ++ [name]) = some content := by
        simpa [Disk.entryAt?] using hcontent
      rw [entryAt?_withTest hplace] at hstands
      split at hstands
      next hsame =>
        obtain ⟨_, heq⟩ := List.append_inj' (hsame.trans hlast) rfl
        rw [List.singleton_inj.mp heq]
        exact hlastName.slash
      next =>
        have hbefore : (above ++ [name], content) ∈ disk.entries := by
          apply Disk.mem_of_lookup
          simpa [Disk.entryAt?] using hstands
        exact hnamed _ hbefore name (by simp)
    have hreaches := reaches_of_locate_join hsound hplace hslash hleads
    exact ⟨found, (mem_searched_withTest hsound hplace hreaches).mp hfound, name, rfl, hslash,
      hname, hleads⟩
  · rintro ⟨found, hfound, name, rfl, hslash, hname, hleads⟩
    have hreaches := reaches_of_locate_join hsound hplace hslash hleads
    obtain ⟨here, hhere, _, rfl⟩ := locate_join_name hsound hslash hleads hplace
    refine ⟨mem_files.mpr ⟨found, (mem_searched_withTest hsound hplace hreaches).mpr hfound, name,
      .file (written r.format test disk.present), ?_, hname, rfl⟩, hleads⟩
    refine Disk.mem_listing.mpr ⟨here, (hlocate _ _).mpr hhere, ?_⟩
    have hstands : (r.withTest disk (here ++ [name]) test).entryAt? (here ++ [name]) =
        some (.file (written r.format test disk.present)) := by
      rw [entryAt?_withTest hplace, if_pos rfl]
    apply Disk.mem_of_lookup
    simpa [Disk.entryAt?] using hstands

end

/-! ## Locations of saved tests -/

theorem inside_concat_iff (r : Directory) (disk : Disk) (above : Location) (name : String) :
    r.Inside disk (above ++ [name]) ↔ disk.locate r.path = .ok above := by
  constructor
  · rintro ⟨directory, other, hdirectory, hwhole⟩
    rwa [(List.append_inj' hwhole rfl).1]
  · exact fun h => ⟨above, name, h, rfl⟩

section

variable {place : Location} (hsound : disk.Sound) (hplace : disk.entryAt? place ≠ some .directory)

include hsound hplace

theorem follow_concat {start : Location} {front : List String} {last : String}
    (h : disk.follow start (front ++ [last]) = .ok place) :
    ∃ above, disk.follow start front = .ok above ∧ place = above ++ [last] := by
  rw [Disk.follow_append] at h
  cases hfront : disk.follow start front with
  | error cause => rw [hfront] at h; cases h
  | ok above =>
      rw [hfront] at h
      exact ⟨above, rfl, (Disk.follow_singleton hsound h hplace).2⟩

/-- A new test is saved in the directory itself exactly if its identifier leads back to it. -/
theorem inside_iff_leadsBack {id : String}
    (hlocate : disk.locate (Path.join r.path (id ++ ".yaml")) = .ok place) :
    r.Inside disk place ↔ r.LeadsBack disk id := by
  obtain ⟨last, hparts⟩ : ∃ last, Path.parts (id ++ ".yaml") = (Path.parts id).dropLast ++ [last] :=
    Path.parts_append id (by decide)
  have hstart : Path.isAbsolute (id ++ ".yaml") = Path.isAbsolute id :=
    Path.isAbsolute_append id (by decide)
  unfold LeadsBack
  -- An identifier that starts with a slash leaves the directory at once.
  cases hid : Path.isAbsolute id with
  | true =>
      rw [hid] at hstart
      obtain ⟨_, _, hfollow⟩ := Disk.locate_eq_ok hlocate
      unfold Path.join at hfollow
      rw [if_pos hstart, if_pos hstart, hparts] at hfollow
      obtain ⟨above, hfront, rfl⟩ := follow_concat hsound hplace hfollow
      rw [inside_concat_iff]
      simp only [if_true, hfront]
      constructor
      · exact fun h => ⟨above, h, rfl⟩
      · rintro ⟨directory, hdirectory, hsame⟩
        rwa [Except.ok.inj hsame]
  | false =>
      rw [hid] at hstart
      obtain ⟨here, hhere, hfollow⟩ := Disk.locate_of_join hstart hlocate
      rw [hparts] at hfollow
      obtain ⟨above, hfront, rfl⟩ := follow_concat hsound hplace hfollow
      have hsame : ∀ directory, disk.locate r.path = .ok directory → directory = here := by
        intro directory hdirectory
        rw [if_neg (by simpa using (Disk.locate_eq_ok hdirectory).1)] at hhere
        exact Except.ok.inj (hdirectory.symm.trans hhere)
      rw [inside_concat_iff]
      simp only [Bool.false_eq_true, if_false]
      constructor
      · intro h
        obtain rfl := hsame above h
        exact ⟨above, h, hfront⟩
      · rintro ⟨directory, hdirectory, hleads⟩
        obtain rfl := hsame directory hdirectory
        rwa [Except.ok.inj (hfront.symm.trans hleads)]

/-- Where no wildcards are in its path, the directory is the only one that is searched. -/
theorem inside_of_visitedBy (hplain : isPattern r.path.toList = false)
    (hpath : disk.holds r.path = true) {path : String} (h : r.VisitedBy disk place path) :
    r.Inside disk place := by
  obtain ⟨directory, hdirectory⟩ : ∃ directory, disk.locate r.path = .ok directory := by
    unfold Disk.holds at hpath
    rw [Disk.find?_eq] at hpath
    cases hlocate : disk.locate r.path with
    | ok directory => exact ⟨directory, rfl⟩
    | error cause =>
        rw [hlocate] at hpath
        cases hpath
  have hempty := (Disk.locate_eq_ok hdirectory).1
  obtain ⟨found, hfound, name, rfl, hslash, _, hleads⟩ := h
  rw [Disk.searched_of_not_isPattern hplain] at hfound
  obtain rfl := List.mem_singleton.mp hfound
  obtain ⟨above, habove, hstands, rfl⟩ := locate_join_name hsound hslash hleads hplace
  rw [if_neg (by simpa using (Path.toList_withoutEndSlashes hempty).1)] at habove
  obtain rfl := Disk.locate_withoutEndSlashes hdirectory habove hstands
  exact ⟨directory, name, hdirectory, rfl⟩

end

/-- The identifier is the name of a file that is not hidden. -/
structure IsPlainId (id : String) : Prop where
  filled : id ≠ ""
  slash : '/' ∉ id.toList
  visible : isHidden id = false

/-- An identifier that can name a file names a test file. -/
theorem IsPlainId.isTestName {id : String} (h : IsPlainId id) : IsTestName (id ++ ".yaml") := by
  refine ⟨?_, ".yaml", by decide, ?_⟩
  · have hvisible := h.visible
    unfold isHidden at hvisible ⊢
    rw [String.toList_append]
    cases hchars : id.toList with
    | nil => exact absurd (by simpa using hchars) h.filled
    | cons c rest =>
        rw [hchars] at hvisible
        exact hvisible
  · rw [String.toList_append]
    exact List.suffix_append _ _

theorem visitedBy_of_isPlainId (hplain : isPattern r.path.toList = false)
    (hend : Path.endsWithSlash r.path = false) {id : String} (hid : IsPlainId id)
    {place : Location} (hlocate : disk.locate (Path.join r.path (id ++ ".yaml")) = .ok place) :
    r.VisitedBy disk place (Path.join r.path (id ++ ".yaml")) := by
  refine ⟨r.path, ?_, id ++ ".yaml", rfl, ?_, hid.isTestName, hlocate⟩
  · rw [Disk.searched_of_not_isPattern hplain, Path.withoutEndSlashes_of_no_slash hend]
    exact List.mem_singleton_self _
  · rw [String.toList_append, List.mem_append, not_or]
    exact ⟨hid.slash, by decide⟩

end Clickpath.Repository.Directory
