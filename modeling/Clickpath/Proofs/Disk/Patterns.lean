import Clickpath.Disk.Wildcard
import Clickpath.Proofs.Disk.Differing

/-! # Patterns on disks that differ in files

A pattern for paths matches the same on disks that differ in files, but for paths to the files that
differ and paths that lead nowhere. The directories that a pattern stands for are followed first: a
path to such a file may be among them, but nothing stands below it.
-/

namespace Clickpath.Disk

open Wildcard

/-! ## Names in directories -/

theorem nameIn?_eq_some_iff {directory place : Location} {name : String} :
    nameIn? directory place = some name ↔ place = directory ++ [name] := by
  unfold nameIn?
  rcases List.eq_nil_or_concat place with rfl | ⟨above, last, rfl⟩
  · simp
  · simp [and_comm]

theorem listing_eq (d : Disk) (path : String) : d.listing path =
    match (d.locate (if path.isEmpty then "." else path)).toOption with
    | none => []
    | some directory =>
      d.entries.filterMap fun entry => (nameIn? directory entry.1).map fun n => (n, entry.2) := by
  unfold listing
  cases d.locate (if path.isEmpty then "." else path) <;> rfl

/-- No names are found where a path leads to no directory. -/
theorem namesMatching_of_no_directory {d : Disk} (hsound : d.Sound) {place : Location}
    (hplace : d.entryAt? place ≠ some .directory) {path : String} (pattern : String)
    (hpath : d.locate (if path.isEmpty then "." else path) = .ok place) :
    d.namesMatching path pattern = [] := by
  unfold namesMatching
  rw [listing_eq, hpath]
  simp only [Except.toOption]
  rw [List.filter_eq_nil_iff]
  intro entry hentry
  obtain ⟨⟨other, content⟩, hmem, hname⟩ := List.mem_filterMap.mp hentry
  obtain ⟨name, hin, _⟩ := Option.map_eq_some_iff.mp hname
  obtain ⟨found, hlookup⟩ := exists_lookup hmem
  obtain rfl : other = place ++ [name] := nameIn?_eq_some_iff.mp hin
  have hstands : d.entryAt? (place ++ [name]) = some found := by simpa [entryAt?] using hlookup
  have habove := hsound _ _ hstands
  rw [List.dropLast_concat] at habove
  exact absurd habove hplace

/-- Paths found below other paths are the same if nothing is found below those that are left out. -/
theorem filter_flatMap_congr {first second : List String} {f g : String → List String}
    {kept keep : String → Bool} (hpaths : first.filter kept = second.filter kept)
    (hfound : ∀ path, (f path).filter keep = (g path).filter keep)
    (hnone : ∀ path, kept path = false → g path = []) :
    (first.flatMap f).filter keep = (second.flatMap g).filter keep := by
  have hkept : ∀ paths : List String, (paths.filter kept).flatMap (fun path =>
      (g path).filter keep) = paths.flatMap fun path => (g path).filter keep := by
    intro paths
    induction paths with
    | nil => rfl
    | cons path rest ih =>
        rw [List.filter_cons, List.flatMap_cons]
        cases hpath : kept path with
        | false =>
            rw [if_neg Bool.false_ne_true, ih, hnone path hpath]
            rfl
        | true => rw [if_pos rfl, List.flatMap_cons, ih]
  calc (first.flatMap f).filter keep
      = first.flatMap fun path => (g path).filter keep := by
        rw [List.filter_flatMap]
        simp only [hfound]
    _ = second.flatMap fun path => (g path).filter keep := by
        rw [← hkept first, hpaths, hkept second]
    _ = (second.flatMap g).filter keep := List.filter_flatMap.symm

theorem notMem_split (path : String) : '/' ∉ (Path.split path).2.toList := by
  intro hmem
  simp only [Path.split, Chars.splitAtLast, String.toList_ofList, List.mem_reverse] at hmem
  simpa using List.all_eq_true.mp List.all_takeWhile '/' hmem

/-- No directory is found by a name where there is none. -/
theorem directoryNames_of_no_directory {d : Disk} (hsound : d.Sound) {place : Location}
    (hplace : d.entryAt? place ≠ some .directory) {path name : String} (hname : '/' ∉ name.toList)
    (hpath : d.locate path = .ok place) : d.directoryNames path name = [] := by
  have hhere : d.locate (if path.isEmpty then "." else path) = .ok place := by
    rw [if_neg (by simpa using (locate_eq_ok hpath).1)]
    exact hpath
  have hlost : (d.locate (Path.join path name)).toOption = none := by
    rcases locate_join hname hhere with hjoin | ⟨cause, hjoin, _⟩
    · obtain ⟨_, _, hlost⟩ := follow_cons_of_ne_directory hplace
      rw [hjoin, hlost]
      rfl
    · rw [hjoin]
      rfl
  unfold directoryNames
  rw [namesMatching_of_no_directory hsound hplace name hhere]
  simp [holds, find?_eq, hlost]

/-- A name in a directory leads to what has this name there, or nowhere. -/
theorem not_avoids_join {d : Disk} {away : Location → Bool} {path : String} {directory : Location}
    {name : String} (hname : IsName name)
    (hpath : d.locate (if path.isEmpty then "." else path) = .ok directory)
    (haway : away (directory ++ [name]) = true) :
    d.avoids away (Path.join path name) = false := by
  unfold avoids
  rcases locate_join hname.slash hpath with hjoin | ⟨cause, hjoin, hzero⟩
  · cases hfollow : d.follow directory [name] with
    | ok other =>
        rw [hjoin, hfollow]
        simpa [follow_isName hname hfollow] using haway
    | error cause =>
        rw [hjoin, hfollow]
        simp only [decide_eq_false_iff_not]
        rintro rfl
        exact follow_ne_zeroInPath d directory [name] hfollow
  · rw [hjoin]
    simpa using fun h => hname.zero (hzero h)

namespace Differ

section

variable {away : Location → Bool} {d other : Disk} (h : d.Differ away other)

include h

/-! ## Directories -/

/-- What is taken from the names in a directory is the same if nothing is taken from the names of
files that differ. -/
theorem namesMatching {α : Type} (path pattern : String) {f : String × DiskEntry → Option α}
    (hf : ∀ directory name file,
      d.locate (if path.isEmpty then "." else path) = .ok directory →
        away (directory ++ [name]) = true → f (name, .file file) = none) :
    (other.namesMatching path pattern).filterMap f =
      (d.namesMatching path pattern).filterMap f := by
  unfold Disk.namesMatching
  rw [listing_eq, listing_eq, h.locate]
  cases hpath : d.locate (if path.isEmpty then "." else path) with
  | error cause => rfl
  | ok directory =>
      simp only [Except.toOption, List.filterMap_filter, List.filterMap_filterMap]
      refine h.taken _ fun place file haway => ?_
      cases hname : nameIn? directory place with
      | none => rfl
      | some name =>
          rw [nameIn?_eq_some_iff.mp hname] at haway
          simp [hf directory name file hpath haway]

/-- No directory differs, so that the directories of a pattern are the same but for paths to the
files that do. -/
theorem directoryNames {path name : String} {f : String → String}
    (hf : f name = Path.join path name) :
    ((other.directoryNames path name).map f).filter (!d.reaches away ·) =
      ((d.directoryNames path name).map f).filter (!d.reaches away ·) := by
  unfold Disk.directoryNames
  split
  · rw [h.namesMatching]
    intro _ _ _ _ _
    rfl
  · cases hpath : d.reaches away (Path.join path name) with
    | true =>
        -- A path to a file that differs may or may not be there, but it does not count.
        have hnone : [f name].filter (!d.reaches away ·) = [] := by simp [hf, hpath]
        split <;> split <;> simp only [List.map_cons, List.map_nil, hnone] <;> rfl
    | false =>
        unfold holds
        rw [h.find?_of_not_reaches hpath]

/-- A pattern for directories finds the same ones on both disks, but for those that differ. -/
theorem directoriesWith (hsound : d.Sound) (fuel : Nat) (path : String) :
    (Disk.directoriesWith fuel other path).filter (!d.reaches away ·) =
      (Disk.directoriesWith fuel d path).filter (!d.reaches away ·) := by
  induction fuel generalizing path with
  | zero => rfl
  | succ fuel ih =>
      have hname := notMem_split path
      unfold Disk.directoriesWith
      split
      · rfl
      · simp only []
        split
        · have hnames := h.directoryNames (f := id)
            (Path.join_empty (Path.isAbsolute_of_notMem hname)).symm
          rwa [List.map_id, List.map_id] at hnames
        · -- Above are the same directories but for paths to files, below which there is nothing.
          refine filter_flatMap_congr (ih _) (fun directory => h.directoryNames rfl) ?_
          intro directory hdirectory
          obtain ⟨place, hplace, haway⟩ := locate_of_reaches (by simpa using hdirectory)
          rw [directoryNames_of_no_directory hsound (h.noDirectory place haway) hname hplace]
          rfl

/-! ## Matches -/

/-- A pattern finds the same files on both disks, but for those at the places that differ. -/
theorem matching (hsound : d.Sound)
    (hnamed : ∀ place, away place = true → ∃ above last, place = above ++ [last] ∧ IsName last)
    (path pattern : String) :
    (other.matching path pattern).filter (d.avoids away) =
      (d.matching path pattern).filter (d.avoids away) := by
  unfold Disk.matching
  refine filter_flatMap_congr (h.directoriesWith hsound _ _) ?_ ?_
  · intro found
    rw [← List.filterMap_eq_filter, List.filterMap_map, List.filterMap_map]
    refine h.namesMatching found _ ?_
    intro directory name file hfound haway
    obtain ⟨above, last, hlast, hname⟩ := hnamed _ haway
    obtain ⟨rfl, hlastname⟩ := List.append_inj' hlast rfl
    obtain rfl := List.singleton_inj.mp hlastname
    simp [not_avoids_join hname hfound haway]
  · intro found hreaches
    obtain ⟨place, hplace, haway⟩ := locate_of_reaches (by simpa using hreaches)
    rw [namesMatching_of_no_directory hsound (h.noDirectory place haway)]
    · rfl
    · rw [if_neg (by simpa using (locate_eq_ok hplace).1)]
      exact hplace

end

end Differ

end Clickpath.Disk
