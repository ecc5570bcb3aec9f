import Clickpath.Proofs.Disk.Patterns

/-! # Writing a file

What a disk looks like after a file was put at a location where no directory stands: it differs in
this file alone.
-/

namespace Clickpath.Disk

/-! ## Entries -/

/-- An entry that is entered is found under its own location, and no other changes. -/
theorem lookup_enter (place other : Location) (entry : DiskEntry)
    (entries : List (Location × DiskEntry)) :
    (enter place entry entries).lookup other =
      if other = place then some entry else entries.lookup other := by
  induction entries with
  | nil => exact lookup_cons place other entry []
  | cons old rest ih =>
      obtain ⟨first, content⟩ := old
      unfold enter
      by_cases hfirst : first = place
      · subst hfirst
        rw [if_pos rfl, lookup_cons, lookup_cons]
        split <;> rfl
      · rw [if_neg hfirst, lookup_cons, lookup_cons, ih]
        by_cases h : other = first
        · rw [if_pos h, if_neg (h ▸ hfirst), if_pos h]
        · rw [if_neg h, if_neg h]

/-- What takes the place of an entry makes no new one. -/
theorem places_enter {place : Location} {entry old : DiskEntry}
    {entries : List (Location × DiskEntry)} (hold : entries.lookup place = some old) :
    (enter place entry entries).map (·.1) = entries.map (·.1) := by
  induction entries with
  | nil => cases hold
  | cons first rest ih =>
      obtain ⟨other, content⟩ := first
      unfold enter
      by_cases hother : other = place
      · simp [hother]
      · rw [lookup_cons, if_neg (Ne.symm hother)] at hold
        rw [if_neg hother, List.map_cons, List.map_cons, ih hold]

/-- A map that gives nothing for what is at a location, before and after, gives the same. -/
theorem filterMap_enter {place : Location} {entry : DiskEntry} {f : Location × DiskEntry → Option α}
    {entries : List (Location × DiskEntry)} (hnew : f (place, entry) = none)
    (hold : ∀ old, entries.lookup place = some old → f (place, old) = none) :
    (enter place entry entries).filterMap f = entries.filterMap f := by
  induction entries with
  | nil => simp [enter, hnew]
  | cons old rest ih =>
      obtain ⟨other, content⟩ := old
      unfold enter
      by_cases hother : other = place
      · subst hother
        rw [if_pos rfl, List.filterMap_cons_none hnew,
          List.filterMap_cons_none (hold content (by rw [lookup_cons, if_pos rfl]))]
      · have hrest := ih fun old hlookup => hold old (by
          rw [lookup_cons, if_neg (Ne.symm hother)]
          exact hlookup)
        rw [if_neg hother, List.filterMap_cons, List.filterMap_cons, hrest]

/-- Anything can be put below the top. -/
theorem entryAt?_put_of_ne_nil (d : Disk) {place : Location} (hplace : place ≠ [])
    (entry : DiskEntry) (other : Location) :
    (d.put place entry).entryAt? other =
      if other = place then some entry else d.entryAt? other := by
  unfold entryAt?
  cases other with
  | nil => simp [hplace.symm]
  | cons name rest => exact lookup_enter place _ _ _

section

variable {d : Disk} {place : Location} (file : File)

theorem entryAt?_put (hplace : d.entryAt? place ≠ some .directory) (other : Location) :
    (d.put place (.file file)).entryAt? other =
      if other = place then some (.file file) else d.entryAt? other := by
  apply entryAt?_put_of_ne_nil
  rintro rfl
  exact hplace rfl

theorem directory_put_iff (hplace : d.entryAt? place ≠ some .directory) (other : Location) :
    (d.put place (.file file)).entryAt? other = some .directory ↔
      d.entryAt? other = some .directory := by
  rw [entryAt?_put file hplace]
  by_cases h : other = place
  · simp [h, hplace]
  · rw [if_neg h]

/-- A disk stays sound when a file is put into a directory. -/
theorem Sound.put (hsound : d.Sound) (hplace : d.entryAt? place ≠ some .directory)
    (habove : d.entryAt? place.dropLast = some .directory) :
    (d.put place (.file file)).Sound := by
  intro other entry hentry
  rw [directory_put_iff file hplace]
  rw [entryAt?_put file hplace] at hentry
  split at hentry
  next hsame => rwa [hsame]
  next => exact hsound other entry hentry

/-- Nothing but the written file is new on the disk. -/
theorem differ_put (hplace : d.entryAt? place ≠ some .directory) :
    d.Differ (fun other => other = place) (d.put place (.file file)) where
  current := rfl
  noDirectory other hother := by
    rwa [of_decide_eq_true hother]
  directory := directory_put_iff file hplace
  entry other hother := by
    rw [entryAt?_put file hplace, if_neg (of_decide_eq_false hother)]
  taken f hf := by
    refine filterMap_enter (hf place file (by simp)) ?_
    -- What the file takes the place of, if anything, was a file.
    intro old hold
    cases old with
    | file content => exact hf place content (by simp)
    | directory =>
        refine absurd ?_ hplace
        unfold entryAt?
        split
        · rfl
        · exact hold

/-! ## Files -/

/-- The path leads to another location, or is one that no disk takes. -/
def apart (d : Disk) (place : Location) (path : String) : Bool :=
  match d.locate path with
  | .ok other => other ≠ place
  | .error cause => cause = .zeroInPath

theorem apart_eq (d : Disk) (place : Location) :
    d.apart place = d.avoids fun other => other = place := by
  funext path
  unfold apart avoids
  cases d.locate path with
  | ok other => exact decide_not
  | error cause => rfl

theorem apart_put (hplace : d.entryAt? place ≠ some .directory) (path : String) :
    (d.put place (.file file)).apart place path = d.apart place path := by
  rw [apart_eq, apart_eq]
  exact (differ_put file hplace).avoids_eq path

theorem file_put_of_apart (hplace : d.entryAt? place ≠ some .directory) {path : String}
    (hpath : d.apart place path = true) : (d.put place (.file file)).file path = d.file path := by
  rw [apart_eq] at hpath
  exact (differ_put file hplace).file_of_avoids hpath

/-- A path that is not apart leads to the written file or to nothing. -/
theorem file_put_of_not_apart (hplace : d.entryAt? place ≠ some .directory) {path : String}
    (hpath : d.apart place path = false) :
    (d.put place (.file file)).file path = .ok file ∨
      ∃ cause, cause ≠ .zeroInPath ∧
        (d.put place (.file file)).file path = .error ⟨cause, path⟩ := by
  rw [← apart_put file hplace] at hpath
  unfold apart at hpath
  unfold Disk.file
  cases hafter : (d.put place (.file file)).locate path with
  | ok other =>
      rw [hafter] at hpath
      obtain rfl : other = place := by simpa using hpath
      left
      simp only []
      rw [entryAt?_put file hplace, if_pos rfl]
  | error cause =>
      rw [hafter] at hpath
      exact .inr ⟨cause, by simpa using hpath, rfl⟩

theorem matching_put (hsound : d.Sound) (hplace : d.entryAt? place ≠ some .directory)
    {above : Location} {last : String} (hlast : place = above ++ [last]) (hname : IsName last)
    (path pattern : String) :
    ((d.put place (.file file)).matching path pattern).filter (d.apart place) =
      (d.matching path pattern).filter (d.apart place) := by
  rw [apart_eq]
  refine (differ_put file hplace).matching hsound ?_ path pattern
  intro other hother
  exact ⟨above, last, (of_decide_eq_true hother).trans hlast, hname⟩

end

end Clickpath.Disk
