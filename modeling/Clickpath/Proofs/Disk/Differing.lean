import Clickpath.Proofs.Disk.Following

/-! # Disks that differ in files

Two disks with the same directories, on which different files stand at some locations. Paths lead to
the same locations on both, and every file elsewhere is the same.
-/

namespace Clickpath.Disk

/-- Two disks that are the same but for files at some locations, where no directory stands. -/
structure Differ (away : Location → Bool) (d other : Disk) : Prop where
  current : other.current = d.current
  noDirectory : ∀ place, away place = true → d.entryAt? place ≠ some .directory
  directory : ∀ place, other.entryAt? place = some .directory ↔ d.entryAt? place = some .directory
  entry : ∀ place, away place = false → other.entryAt? place = d.entryAt? place
  /-- What is taken from the entries is the same if nothing is taken from the files that differ. -/
  taken : ∀ {α : Type} (f : Location × DiskEntry → Option α),
    (∀ place file, away place = true → f (place, .file file) = none) →
    other.entries.filterMap f = d.entries.filterMap f

/-- The path leads to none of the locations, or is one that no disk takes. -/
def avoids (d : Disk) (away : Location → Bool) (path : String) : Bool :=
  match d.locate path with
  | .ok place => !away place
  | .error cause => cause = .zeroInPath

/-- The path leads to one of the locations. -/
def reaches (d : Disk) (away : Location → Bool) (path : String) : Bool :=
  match d.locate path with
  | .ok place => away place
  | .error _ => false

theorem find?_eq (d : Disk) (path : String) :
    d.find? path = (d.locate path).toOption.bind d.entryAt? := by
  unfold find?
  cases d.locate path <;> rfl

theorem reaches_of_locate {d : Disk} {away : Location → Bool} {path : String} {place : Location}
    (hpath : d.locate path = .ok place) : d.reaches away path = away place := by
  unfold reaches
  rw [hpath]

theorem locate_of_reaches {d : Disk} {away : Location → Bool} {path : String}
    (h : d.reaches away path = true) : ∃ place, d.locate path = .ok place ∧ away place = true := by
  unfold reaches at h
  split at h
  next place hpath => exact ⟨place, hpath, h⟩
  next => cases h

namespace Differ

section

variable {away : Location → Bool} {d other : Disk} (h : d.Differ away other)

include h

/-! ## Paths -/

/-- Two disks that differ in files alone are followed to the same places. -/
theorem follow (here : Location) (parts : List String) :
    (other.follow here parts).toOption = (d.follow here parts).toOption := by
  induction parts generalizing here with
  | nil => rfl
  | cons part rest ih =>
      by_cases hhere : d.entryAt? here = some .directory
      · rw [follow_cons_of_directory part rest hhere,
          follow_cons_of_directory part rest ((h.directory here).mpr hhere)]
        cases next here part with
        | error cause => rfl
        | ok there => exact ih there
      · obtain ⟨_, _, hlost⟩ := follow_cons_of_ne_directory hhere
        obtain ⟨_, _, hlost'⟩ := follow_cons_of_ne_directory (mt (h.directory here).mp hhere)
        rw [hlost, hlost']
        rfl

/-- A path names the same place on both disks. -/
theorem locate (path : String) : (other.locate path).toOption = (d.locate path).toOption := by
  have hfollow := h.follow (if Path.isAbsolute path then [] else d.current) (Path.parts path)
  unfold Disk.locate
  rw [h.current]
  split
  · rfl
  · split
    · rfl
    · split
      · rfl
      · exact hfollow

theorem locate_iff (path : String) (place : Location) :
    other.locate path = .ok place ↔ d.locate path = .ok place := by
  have hlocate := h.locate path
  cases hbefore : d.locate path <;>
    cases hafter : other.locate path <;> simp_all [Except.toOption]

/-- Whether a path leads to a place that differs can be told from either disk. -/
theorem avoids_eq (path : String) : other.avoids away path = d.avoids away path := by
  have hok := h.locate_iff path
  have hzero := (locate_eq_zeroInPath_iff other path).trans (locate_eq_zeroInPath_iff d path).symm
  unfold avoids
  cases hbefore : d.locate path with
  | ok place => rw [(hok place).mpr hbefore]
  | error cause =>
      cases hafter : other.locate path with
      | ok place => exact absurd ((hok place).mp hafter) (by rw [hbefore]; exact nofun)
      | error reason =>
          rw [hbefore, hafter] at hzero
          simpa using hzero

theorem find?_of_not_reaches {path : String} (hpath : d.reaches away path = false) :
    other.find? path = d.find? path := by
  rw [find?_eq, find?_eq, h.locate]
  cases hbefore : d.locate path with
  | error cause => rfl
  | ok place =>
      rw [reaches_of_locate hbefore] at hpath
      exact h.entry place hpath

/-! ## Files -/

/-- A path that leads to none of the places names the same file on both disks. -/
theorem file_of_avoids {path : String} (hpath : d.avoids away path = true) :
    other.file path = d.file path := by
  unfold avoids at hpath
  unfold Disk.file
  cases hbefore : d.locate path with
  | ok place =>
      rw [hbefore] at hpath
      rw [(h.locate_iff path place).mpr hbefore]
      simp only [h.entry place (by simpa using hpath)]
  | error cause =>
      rw [hbefore] at hpath
      obtain rfl : cause = .zeroInPath := by simpa using hpath
      have hzero := (locate_eq_zeroInPath_iff d path).mp hbefore
      rw [(locate_eq_zeroInPath_iff other path).mpr hzero]

end

end Differ

end Clickpath.Disk
