import Clickpath.Proofs.Disk.Writing

/-! # Making directories

Directories are made where nothing stood. Whether all that are wanted can be made or not, no file
comes, goes or changes.
-/

namespace Clickpath.Disk

/-- The same files stand at the same locations. -/
def SameFiles (d other : Disk) : Prop :=
  ∀ place file, other.entryAt? place = some (.file file) ↔ d.entryAt? place = some (.file file)

theorem SameFiles.refl (d : Disk) : d.SameFiles d := fun _ _ => Iff.rfl

theorem SameFiles.trans {first second third : Disk} (h : first.SameFiles second)
    (h' : second.SameFiles third) : first.SameFiles third :=
  fun place file => (h' place file).trans (h place file)

/-- A directory where nothing was changes no file. -/
theorem sameFiles_put_directory {d : Disk} {place : Location} (hplace : d.entryAt? place = none) :
    d.SameFiles (d.put place .directory) := by
  intro other file
  have hbelow : place ≠ [] := by
    rintro rfl
    cases hplace
  rw [entryAt?_put_of_ne_nil d hbelow]
  by_cases hother : other = place
  · rw [if_pos hother, hother, hplace]
    exact iff_of_false nofun nofun
  · rw [if_neg hother]

theorem sameFiles_makeDirectory {d made : Disk} {path : String}
    (h : d.makeDirectory path = .ok made) : d.SameFiles made := by
  unfold makeDirectory at h
  split at h
  next => cases h
  next place _ =>
    split at h
    next => cases h
    next hplace =>
      cases h
      exact sameFiles_put_directory hplace

theorem sameFiles_makeLast (fresh : Bool) (d : Disk) (path : String) :
    d.SameFiles (d.makeLast fresh path).2 := by
  unfold makeLast
  cases hmade : d.makeDirectory path with
  | ok made => exact sameFiles_makeDirectory hmade
  | error fault => exact .refl d

/-- The directories that are made around a path change no file. -/
theorem sameFiles_makeWith (fresh : Bool) (fuel : Nat) (d : Disk) (path : String) :
    d.SameFiles (makeWith fresh fuel d path).2 := by
  induction fuel generalizing d path with
  | zero => exact sameFiles_makeLast fresh d path
  | succ fuel ih =>
      rw [makeWith]
      dsimp only
      split
      next => exact sameFiles_makeLast fresh d path
      next =>
        have habove := ih d (splitNamed path).1
        generalize makeWith fresh fuel d (splitNamed path).1 = above at habove ⊢
        have hlast : d.SameFiles (if (splitNamed path).2 == "." then (.ok (), above.2)
            else above.2.makeLast fresh path).2 := by
          split
          next => exact habove
          next => exact habove.trans (sameFiles_makeLast fresh _ path)
        split
        next => exact hlast
        next => exact hlast
        next => exact habove

end Clickpath.Disk
