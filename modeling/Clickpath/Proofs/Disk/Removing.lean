import Clickpath.Proofs.Disk.Differing
import Mathlib.Data.List.Basic

/-! # Removing files

What a disk looks like after the files at some locations were taken from it.
-/

namespace Clickpath.Disk

/-- The disk without what stands at some locations. -/
def without (d : Disk) (gone : Location → Bool) : Disk :=
  { d with entries := d.entries.filter fun entry => !gone entry.1 }

def Distinct (d : Disk) : Prop := (d.entries.map (·.1)).Nodup

/-- Entries that are filtered by location are looked up as before, unless their location is gone. -/
theorem lookup_filter (gone : Location → Bool) (place : Location)
    (entries : List (Location × DiskEntry)) :
    (entries.filter fun entry => !gone entry.1).lookup place =
      if gone place then none else entries.lookup place := by
  induction entries with
  | nil => simp
  | cons entry rest ih =>
      obtain ⟨other, content⟩ := entry
      rw [List.filter_cons, lookup_cons]
      cases hother : gone other with
      | true =>
          rw [if_neg (by simp), ih]
          by_cases hsame : place = other
          · simp [hsame, hother]
          · rw [if_neg hsame]
      | false =>
          rw [if_pos (by simp), lookup_cons, ih]
          by_cases hsame : place = other
          · simp [hsame, hother]
          · rw [if_neg hsame, if_neg hsame]

/-- An entry is found under its location if no location is listed twice. -/
theorem lookup_of_mem {entries : List (Location × DiskEntry)}
    (hdistinct : (entries.map (·.1)).Nodup) {place : Location} {content : DiskEntry}
    (hmem : (place, content) ∈ entries) : entries.lookup place = some content := by
  induction entries with
  | nil => cases hmem
  | cons entry rest ih =>
      obtain ⟨other, found⟩ := entry
      obtain ⟨hother, hrest⟩ := List.nodup_cons.mp hdistinct
      rw [lookup_cons]
      rcases List.mem_cons.mp hmem with heq | hlater
      · cases heq
        exact if_pos rfl
      · rw [if_neg, ih hrest hlater]
        rintro rfl
        exact hother (List.mem_map.mpr ⟨_, hlater, rfl⟩)

section

variable {d : Disk} {gone : Location → Bool}
  (hgone : ∀ place, gone place = true → ∃ file, d.entryAt? place = some (.file file))

include hgone

theorem entryAt?_without (place : Location) :
    (d.without gone).entryAt? place = if gone place then none else d.entryAt? place := by
  cases place with
  | nil =>
      cases htop : gone [] with
      | true =>
          obtain ⟨file, hfile⟩ := hgone [] htop
          cases hfile
      | false => rfl
  | cons name above => exact lookup_filter gone (name :: above) d.entries

/-- What is left of a disk differs from it in the files that are gone. -/
theorem differ_without (hdistinct : d.Distinct) : d.Differ gone (d.without gone) where
  current := rfl
  noDirectory place hplace := by
    obtain ⟨file, hfile⟩ := hgone place hplace
    rw [hfile]
    exact nofun
  directory place := by
    rw [entryAt?_without hgone]
    cases hplace : gone place with
    | true =>
        obtain ⟨file, hfile⟩ := hgone place hplace
        simp [hfile]
    | false => rfl
  entry place hplace := by
    rw [entryAt?_without hgone, hplace]
    rfl
  taken f hf := by
    refine List.filterMap_filter.trans (List.filterMap_congr ?_)
    rintro ⟨place, content⟩ hmem
    cases hplace : gone place with
    | true =>
        -- The entry that is left out is the one that stands there, as no other has its place.
        obtain ⟨file, hfile⟩ := hgone place hplace
        have hlookup := lookup_of_mem hdistinct hmem
        obtain rfl : content = .file file := by
          cases place with
          | nil => cases hfile
          | cons name above => exact Option.some.inj (hlookup.symm.trans hfile)
        simp [hf place file hplace]
    | false => simp

end

end Clickpath.Disk
