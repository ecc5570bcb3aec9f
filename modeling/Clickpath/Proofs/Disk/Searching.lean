import Clickpath.Proofs.Disk.Patterns
import Mathlib.Data.List.TakeWhile

/-! # What patterns find

A star with an ending behind it matches the names that are not hidden and end so. A pattern finds
the names that it matches in the directories for which the path in front of it stands.
-/

namespace Clickpath

namespace Path

/-! ## Directory and name -/

/-- A text is cut behind its last separator. -/
theorem splitAtLast_append {before name : List Char} (hname : '/' ∉ name)
    (hbefore : before = [] ∨ ∃ front, before = front ++ ['/']) :
    Chars.splitAtLast '/' (before ++ name) = (before, name) := by
  have hrow : name.reverse.all (· != '/') = true := by
    rw [List.all_eq_true]
    intro c hc
    have hne : c ≠ '/' := fun h => hname (h ▸ List.mem_reverse.mp hc)
    simpa using hne
  have htail : (before ++ name).reverse.takeWhile (· != '/') = name.reverse := by
    rcases hbefore with rfl | ⟨front, rfl⟩
    · rw [List.nil_append]
      exact List.takeWhile_eq_self_iff.mpr (List.all_eq_true.mp hrow)
    · rw [List.reverse_append, List.reverse_append, List.reverse_singleton]
      exact Chars.takeWhile_append_cons hrow rfl
  simp only [Chars.splitAtLast, htail, List.reverse_reverse, List.length_append,
    Nat.add_sub_cancel, List.take_left]

/-- A slash behind a path does not count. -/
theorem withoutEndSlashes_slash {path : String} (hempty : path ≠ "")
    (hend : endsWithSlash path = false) :
    withoutEndSlashes (String.ofList (path.toList ++ ['/'])) = withoutEndSlashes path := by
  unfold withoutEndSlashes
  rw [String.toList_ofList, List.reverse_append, List.reverse_singleton, List.singleton_append,
    List.dropWhile_cons_of_pos (by decide)]
  split
  next hnone =>
    unfold endsWithSlash at hend
    rw [List.getLast?_eq_head?_reverse] at hend
    cases hchars : path.toList.reverse with
    | nil => exact absurd (by simpa using hchars) hempty
    | cons c rest =>
        rw [hchars, List.head?_cons] at hend
        have hc : (c == '/') = false := by simpa using hend
        rw [hchars, List.dropWhile_cons_of_neg (by simp [hc])] at hnone
        cases hnone
  next => rfl

/-- The name and its directory can be told apart again behind a slash. -/
theorem split_join {directory name : String} (hname : '/' ∉ name.toList) :
    split (join directory name) = (withoutEndSlashes directory, name) := by
  have hrelative := isAbsolute_of_notMem hname
  unfold split
  by_cases hempty : directory = ""
  · subst hempty
    have hsplit := splitAtLast_append hname (.inl rfl)
    rw [List.nil_append] at hsplit
    rw [join_empty hrelative, hsplit]
    simp only [String.ofList_toList]
  · rcases toList_join hempty hrelative with ⟨hend, hchars⟩ | ⟨hend, hchars⟩
    · have hfront : ∃ front, directory.toList = front ++ ['/'] := by
        obtain ⟨front, hfront⟩ := List.getLast?_eq_some_iff.mp (beq_iff_eq.mp hend)
        exact ⟨front, hfront⟩
      rw [hchars, splitAtLast_append hname (.inr hfront)]
      simp only [String.ofList_toList]
    · rw [hchars, List.append_cons, splitAtLast_append hname (.inr ⟨_, rfl⟩)]
      simp only [String.ofList_toList, withoutEndSlashes_slash hempty hend]

/-- The slashes at the end of a path are all that is cut off, and never the whole of it. -/
theorem toList_withoutEndSlashes {path : String} (hempty : path ≠ "") :
    withoutEndSlashes path ≠ "" ∧
      ∃ count, path.toList = (withoutEndSlashes path).toList ++ List.replicate count '/' := by
  have hwhole := List.takeWhile_append_dropWhile (p := (· == '/')) (l := path.toList.reverse)
  obtain ⟨count, hslashes⟩ : ∃ count,
      path.toList.reverse.takeWhile (· == '/') = List.replicate count '/' := by
    refine ⟨_, List.eq_replicate_iff.mpr ⟨rfl, fun c hc => ?_⟩⟩
    exact beq_iff_eq.mp (List.all_eq_true.mp List.all_takeWhile c hc)
  unfold withoutEndSlashes
  split
  next => exact ⟨hempty, 0, by simp⟩
  next hkept =>
    rw [hslashes] at hwhole
    refine ⟨fun h => ?_, count, ?_⟩
    · have hnone := congrArg String.toList h
      rw [String.toList_ofList] at hnone
      exact hkept (List.reverse_eq_nil_iff.mp hnone)
    · have hchars := congrArg List.reverse hwhole
      rw [List.reverse_append, List.reverse_replicate, List.reverse_reverse] at hchars
      rw [String.toList_ofList]
      exact hchars.symm

theorem splitOn_append_replicate (s : List Char) (count : Nat) :
    Chars.splitOn '/' (s ++ List.replicate count '/') =
      Chars.splitOn '/' s ++ List.replicate count [] := by
  induction count generalizing s with
  | zero => simp
  | succ count ih =>
      have hslashes := ih []
      rw [List.nil_append] at hslashes
      rw [List.replicate_succ, Chars.splitOn_append_separator, hslashes]
      rfl

theorem parts_withoutEndSlashes {path : String} (hempty : path ≠ "") :
    ∃ count, parts path = parts (withoutEndSlashes path) ++ List.replicate count "" := by
  obtain ⟨_, count, hcount⟩ := toList_withoutEndSlashes hempty
  refine ⟨count, ?_⟩
  unfold parts
  rw [hcount, splitOn_append_replicate, List.map_append, List.map_replicate]

theorem isAbsolute_withoutEndSlashes {path : String} (hempty : path ≠ "") :
    isAbsolute (withoutEndSlashes path) = isAbsolute path := by
  obtain ⟨hkept, count, hcount⟩ := toList_withoutEndSlashes hempty
  unfold isAbsolute
  cases hchars : (withoutEndSlashes path).toList with
  | nil => exact absurd (by simpa using hchars) hkept
  | cons c rest => rw [hcount, hchars, List.cons_append, List.head?_cons, List.head?_cons]

theorem parts_append (path : String) {ending : String} (hending : '/' ∉ ending.toList) :
    ∃ last, parts (path ++ ending) = (parts path).dropLast ++ [last] := by
  obtain ⟨front, last, hpath, hwhole⟩ := Chars.splitOn_append hending path.toList
  refine ⟨String.ofList (last ++ ending.toList), ?_⟩
  unfold parts
  rw [String.toList_append, hwhole, hpath, List.map_append, List.map_append,
    List.map_singleton, List.map_singleton, List.dropLast_concat]

theorem isAbsolute_append (path : String) {ending : String} (hending : isAbsolute ending = false) :
    isAbsolute (path ++ ending) = isAbsolute path := by
  unfold isAbsolute at hending ⊢
  rw [String.toList_append]
  cases path.toList with
  | nil => exact hending
  | cons c rest => rfl

end Path

namespace Wildcard

/-! ## Endings -/

theorem anyEnding_iff (p : List Char → Bool) (s : List Char) :
    anyEnding p s = true ↔ ∃ ending, ending <:+ s ∧ p ending = true := by
  induction s with
  | nil => simp [anyEnding]
  | cons c rest ih =>
      rw [anyEnding, Bool.or_eq_true, ih]
      simp only [List.suffix_cons_iff, or_and_right, exists_or, exists_eq_left]

/-- Parts that are plain characters match their own text alone. -/
theorem partsMatch_exactly (ending s : List Char) :
    partsMatch (ending.map .exactly) s = true ↔ s = ending := by
  induction ending generalizing s with
  | nil => simp [partsMatch]
  | cons c ending ih =>
      cases s with
      | nil => simp [partsMatch]
      | cons d rest =>
          rw [List.map_cons, partsMatch, Bool.and_eq_true, ih, beq_iff_eq, List.cons.injEq]
          exact and_congr_left' eq_comm

/-- A text that could be no pattern stands for its characters. -/
theorem partsWith_of_not_isPattern {s : List Char} (hs : isPattern s = false) {fuel : Nat}
    (hfuel : s.length ≤ fuel) : partsWith fuel s = s.map .exactly := by
  induction s generalizing fuel with
  | nil => cases fuel <;> rfl
  | cons c rest ih =>
      cases fuel with
      | zero => simp at hfuel
      | succ fuel =>
          unfold isPattern at hs ih
          rw [List.any_cons, Bool.or_eq_false_iff] at hs
          obtain ⟨hc, hrest⟩ := hs
          simp only [Bool.or_eq_false_iff, beq_eq_false_iff_ne] at hc
          have hrest := ih hrest (Nat.le_of_succ_le_succ hfuel)
          rw [List.map_cons, ← hrest, partsWith]
          · exact fun h => hc.1.1 h
          · exact fun h => hc.1.2 h
          · exact fun h => hc.2 h

/-- A star in front of an ending matches the names with this ending that are not hidden. -/
theorem nameMatches_star {ending : String} (hending : isPattern ending.toList = false)
    (name : String) : nameMatches ("*" ++ ending) name = true ↔
      isHidden name = false ∧ ending.toList <:+ name.toList := by
  have hchars : ("*" ++ ending).toList = '*' :: ending.toList := by simp
  have hparts : parts ("*" ++ ending).toList = .anyText :: ending.toList.map .exactly := by
    unfold parts
    rw [hchars, List.length_cons, partsWith, partsWith_of_not_isPattern hending (Nat.le_refl _)]
  unfold nameMatches
  rw [hparts, partsMatch, Bool.and_eq_true, anyEnding_iff]
  simp only [partsMatch_exactly, exists_eq_right]
  simp [isHidden, hchars]

end Wildcard

namespace Disk

open Wildcard

variable {d : Disk}

/-! ## Directories -/

theorem follow_replicate {here : Location} (hhere : d.entryAt? here = some .directory)
    (count : Nat) : d.follow here (List.replicate count "") = .ok here := by
  induction count with
  | zero => rfl
  | succ count ih =>
      rw [List.replicate_succ, follow_cons_of_directory "" _ hhere]
      exact ih

/-- A path leads to the same directory without the slashes at its end. -/
theorem locate_withoutEndSlashes {path : String} {here there : Location}
    (hpath : d.locate path = .ok here) (hshort : d.locate (Path.withoutEndSlashes path) = .ok there)
    (hthere : d.entryAt? there = some .directory) : here = there := by
  obtain ⟨hempty, _, hfollow⟩ := locate_eq_ok hpath
  obtain ⟨_, _, hfollow'⟩ := locate_eq_ok hshort
  -- The slashes open empty parts, and an empty part stays in the directory.
  obtain ⟨count, hparts⟩ := Path.parts_withoutEndSlashes hempty
  rw [Path.isAbsolute_withoutEndSlashes hempty] at hfollow'
  rw [hparts, follow_append, hfollow'] at hfollow
  exact Except.ok.inj (hfollow.symm.trans (follow_replicate hthere count))

/-- What a single part leads to, if it is no directory, stands in the directory itself. -/
theorem follow_singleton (hsound : d.Sound) {here place : Location} {part : String}
    (h : d.follow here [part] = .ok place) (hplace : d.entryAt? place ≠ some .directory) :
    d.entryAt? here = some .directory ∧ place = here ++ [part] := by
  have hhere := directory_of_follow_cons h
  refine ⟨hhere, ?_⟩
  rw [follow_cons_of_directory part [] hhere] at h
  cases hnext : next here part with
  | error cause => rw [hnext] at h; cases h
  | ok there =>
      rw [hnext] at h
      cases h
      -- A part that stays or goes up ends in a directory, so that this one is a name.
      rcases next_cases hnext with rfl | rfl | ⟨rfl, _⟩
      · exact absurd hhere hplace
      · exact absurd (hsound _ _ hhere) hplace
      · rfl

/-- The directories in which a pattern behind this path finds names. -/
def searched (d : Disk) (path : String) : List String :=
  directoriesWith (Path.withoutEndSlashes path).length d (Path.withoutEndSlashes path)

theorem isPattern_withoutEndSlashes {path : String} (hpath : isPattern path.toList = false) :
    isPattern (Path.withoutEndSlashes path).toList = false := by
  by_cases hempty : path = ""
  · subst hempty
    rfl
  · obtain ⟨_, count, hcount⟩ := Path.toList_withoutEndSlashes hempty
    unfold isPattern at hpath ⊢
    rw [hcount, List.any_append, Bool.or_eq_false_iff] at hpath
    exact hpath.1

/-- A path that is no pattern stands for one directory. -/
theorem searched_of_not_isPattern {path : String} (hpath : isPattern path.toList = false) :
    d.searched path = [Path.withoutEndSlashes path] := by
  have hshort := isPattern_withoutEndSlashes hpath
  unfold searched
  cases (Path.withoutEndSlashes path).length with
  | zero => rfl
  | succ fuel =>
      rw [directoriesWith, hshort]
      rfl

/-! ## Matches -/

/-- No name on the disk holds a slash. -/
def Named (d : Disk) : Prop := ∀ entry ∈ d.entries, ∀ name ∈ entry.1, '/' ∉ name.toList

/-- The names in a directory are those of the entries one level below its location. -/
theorem mem_listing {path name : String} {entry : DiskEntry} :
    (name, entry) ∈ d.listing path ↔ ∃ above,
      d.locate (if path.isEmpty then "." else path) = .ok above ∧
        (above ++ [name], entry) ∈ d.entries := by
  unfold listing
  cases hpath : d.locate (if path.isEmpty then "." else path) with
  | error cause => simp
  | ok above =>
      simp only [List.mem_filterMap, Option.map_eq_some_iff, Except.ok.injEq, exists_eq_left']
      constructor
      · rintro ⟨⟨place, content⟩, hmem, found, hfound, heq⟩
        cases heq
        obtain rfl : place = above ++ [name] := nameIn?_eq_some_iff.mp hfound
        exact hmem
      · intro hmem
        exact ⟨_, hmem, name, nameIn?_eq_some_iff.mpr rfl, rfl⟩

/-- A pattern finds the names that it matches in each of the directories that are searched. -/
theorem mem_matching {directory pattern path : String} (hpattern : '/' ∉ pattern.toList) :
    path ∈ d.matching directory pattern ↔ ∃ found ∈ d.searched directory, ∃ name entry,
      (name, entry) ∈ d.listing found ∧ nameMatches pattern name = true ∧
        path = Path.join found name := by
  unfold matching
  rw [Path.split_join hpattern]
  simp only [searched, List.mem_flatMap, List.mem_map, namesMatching, List.mem_filter, Prod.exists]
  constructor
  · rintro ⟨found, hfound, name, entry, ⟨hlisted, hmatches⟩, rfl⟩
    exact ⟨found, hfound, name, entry, hlisted, hmatches, rfl⟩
  · rintro ⟨found, hfound, name, entry, hlisted, hmatches, rfl⟩
    exact ⟨found, hfound, name, entry, ⟨hlisted, hmatches⟩, rfl⟩

end Disk

end Clickpath
