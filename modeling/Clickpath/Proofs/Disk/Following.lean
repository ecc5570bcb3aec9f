import Clickpath.Disk
import Clickpath.Proofs.Chars.Reading

/-! # Following paths

Where a name in a directory leads, and what a location is like at which no directory stands: the
last part of the path is its name, and what is above it is a directory.
-/

namespace Clickpath

/-! ## Parts of paths -/

namespace Path

theorem mem_parts {path part : String} (hpart : part ∈ parts path) :
    '/' ∉ part.toList ∧ ∀ c ∈ part.toList, c ∈ path.toList := by
  obtain ⟨chars, hchars, rfl⟩ := List.mem_map.mp hpart
  rw [String.toList_ofList]
  exact Chars.of_mem_splitOn hchars

theorem parts_of_notMem {name : String} (hname : '/' ∉ name.toList) : parts name = [name] := by
  simp [parts, Chars.splitOn_of_notMem hname]

theorem isAbsolute_of_notMem {name : String} (hname : '/' ∉ name.toList) :
    isAbsolute name = false := by
  unfold isAbsolute
  cases hchars : name.toList with
  | nil => rfl
  | cons c rest =>
      rw [hchars, List.mem_cons, not_or] at hname
      simpa using Ne.symm hname.1

/-- The characters of a joined path, with at most one slash more. -/
theorem toList_join {directory name : String} (hdirectory : directory ≠ "")
    (hname : isAbsolute name = false) :
    (endsWithSlash directory = true ∧
        (join directory name).toList = directory.toList ++ name.toList) ∨
      (endsWithSlash directory = false ∧
        (join directory name).toList = directory.toList ++ '/' :: name.toList) := by
  unfold join
  rw [hname, if_neg Bool.false_ne_true]
  have hempty : directory.isEmpty = false := by simpa using hdirectory
  cases hend : endsWithSlash directory with
  | true => simp [hempty]
  | false => simp [hempty]

/-- The parts of the name come last; a slash at the end of the directory opens one more part, which
is empty. -/
theorem parts_join {directory name : String} (hdirectory : directory ≠ "")
    (hname : isAbsolute name = false) :
    ∃ above, parts (join directory name) = above ++ parts name ∧
      (parts directory = above ∨ parts directory = above ++ [""]) := by
  unfold parts
  rcases toList_join hdirectory hname with ⟨hend, hchars⟩ | ⟨_, hchars⟩
  · obtain ⟨before, hbefore⟩ := List.getLast?_eq_some_iff.mp (beq_iff_eq.mp hend)
    refine ⟨(Chars.splitOn '/' before).map String.ofList, ?_, .inr ?_⟩
    · rw [hchars, hbefore, List.append_assoc, List.singleton_append,
        Chars.splitOn_append_separator, List.map_append]
    · rw [hbefore, Chars.splitOn_append_separator]
      simp [Chars.splitOn]
  · refine ⟨(Chars.splitOn '/' directory.toList).map String.ofList, ?_, .inl rfl⟩
    rw [hchars, Chars.splitOn_append_separator, List.map_append]

theorem isAbsolute_join {directory name : String} (hdirectory : directory ≠ "")
    (hname : isAbsolute name = false) :
    isAbsolute (join directory name) = isAbsolute directory := by
  have hjoin := toList_join hdirectory hname
  unfold isAbsolute
  cases hchars : directory.toList with
  | nil => exact absurd (by simpa using hchars) hdirectory
  | cons c rest => rcases hjoin with ⟨_, h⟩ | ⟨_, h⟩ <;> simp [h, hchars]

theorem join_empty {name : String} (hname : isAbsolute name = false) : join "" name = name := by
  simp [join, hname]

/-- A name that is not absolute is put behind what depends on the directory alone. -/
theorem join_eq {directory name : String} (hname : isAbsolute name = false) :
    join directory name =
      (if directory.isEmpty || endsWithSlash directory then directory else directory ++ "/") ++
        name := by
  unfold join
  rw [hname, if_neg Bool.false_ne_true]
  split <;> rfl

theorem size_le_join {directory name : String} (hname : isAbsolute name = false) :
    directory.utf8ByteSize ≤ (join directory name).utf8ByteSize := by
  unfold join
  rw [hname, if_neg Bool.false_ne_true]
  split <;> simp only [String.utf8ByteSize_append] <;> omega

theorem withoutEndSlashes_of_no_slash {path : String} (hend : endsWithSlash path = false) :
    withoutEndSlashes path = path := by
  unfold withoutEndSlashes
  unfold endsWithSlash at hend
  rw [List.getLast?_eq_head?_reverse] at hend
  cases hchars : path.toList.reverse with
  | nil => rfl
  | cons c rest =>
      rw [hchars] at hend
      have hc : (c == '/') = false := by simpa using hend
      rw [List.dropWhile_cons_of_neg (by simp [hc])]
      simp only [← hchars, List.reverse_reverse, String.ofList_toList]

/-- Slashes are all that is taken from the end of a path. -/
theorem mem_withoutEndSlashes {c : Char} (hc : c ≠ '/') (path : String) :
    c ∈ (withoutEndSlashes path).toList ↔ c ∈ path.toList := by
  unfold withoutEndSlashes
  have hslashes : c ∉ path.toList.reverse.takeWhile (· == '/') :=
    fun hmem => hc (beq_iff_eq.mp (List.all_eq_true.mp List.all_takeWhile c hmem))
  have hmem := calc
    c ∈ path.toList ↔ c ∈ path.toList.reverse.takeWhile (· == '/') ++
        path.toList.reverse.dropWhile (· == '/') := by
      rw [List.takeWhile_append_dropWhile, List.mem_reverse]
    _ ↔ c ∈ path.toList.reverse.dropWhile (· == '/') := by
      rw [List.mem_append, or_iff_right hslashes]
  split
  next => rfl
  next => rw [hmem, String.toList_ofList, List.mem_reverse]

end Path

namespace Disk

/-! ## Following -/

def next (here : Location) (part : String) : Except Cause Location :=
  if part.isEmpty || part == "." then .ok here
  else if part == ".." then .ok here.dropLast
  else if part.utf8ByteSize > maxNameSize then .error .nameTooLong
  else .ok (here ++ [part])

/-- From a directory a path is followed by its first part and then by the rest. -/
theorem follow_cons_of_directory {d : Disk} {here : Location} (part : String) (rest : List String)
    (hhere : d.entryAt? here = some .directory) :
    d.follow here (part :: rest) = (next here part).bind fun there => d.follow there rest := by
  unfold next
  rw [follow, hhere]
  simp only []
  split
  · rfl
  · split
    · rfl
    · split <;> rfl

/-- Nothing can be followed from where no directory is, whatever the parts are. -/
theorem follow_cons_of_ne_directory {d : Disk} {here : Location}
    (hhere : d.entryAt? here ≠ some .directory) :
    ∃ cause, cause ≠ .zeroInPath ∧ ∀ part rest, d.follow here (part :: rest) = .error cause := by
  cases hentry : d.entryAt? here with
  | none =>
      refine ⟨.noSuchFile, nofun, fun part rest => ?_⟩
      rw [follow, hentry]
  | some entry =>
      cases entry with
      | directory => exact absurd hentry hhere
      | file file =>
          refine ⟨.notADirectory, nofun, fun part rest => ?_⟩
          rw [follow, hentry]

theorem directory_of_follow_cons {d : Disk} {here place : Location} {part : String}
    {rest : List String} (h : d.follow here (part :: rest) = .ok place) :
    d.entryAt? here = some .directory := by
  by_cases hhere : d.entryAt? here = some .directory
  · exact hhere
  · obtain ⟨cause, _, hlost⟩ := follow_cons_of_ne_directory hhere
    cases h.symm.trans (hlost part rest)

/-- A path is followed in two halves, the second from where the first leads. -/
theorem follow_append (d : Disk) (here : Location) (first second : List String) :
    d.follow here (first ++ second) =
      (d.follow here first).bind fun place => d.follow place second := by
  induction first generalizing here with
  | nil => rfl
  | cons part first ih =>
      rw [List.cons_append]
      by_cases hhere : d.entryAt? here = some .directory
      · rw [follow_cons_of_directory _ _ hhere, follow_cons_of_directory _ _ hhere]
        cases next here part with
        | error cause => rfl
        | ok there => exact ih there
      · obtain ⟨cause, _, hlost⟩ := follow_cons_of_ne_directory hhere
        rw [hlost, hlost]
        rfl

theorem next_ne_zeroInPath (here : Location) (part : String) :
    next here part ≠ .error .zeroInPath := by
  unfold next
  split
  · exact nofun
  · split
    · exact nofun
    · split <;> exact nofun

/-- That a path holds a zero is found before the path is followed. -/
theorem follow_ne_zeroInPath (d : Disk) (here : Location) (parts : List String) :
    d.follow here parts ≠ .error .zeroInPath := by
  induction parts generalizing here with
  | nil => exact nofun
  | cons part rest ih =>
      by_cases hhere : d.entryAt? here = some .directory
      · rw [follow_cons_of_directory part rest hhere]
        cases hnext : next here part with
        | error cause => exact fun h => next_ne_zeroInPath here part (hnext.trans h)
        | ok there => exact ih there
      · obtain ⟨cause, hcause, hlost⟩ := follow_cons_of_ne_directory hhere
        rw [hlost]
        exact fun h => hcause (Except.error.inj h)

/-- What comes behind a directory, with or without a slash at its end, is followed from there. -/
theorem follow_behind {d : Disk} {here place : Location} {above parts : List String}
    (rest : List String) (hparts : parts = above ∨ parts = above ++ [""])
    (h : d.follow here parts = .ok place) :
    d.follow here (above ++ rest) = d.follow place rest := by
  rw [follow_append]
  rcases hparts with rfl | rfl
  · rw [h]
    rfl
  · rw [follow_append] at h
    cases habove : d.follow here above with
    | error cause => rw [habove] at h; cases h
    | ok other =>
        rw [habove] at h
        have hother := directory_of_follow_cons h
        simp only [Except.bind, follow, hother] at h
        cases h
        rfl

/-! ## Locating -/

/-- A path names a location if it is neither empty nor too long, holds no zero and can be
followed. -/
theorem locate_eq_ok_iff (d : Disk) (path : String) (place : Location) :
    d.locate path = .ok place ↔ path ≠ "" ∧ '\x00' ∉ path.toList ∧
      path.utf8ByteSize ≤ maxPathSize ∧
      d.follow (if Path.isAbsolute path then [] else d.current) (Path.parts path) = .ok place := by
  unfold locate
  split
  next hempty => simp [show path = "" by simpa using hempty]
  next hempty =>
    have hne : path ≠ "" := by simpa using hempty
    split
    next hzero => simp [show '\x00' ∈ path.toList by simpa using hzero]
    next hzero =>
      have hnone : '\x00' ∉ path.toList := by simpa using hzero
      split
      next hsize => simp [Nat.not_le.mpr hsize]
      next hsize => simp [hne, hnone, Nat.not_lt.mp hsize]

theorem locate_eq_ok {d : Disk} {path : String} {place : Location} (h : d.locate path = .ok place) :
    path ≠ "" ∧ '\x00' ∉ path.toList ∧
      d.follow (if Path.isAbsolute path then [] else d.current) (Path.parts path) = .ok place := by
  obtain ⟨hempty, hzero, _, hfollow⟩ := (locate_eq_ok_iff d path place).mp h
  exact ⟨hempty, hzero, hfollow⟩

/-- A path is refused for a zero in it exactly if it holds one. -/
theorem locate_eq_zeroInPath_iff (d : Disk) (path : String) :
    d.locate path = .error .zeroInPath ↔ '\x00' ∈ path.toList := by
  unfold locate
  split
  next hempty => simp [show path = "" by simpa using hempty]
  next =>
    split
    next hzero => simpa using hzero
    next hzero =>
      have hnone : '\x00' ∉ path.toList := by simpa using hzero
      simp only [hnone, iff_false]
      split
      · exact nofun
      · exact follow_ne_zeroInPath _ _ _

/-- A path is followed by its parts unless it is refused before, for a zero or its length. -/
theorem locate_of_plain {d : Disk} {path : String} {start : Location} {parts : List String}
    (hstart : (if Path.isAbsolute path then [] else d.current) = start)
    (hparts : Path.parts path = parts) :
    d.locate path = d.follow start parts ∨
      ∃ cause, d.locate path = .error cause ∧ (cause = .zeroInPath → '\x00' ∈ path.toList) := by
  unfold locate
  split
  · exact .inr ⟨_, rfl, nofun⟩
  · split
    next hzero => exact .inr ⟨_, rfl, fun _ => by simpa using hzero⟩
    next =>
      split
      · exact .inr ⟨_, rfl, nofun⟩
      · rw [hstart, hparts]
        exact .inl rfl

theorem locate_dot {d : Disk} {place : Location} (h : d.locate "." = .ok place) :
    place = d.current := by
  have hfollow : d.follow d.current ["."] = .ok place := (locate_eq_ok h).2.2
  have hcurrent := directory_of_follow_cons hfollow
  simp only [follow, hcurrent] at hfollow
  cases hfollow
  rfl

/-- A name in a directory is one step from the directory, unless the path as a whole is refused. -/
theorem locate_join {d : Disk} {directory name : String} {place : Location}
    (hname : '/' ∉ name.toList)
    (hdirectory : d.locate (if directory.isEmpty then "." else directory) = .ok place) :
    d.locate (Path.join directory name) = d.follow place [name] ∨
      ∃ cause, d.locate (Path.join directory name) = .error cause ∧
        (cause = .zeroInPath → '\x00' ∈ name.toList) := by
  have hrelative := Path.isAbsolute_of_notMem hname
  by_cases hempty : directory = ""
  · subst hempty
    cases locate_dot hdirectory
    rw [Path.join_empty hrelative]
    exact locate_of_plain (by simp [hrelative]) (Path.parts_of_notMem hname)
  · rw [if_neg (by simpa using hempty)] at hdirectory
    obtain ⟨above, hjoin, hparts⟩ := Path.parts_join hempty hrelative
    rw [Path.parts_of_notMem hname] at hjoin
    obtain ⟨_, hzero, hfollow⟩ := locate_eq_ok hdirectory
    rcases locate_of_plain (d := d) rfl hjoin with hplain | ⟨cause, hcause, hmem⟩
    · left
      rw [hplain, Path.isAbsolute_join hempty hrelative]
      exact follow_behind [name] hparts hfollow
    · refine .inr ⟨cause, hcause, ?_⟩
      intro hcausezero
      have hjoined := hmem hcausezero
      rcases Path.toList_join hempty hrelative with ⟨_, hchars⟩ | ⟨_, hchars⟩ <;>
        rw [hchars] at hjoined <;> simpa [hzero] using hjoined

/-- What a path behind a directory leads to is reached from where the directory is. -/
theorem locate_of_join {d : Disk} {directory name : String} {place : Location}
    (hname : Path.isAbsolute name = false) (h : d.locate (Path.join directory name) = .ok place) :
    ∃ here, d.locate (if directory.isEmpty then "." else directory) = .ok here ∧
      d.follow here (Path.parts name) = .ok place := by
  obtain ⟨first, rest, hfirst⟩ : ∃ first rest, Path.parts name = first :: rest :=
    List.exists_cons_of_ne_nil (mt List.map_eq_nil_iff.mp (Chars.splitOn_ne_nil _ _))
  obtain ⟨_, hzero, hsize, hfollow⟩ := (locate_eq_ok_iff d _ place).mp h
  by_cases hempty : directory = ""
  · subst hempty
    rw [Path.join_empty hname, hname] at hfollow
    have hcurrent : d.entryAt? d.current = some .directory := by
      rw [hfirst] at hfollow
      exact directory_of_follow_cons hfollow
    refine ⟨d.current, ?_, hfollow⟩
    rw [if_pos (by rfl), locate_eq_ok_iff]
    refine ⟨by decide, by decide, by decide, ?_⟩
    rw [show Path.parts "." = ["."] from rfl]
    exact follow_cons_of_directory "." [] hcurrent
  · obtain ⟨above, hjoin, hparts⟩ := Path.parts_join hempty hname
    rw [Path.isAbsolute_join hempty hname, hjoin, follow_append] at hfollow
    cases habove : d.follow (if Path.isAbsolute directory then [] else d.current) above with
    | error cause => rw [habove] at hfollow; cases hfollow
    | ok here =>
        rw [habove] at hfollow
        have hhere : d.entryAt? here = some .directory := by
          simp only [hfirst, Except.bind] at hfollow
          exact directory_of_follow_cons hfollow
        refine ⟨here, ?_, hfollow⟩
        rw [if_neg (by simpa using hempty), locate_eq_ok_iff]
        refine ⟨hempty, ?_, ?_, ?_⟩
        · rcases Path.toList_join hempty hname with ⟨_, hchars⟩ | ⟨_, hchars⟩
          · exact fun hmem => hzero (hchars ▸ List.mem_append_left _ hmem)
          · exact fun hmem => hzero (hchars ▸ List.mem_append_left _ hmem)
        · exact Nat.le_trans (Path.size_le_join hname) hsize
        · rcases hparts with hparts | hparts
          · rw [hparts, habove]
          · rw [hparts, follow_append, habove]
            exact follow_cons_of_directory "" [] hhere

/-- What can be written to is named by the path and is no directory. -/
theorem locateForWriting_ok {d : Disk} {path : String} {place : Location}
    (h : d.locateForWriting path = .ok place) :
    d.locate path = .ok place ∧ d.entryAt? place ≠ some .directory := by
  unfold locateForWriting at h
  cases hlocate : d.locate (Path.withoutEndSlashes path) with
  | error cause => rw [hlocate] at h; cases h
  | ok other =>
      rw [hlocate] at h
      simp only [Bind.bind, Except.bind] at h
      split at h
      · cases h
      next hend =>
        rw [Path.withoutEndSlashes_of_no_slash (by simpa using hend)] at hlocate
        split at h
        · cases h
        next hentry =>
          cases h
          exact ⟨hlocate, hentry⟩

/-- A path that names a file ends without a slash, as only directories are named with one. -/
theorem endsWithSlash_of_file {d : Disk} {path : String} {place : Location} {file : File}
    (hlocate : d.locate path = .ok place) (hfile : d.entryAt? place = some (.file file)) :
    Path.endsWithSlash path = false := by
  cases hend : Path.endsWithSlash path with
  | false => rfl
  | true =>
      exfalso
      obtain ⟨before, hbefore⟩ := List.getLast?_eq_some_iff.mp (beq_iff_eq.mp hend)
      have hparts : Path.parts path = Path.parts (String.ofList before) ++ [""] := by
        unfold Path.parts
        rw [hbefore, Chars.splitOn_append_separator, List.map_append, String.toList_ofList]
        rfl
      obtain ⟨_, _, hfollow⟩ := locate_eq_ok hlocate
      rw [hparts, follow_append] at hfollow
      cases habove : d.follow (if Path.isAbsolute path then [] else d.current)
          (Path.parts (String.ofList before)) with
      | error cause => rw [habove] at hfollow; cases hfollow
      | ok above =>
          rw [habove] at hfollow
          -- The empty part leads nowhere else, and nothing but a directory has parts below it.
          have hstands := directory_of_follow_cons hfollow
          have hsame := follow_cons_of_directory "" [] hstands
          cases hsame.symm.trans hfollow
          cases hstands.symm.trans hfile

theorem locateForWriting_of_file {d : Disk} {path : String} {place : Location} {file : File}
    (hlocate : d.locate path = .ok place) (hfile : d.entryAt? place = some (.file file)) :
    d.locateForWriting path = .ok place := by
  have hend := endsWithSlash_of_file hlocate hfile
  unfold locateForWriting
  rw [Path.withoutEndSlashes_of_no_slash hend, hlocate, hend]
  simp only [Bind.bind, Except.bind, Bool.false_eq_true, if_false, hfile]

/-- Writing is refused for a zero in the path exactly if it holds one. -/
theorem locateForWriting_eq_zeroInPath_iff (d : Disk) (path : String) :
    d.locateForWriting path = .error .zeroInPath ↔ '\x00' ∈ path.toList := by
  rw [← Path.mem_withoutEndSlashes (by decide) path, ← locate_eq_zeroInPath_iff d]
  unfold locateForWriting
  cases d.locate (Path.withoutEndSlashes path) with
  | error cause => exact Iff.rfl
  | ok place =>
      refine iff_of_false ?_ nofun
      simp only [bind, Except.bind]
      split
      next => exact nofun
      next => split <;> exact nofun

/-! ## Sound disks -/

/-- Whatever stands on the disk stands in a directory. -/
def Sound (d : Disk) : Prop :=
  ∀ place entry, d.entryAt? place = some entry → d.entryAt? place.dropLast = some .directory

theorem lookup_cons (place other : Location) (entry : DiskEntry)
    (entries : List (Location × DiskEntry)) :
    List.lookup other ((place, entry) :: entries) =
      if other = place then some entry else entries.lookup other := by
  by_cases h : other = place
  · simp [h]
  · rw [List.lookup_cons, beq_eq_false_iff_ne.mpr h, if_neg h]

theorem mem_of_lookup {place : Location} {entry : DiskEntry}
    {entries : List (Location × DiskEntry)} (hentry : entries.lookup place = some entry) :
    (place, entry) ∈ entries := by
  induction entries with
  | nil => cases hentry
  | cons first rest ih =>
      obtain ⟨other, content⟩ := first
      rw [lookup_cons] at hentry
      split at hentry
      next hsame =>
        cases hentry
        rw [hsame]
        exact List.mem_cons_self
      next => exact List.mem_cons_of_mem _ (ih hentry)

theorem exists_lookup {other : Location} {content : DiskEntry}
    {entries : List (Location × DiskEntry)} (hmem : (other, content) ∈ entries) :
    ∃ found, entries.lookup other = some found := by
  induction entries with
  | nil => cases hmem
  | cons entry rest ih =>
      obtain ⟨first, found⟩ := entry
      rw [lookup_cons]
      by_cases h : other = first
      · exact ⟨found, if_pos h⟩
      · rw [if_neg h]
        rcases List.mem_cons.mp hmem with heq | hmem
        · exact absurd (congrArg Prod.fst heq) h
        · exact ih hmem

theorem sound_of_entries {d : Disk}
    (h : ∀ entry ∈ d.entries, d.entryAt? entry.1.dropLast = some .directory) : d.Sound := by
  intro place entry hentry
  cases place with
  | nil => rfl
  | cons name rest => exact h _ (mem_of_lookup hentry)

structure IsName (name : String) : Prop where
  slash : '/' ∉ name.toList
  zero : '\x00' ∉ name.toList
  filled : name ≠ ""
  here : name ≠ "."
  above : name ≠ ".."

/-- A part stays, goes up, or is the name of what it leads to. -/
theorem next_cases {here there : Location} {part : String} (h : next here part = .ok there) :
    there = here ∨ there = here.dropLast ∨
      (there = here ++ [part] ∧ part ≠ "" ∧ part ≠ "." ∧ part ≠ "..") := by
  unfold next at h
  split at h
  next =>
    cases h
    exact .inl rfl
  next hdot =>
    split at h
    next =>
      cases h
      exact .inr (.inl rfl)
    next habove =>
      split at h
      next => cases h
      next =>
        cases h
        simp only [Bool.or_eq_true, not_or] at hdot
        exact .inr (.inr ⟨rfl, by simpa using hdot.1, by simpa using hdot.2, by simpa using habove⟩)

/-- A name leads to an entry of the directory unless it is too long. -/
theorem next_isName (here : Location) {name : String} (hname : IsName name) :
    next here name = .error .nameTooLong ∨ next here name = .ok (here ++ [name]) := by
  have hdot : (name.isEmpty || name == ".") = false := by simp [hname.filled, hname.here]
  have habove : (name == "..") = false := beq_eq_false_iff_ne.mpr hname.above
  unfold next
  rw [hdot, habove]
  simp only [Bool.false_eq_true, if_false]
  split
  · exact .inl rfl
  · exact .inr rfl

theorem follow_isName {d : Disk} {here place : Location} {name : String} (hname : IsName name)
    (h : d.follow here [name] = .ok place) : place = here ++ [name] := by
  rw [follow_cons_of_directory name [] (directory_of_follow_cons h)] at h
  rcases next_isName here hname with hnext | hnext <;> rw [hnext] at h <;> cases h
  rfl

/-- Parts that lead to no directory end with the name of what they lead to. -/
theorem follow_name {d : Disk} (hsound : d.Sound) {here place : Location} {parts : List String}
    (hparts : ∀ part ∈ parts, '/' ∉ part.toList ∧ '\x00' ∉ part.toList)
    (h : d.follow here parts = .ok place) (hplace : d.entryAt? place ≠ some .directory) :
    (parts = [] ∧ place = here) ∨ ∃ directory name, place = directory ++ [name] ∧ IsName name ∧
      d.entryAt? directory = some .directory := by
  induction parts generalizing here with
  | nil =>
      cases h
      exact .inl ⟨rfl, rfl⟩
  | cons part rest ih =>
      have hhere := directory_of_follow_cons h
      obtain ⟨⟨hslash, hzero⟩, hrest⟩ := List.forall_mem_cons.mp hparts
      rw [follow_cons_of_directory part rest hhere] at h
      cases hnext : next here part with
      | error cause => rw [hnext] at h; cases h
      | ok there =>
          rw [hnext] at h
          right
          -- Unless a later part names the location, this part leads to it and is its name.
          rcases ih hrest h with ⟨_, rfl⟩ | hname
          · rcases next_cases hnext with rfl | rfl | ⟨rfl, hfilled, hdot, habove⟩
            · exact absurd hhere hplace
            · exact absurd (hsound _ _ hhere) hplace
            · exact ⟨here, part, rfl, ⟨hslash, hzero, hfilled, hdot, habove⟩, hhere⟩
          · exact hname

/-- What is no directory goes by a name in a directory that is there. -/
theorem locate_name {d : Disk} (hsound : d.Sound) {path : String} {place : Location}
    (h : d.locate path = .ok place) (hplace : d.entryAt? place ≠ some .directory) :
    ∃ directory name, place = directory ++ [name] ∧ IsName name ∧
      d.entryAt? directory = some .directory := by
  obtain ⟨_, hzero, hfollow⟩ := locate_eq_ok h
  have hparts : ∀ part ∈ Path.parts path, '/' ∉ part.toList ∧ '\x00' ∉ part.toList := by
    intro part hpart
    obtain ⟨hslash, hsubset⟩ := Path.mem_parts hpart
    exact ⟨hslash, fun hmem => hzero (hsubset _ hmem)⟩
  rcases follow_name hsound hparts hfollow hplace with ⟨hnil, _⟩ | hname
  · exact absurd (List.map_eq_nil_iff.mp hnil) (Chars.splitOn_ne_nil _ _)
  · exact hname

end Disk

end Clickpath
