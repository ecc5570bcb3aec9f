import Mathlib.Data.List.Nodup
import Mathlib.Data.Nat.Find
import Clickpath.Proofs.Disk.Following
import Clickpath.Screenshot

/-! # Naming screenshots

The names that are tried for a screenshot differ in a number at the end. They lead to different
places, so a disk holds no more of them than it has entries, and the search for a name that is free
comes to its end. Behind labels without dashes and slashes a name tells for which label, reading of
the clock and number it was made.
-/

namespace Clickpath

/-! ## Numbered endings -/

namespace Screenshot

/-- What comes behind a stem. -/
def ending (number : Nat) : String :=
  (if number = 0 then "" else "-" ++ toString number) ++ ".png"

theorem toList_ending (number : Nat) :
    (ending number).toList =
      (if number = 0 then [] else '-' :: number.repr.toList) ++ ['.', 'p', 'n', 'g'] := by
  unfold ending
  split <;> simp [Nat.toString_eq_repr]

/-- No two numbers make the same ending. -/
theorem ending_injective : Function.Injective ending := by
  intro number other h
  have hchars := congrArg String.toList h
  rw [toList_ending, toList_ending] at hchars
  have hnumber := List.append_cancel_right hchars
  by_cases hfirst : number = 0
  · by_cases hsecond : other = 0
    · rw [hfirst, hsecond]
    · simp [hfirst, hsecond] at hnumber
  · by_cases hsecond : other = 0
    · simp [hfirst, hsecond] at hnumber
    · rw [if_neg hfirst, if_neg hsecond] at hnumber
      rw [← Chars.decimalNumber_repr number, (List.cons.inj hnumber).2, Chars.decimalNumber_repr]

/-- An ending adds no directory to a name. -/
theorem slash_notMem_ending (number : Nat) : '/' ∉ (ending number).toList := by
  have hdigits := List.all_eq_true.mp (Chars.all_isAsciiDigit_repr number)
  rw [toList_ending]
  intro hmem
  rcases List.mem_append.mp hmem with hmem | hmem
  · split at hmem
    · cases hmem
    · rcases List.mem_cons.mp hmem with hdash | hmem
      · exact absurd hdash (by decide)
      · exact absurd (hdigits _ hmem) (by decide)
  · exact absurd hmem (by decide)

/-- Every name that is tried is what the first part of all of them makes with an ending. -/
theorem candidate_eq (directory : String) {stem : String} (hstem : stem ≠ "") (number : Nat) :
    candidate directory stem number = Path.join directory stem ++ ending number := by
  have habsolute : Path.isAbsolute (stem ++ ending number) = Path.isAbsolute stem := by
    unfold Path.isAbsolute
    rw [String.toList_append]
    cases hchars : stem.toList with
    | nil => exact absurd (String.toList_eq_nil_iff.mp hchars) hstem
    | cons c rest => rfl
  unfold candidate Path.join
  rw [String.append_assoc, ← ending, habsolute]
  split
  · rfl
  · split
    · rw [String.append_assoc]
    · rw [String.append_assoc, String.append_assoc, String.append_assoc]

theorem candidate_injective (directory : String) {stem : String} (hstem : stem ≠ "") :
    Function.Injective (candidate directory stem) := by
  intro number other h
  rw [candidate_eq directory hstem, candidate_eq directory hstem] at h
  have hchars := congrArg String.toList h
  rw [String.toList_append, String.toList_append] at hchars
  exact ending_injective (String.toList_inj.mp (List.append_cancel_left hchars))

end Screenshot

/-! ## Places -/

namespace Disk

/-- A path with an ending of some length leads to a place that is named with this ending. -/
theorem getLast?_of_locate {d : Disk} {path ending : String} {place : Location}
    (hslash : '/' ∉ ending.toList) (hlong : 2 < ending.toList.length)
    (h : d.locate (path ++ ending) = .ok place) :
    ∃ front last, Chars.splitOn '/' path.toList = front ++ [last] ∧
      place.getLast? = some (String.ofList (last ++ ending.toList)) := by
  obtain ⟨_, hzero, hfollow⟩ := locate_eq_ok h
  obtain ⟨front, last, hpath, hwhole⟩ := Chars.splitOn_append hslash path.toList
  refine ⟨front, last, hpath, ?_⟩
  rw [← String.toList_append] at hwhole
  have hparts : Path.parts (path ++ ending) =
      front.map String.ofList ++ [String.ofList (last ++ ending.toList)] := by
    rw [Path.parts, hwhole, List.map_append, List.map_singleton]
  have hpart : String.ofList (last ++ ending.toList) ∈ Path.parts (path ++ ending) := by
    rw [hparts]
    exact List.mem_append_right _ List.mem_cons_self
  obtain ⟨hnoSlash, hsubset⟩ := Path.mem_parts hpart
  have hlength : 2 < (String.ofList (last ++ ending.toList)).toList.length := by
    rw [String.toList_ofList, List.length_append]
    omega
  have hname : IsName (String.ofList (last ++ ending.toList)) := by
    refine ⟨hnoSlash, fun hmem => hzero (hsubset _ hmem), ?_, ?_, ?_⟩ <;> intro heq <;>
      rw [heq] at hlength <;> exact absurd hlength (by decide)
  rw [hparts, follow_append] at hfollow
  cases habove : d.follow (if Path.isAbsolute (path ++ ending) then [] else d.current)
      (front.map String.ofList) with
  | error cause => rw [habove] at hfollow; cases hfollow
  | ok above =>
      rw [habove] at hfollow
      rw [follow_isName hname hfollow, List.getLast?_concat]

end Disk

namespace Screenshot

/-- Names with different numbers lead to different places. -/
theorem number_of_locate {d : Disk} {path : String} {number other : Nat} {place : Location}
    (hnumber : d.locate (path ++ ending number) = .ok place)
    (hother : d.locate (path ++ ending other) = .ok place) : number = other := by
  have hlong : ∀ number, 2 < (ending number).toList.length := by
    intro number
    simp [toList_ending]
  obtain ⟨front, last, hpath, hlast⟩ :=
    Disk.getLast?_of_locate (slash_notMem_ending number) (hlong number) hnumber
  obtain ⟨front', last', hpath', hlast'⟩ :=
    Disk.getLast?_of_locate (slash_notMem_ending other) (hlong other) hother
  obtain ⟨rfl, hsame⟩ := List.append_inj' (hpath.symm.trans hpath') rfl
  cases hsame
  have hchars := String.ofList_injective (Option.some.inj (hlast.symm.trans hlast'))
  exact ending_injective (String.toList_inj.mp (List.append_cancel_left hchars))

/-- A name that is taken on the disk leads to the place of an entry. -/
theorem locate_of_holds {disk : Disk} {directory stem : String} {number : Nat} (hstem : stem ≠ "")
    (h : disk.holds (candidate directory stem number) = true) :
    ∃ entry ∈ disk.entries, disk.locate (candidate directory stem number) = .ok entry.1 := by
  unfold Disk.holds Disk.find? at h
  cases hlocate : disk.locate (candidate directory stem number) with
  | error cause => simp [hlocate] at h
  | ok place =>
      simp only [hlocate, Disk.entryAt?] at h
      rw [candidate_eq directory hstem] at hlocate
      obtain ⟨_, _, _, hlast⟩ := Disk.getLast?_of_locate (slash_notMem_ending number)
        (by simp [toList_ending]) hlocate
      have hfilled : place.isEmpty = false := by
        cases place with
        | nil => cases hlast
        | cons _ _ => rfl
      rw [hfilled, if_neg Bool.false_ne_true] at h
      obtain ⟨entry, hentry⟩ := Option.isSome_iff_exists.mp h
      exact ⟨_, Disk.mem_of_lookup hentry, rfl⟩

/-- Among the first names there is one that is neither remembered nor on the disk. -/
theorem exists_free (disk : Disk) (names : List String) (directory : String) {stem : String}
    (hstem : stem ≠ "") :
    ∃ number ≤ names.length + disk.entries.length, candidate directory stem number ∉ names ∧
      disk.holds (candidate directory stem number) = false := by
  by_contra hnone
  push Not at hnone
  let numbers := List.range (names.length + disk.entries.length + 1)
  -- The numbers are told apart by their names, if these are remembered, and by their places if not.
  have hremembered :
      (numbers.filter (candidate directory stem · ∈ names)).length ≤ names.length := by
    rw [← List.length_map (candidate directory stem)]
    apply List.Nodup.length_le_of_subset
    · exact (List.nodup_range.filter _).map (candidate_injective directory hstem)
    · intro name hname
      obtain ⟨number, hnumber, rfl⟩ := List.mem_map.mp hname
      simpa using (List.mem_filter.mp hnumber).2
  have hplaced : ∀ number ∈ numbers.filter (candidate directory stem · ∉ names),
      ∃ entry ∈ disk.entries, disk.locate (candidate directory stem number) = .ok entry.1 := by
    intro number hnumber
    obtain ⟨hrange, hfresh⟩ := List.mem_filter.mp hnumber
    have hbound := Nat.lt_succ_iff.mp (List.mem_range.mp hrange)
    have hheld := hnone number hbound (by simpa using hfresh)
    exact locate_of_holds hstem (by simpa using hheld)
  have hheld : (numbers.filter (candidate directory stem · ∉ names)).length ≤
      disk.entries.length := by
    rw [← List.length_map fun number => disk.locate (candidate directory stem number),
      ← List.length_map fun entry : Location × DiskEntry => (.ok entry.1 : Except Disk.Cause _)]
    apply List.Nodup.length_le_of_subset
    · apply List.Nodup.map_on _ (List.nodup_range.filter _)
      intro number hnumber other hother hsame
      obtain ⟨entry, _, hplace⟩ := hplaced number hnumber
      rw [hplace] at hsame
      rw [candidate_eq directory hstem] at hplace hsame
      exact number_of_locate hplace hsame.symm
    · intro place hplace
      obtain ⟨number, hnumber, rfl⟩ := List.mem_map.mp hplace
      obtain ⟨entry, hentry, hlocate⟩ := hplaced number hnumber
      exact List.mem_map.mpr ⟨entry, hentry, hlocate.symm⟩
  have hall := List.length_eq_length_filter_add (l := numbers) (candidate directory stem · ∈ names)
  simp only [numbers, List.length_range] at hall hremembered hheld
  simp only [← decide_not] at hall
  omega

/-! ## Choosing -/

/-- The search stops at the first name that is not taken, if there is fuel for it. -/
theorem firstFree_eq {name : Nat → String} {taken : String → Bool} {fuel start number : Nat}
    (hstart : start ≤ number) (hfuel : number ≤ start + fuel)
    (htaken : ∀ earlier, start ≤ earlier → earlier < number → taken (name earlier) = true)
    (hfree : taken (name number) = false) : firstFree name taken fuel start = name number := by
  induction fuel generalizing start with
  | zero => rw [firstFree, Nat.le_antisymm hstart hfuel]
  | succ fuel ih =>
      rw [firstFree]
      by_cases hhere : start = number
      · rw [hhere, hfree, if_neg Bool.false_ne_true]
      · have hlater : start < number := Nat.lt_of_le_of_ne hstart hhere
        rw [if_pos (htaken start (Nat.le_refl start) hlater)]
        apply ih hlater (by omega)
        intro earlier hearlier hbefore
        exact htaken earlier (Nat.le_of_succ_le hearlier) hbefore

/-- The first number with which a name is neither remembered nor on the disk. -/
structure Chosen (disk : Disk) (names : List String) (name : Nat → String)
    (number : Nat) : Prop where
  fresh : name number ∉ names
  absent : disk.holds (name number) = false
  least : ∀ earlier < number, name earlier ∈ names ∨ disk.holds (name earlier) = true

/-- What is remembered decides which name is chosen, in whatever order it is remembered. -/
theorem Chosen.of_mem_iff {disk : Disk} {names others : List String} {name : Nat → String}
    {number : Nat} (h : Chosen disk names name number)
    (hsame : ∀ text, text ∈ names ↔ text ∈ others) : Chosen disk others name number := by
  refine ⟨mt (hsame _).mpr h.fresh, h.absent, ?_⟩
  intro earlier hearlier
  exact (h.least earlier hearlier).imp_left (hsame _).mp

/-- A capture that has read the clock: what its name begins with, and the reading. -/
structure Request where
  label : String
  millis : Int
  deriving DecidableEq

def Request.name (directory : String) (request : Request) (number : Nat) : String :=
  candidate directory (request.label ++ "-" ++ toString request.millis) number

theorem Request.stem_ne_empty (request : Request) :
    request.label ++ "-" ++ toString request.millis ≠ "" := by
  intro h
  simpa using congrArg String.toList h

/-- A request is given the first name that is free, and the registry remembers it. -/
theorem claim_chosen (r : NameRegistry) (disk : Disk) (directory : String) (request : Request) :
    ∃ number, Chosen disk (r.namesAt request.millis) (request.name directory) number ∧
      r.claim disk directory request.label request.millis =
        (request.name directory number, ⟨some request.millis,
          r.namesAt request.millis ++ [request.name directory number]⟩) := by
  obtain ⟨bound, hbound, hfree⟩ :=
    exists_free disk (r.namesAt request.millis) directory request.stem_ne_empty
  have hexists : ∃ number, request.name directory number ∉ r.namesAt request.millis ∧
    disk.holds (request.name directory number) = false := ⟨bound, hfree⟩
  have hchosen : Chosen disk (r.namesAt request.millis) (request.name directory)
      (Nat.find hexists) := by
    refine ⟨(Nat.find_spec hexists).1, (Nat.find_spec hexists).2, ?_⟩
    intro earlier hearlier
    have htaken := Nat.find_min hexists hearlier
    by_cases hmem : request.name directory earlier ∈ r.namesAt request.millis
    · exact .inl hmem
    · exact .inr (by simpa [hmem] using htaken)
  refine ⟨_, hchosen, ?_⟩
  have hname : firstFree (request.name directory)
      (fun name => (r.namesAt request.millis).contains name || disk.holds name)
      ((r.namesAt request.millis).length + disk.entries.length) 0 =
        request.name directory (Nat.find hexists) := by
    apply firstFree_eq (Nat.zero_le _)
    · rw [Nat.zero_add]
      exact Nat.le_trans (Nat.find_min' hexists hfree) hbound
    · intro earlier _ hearlier
      simpa using hchosen.least earlier hearlier
    · simpa [hchosen.absent] using hchosen.fresh
  exact congrArg (fun name => (name, (⟨some request.millis,
    r.namesAt request.millis ++ [name]⟩ : NameRegistry))) hname

/-! ## Plain labels -/

/-- A label that a name can be split after. -/
structure IsPlain (label : String) : Prop where
  dash : '-' ∉ label.toList
  slash : '/' ∉ label.toList

/-- An ending starts with a dash or a dot. -/
theorem ending_eq_cons (number : Nat) :
    ∃ mark rest, (ending number).toList = mark :: rest ∧ Chars.isAsciiDigit mark = false := by
  rw [toList_ending]
  split
  · exact ⟨'.', _, rfl, by decide⟩
  · exact ⟨'-', _, rfl, by decide⟩

/-- A reading of the clock with an ending behind it tells both. -/
theorem millis_append_ending_inj {millis other : Int} {number numberOther : Nat}
    (h : (toString millis).toList ++ (ending number).toList =
      (toString other).toList ++ (ending numberOther).toList) :
    millis = other ∧ number = numberOther := by
  obtain ⟨mark, rest, hending, hmark⟩ := ending_eq_cons number
  obtain ⟨mark', rest', hending', hmark'⟩ := ending_eq_cons numberOther
  have hnumbers : (ending number).toList = (ending numberOther).toList → number = numberOther :=
    fun hsame => ending_injective (String.toList_inj.mp hsame)
  have hnatural : ∀ n : Nat, (toString (Int.ofNat n)).toList = n.repr.toList := fun _ => rfl
  have hnegative : ∀ n : Nat, (toString (Int.negSucc n)).toList = '-' :: (n + 1).repr.toList :=
    fun n => String.toList_append
  rw [hending, hending'] at h hnumbers
  -- A reading from before the epoch starts with a dash, and no other one does.
  cases millis with
  | ofNat n =>
      rw [hnatural] at h
      cases other with
      | ofNat m =>
          obtain ⟨rfl, hrest⟩ := Chars.repr_append_cons_inj hmark hmark' h
          exact ⟨rfl, hnumbers hrest⟩
      | negSucc m =>
          rw [hnegative] at h
          exact absurd h (Chars.repr_append_ne_cons n (by decide) _ _)
  | negSucc n =>
      rw [hnegative] at h
      cases other with
      | ofNat m => exact absurd h.symm (Chars.repr_append_ne_cons m (by decide) _ _)
      | negSucc m =>
          rw [hnegative] at h
          obtain ⟨hsame, hrest⟩ := Chars.repr_append_cons_inj hmark hmark' (List.cons.inj h).2
          obtain rfl := Nat.succ.inj hsame
          exact ⟨rfl, hnumbers hrest⟩

theorem slash_notMem_millis (millis : Int) : '/' ∉ (toString millis).toList := by
  have hdigits : ∀ n : Nat, '/' ∉ n.repr.toList := fun n hmem =>
    absurd (List.all_eq_true.mp (Chars.all_isAsciiDigit_repr n) _ hmem) (by decide)
  cases millis with
  | ofNat n => exact hdigits n
  | negSucc n =>
      have hchars : (toString (Int.negSucc n)).toList = '-' :: (n + 1).repr.toList :=
        String.toList_append
      rw [hchars, List.mem_cons, not_or]
      exact ⟨by decide, hdigits _⟩

/-- Names tell for what they were made. -/
theorem Request.name_inj {directory : String} {request other : Request} {number numberOther : Nat}
    (hplain : IsPlain request.label) (hother : IsPlain other.label)
    (h : request.name directory number = other.name directory numberOther) :
    request = other ∧ number = numberOther := by
  have hrelative : ∀ request : Request, IsPlain request.label →
      Path.isAbsolute (request.label ++ "-" ++ toString request.millis) = false := by
    intro request hlabel
    apply Path.isAbsolute_of_notMem
    simpa [hlabel.slash] using slash_notMem_millis request.millis
  have hdashes : ∀ label : String, IsPlain label → label.toList.all (· != '-') = true := by
    intro label hlabel
    rw [List.all_eq_true]
    intro c hc
    exact bne_iff_ne.mpr fun hdash => hlabel.dash (hdash ▸ hc)
  unfold Request.name at h
  rw [candidate_eq _ request.stem_ne_empty, candidate_eq _ other.stem_ne_empty,
    Path.join_eq (hrelative request hplain), Path.join_eq (hrelative other hother)] at h
  have hchars := congrArg String.toList h
  simp only [String.toList_append, List.append_assoc, List.append_cancel_left_eq] at hchars
  obtain ⟨hlabel, hrest⟩ := Chars.append_cons_inj (hdashes _ hplain) (hdashes _ hother)
    (by decide) (by decide) hchars
  obtain ⟨hmillis, hnumber⟩ := millis_append_ending_inj (List.cons.inj hrest).2
  refine ⟨?_, hnumber⟩
  rcases request with ⟨label, millis⟩
  rcases other with ⟨label', millis'⟩
  obtain rfl : label = label' := String.toList_inj.mp hlabel
  obtain rfl : millis = millis' := hmillis
  rfl

end Screenshot

end Clickpath
