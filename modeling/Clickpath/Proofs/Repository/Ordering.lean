import Clickpath.Proofs.Repository.Entries
import Clickpath.Proofs.Repository.Keeping
import Clickpath.Proofs.Repository.Saving

/-! # The order of listings

In which order stored tests are listed, and when they are not listed at all: creation times with and
without an offset have no order, and one test of the other sort is enough to end every listing.
-/

namespace Clickpath.Repository

variable {τ : Type}

/-- The creation times of all tests know their offset, or none does. -/
def OneSort (tests : List (Test τ)) : Prop :=
  (∀ test ∈ tests, test.created.offset.isSome = true) ∨
    ∀ test ∈ tests, test.created.offset.isSome = false

/-- The tests from the newest to the oldest, those of one moment as they were stored. -/
structure Ordered (stored listed : List (Test τ)) : Prop where
  perm : listed.Perm stored
  newestFirst : listed.Pairwise fun a b => b.created.orderKey ≤ a.created.orderKey
  ties : ∀ key, listed.filter (·.created.orderKey == key) =
    stored.filter (·.created.orderKey == key)

/-- What a listing of stored tests comes to. -/
structure ListsInOrder (stored : List (Test τ)) (result : Except Fault (List (Test τ))) : Prop where
  listed : OneSort stored → ∃ listed, result = .ok listed ∧ Ordered stored listed
  refused : ¬OneSort stored → result = .error .noOrder

/-! ## Sorting -/

/-- The times of all tests can be compared exactly if they are of one sort. -/
theorem allComparable_iff (tests : List (Test τ)) :
    Test.allComparable tests = true ↔ OneSort tests := by
  cases tests with
  | nil => exact iff_of_true rfl (.inl (List.forall_mem_nil _))
  | cons test rest =>
      have hrest : Test.allComparable (test :: rest) = true ↔
          ∀ other ∈ rest, test.created.offset.isSome = other.created.offset.isSome := by
        simp [Test.allComparable, Moment.comparable]
      unfold OneSort
      rw [hrest, List.forall_mem_cons, List.forall_mem_cons]
      -- The sort of the first test is the one that all others must be of.
      cases test.created.offset.isSome with
      | true => simp
      | false => simp

/-- Sorting gives all tests, the newest first, and keeps those of one time in their order. -/
theorem newestFirst_ordered (tests : List (Test τ)) : Ordered tests (Test.newestFirst tests) := by
  have htrans : ∀ a b c : Test τ, decide (b.created.orderKey ≤ a.created.orderKey) = true →
      decide (c.created.orderKey ≤ b.created.orderKey) = true →
      decide (c.created.orderKey ≤ a.created.orderKey) = true := by
    intro a b c hab hbc
    simp only [decide_eq_true_eq] at hab hbc ⊢
    exact Int.le_trans hbc hab
  have htotal : ∀ a b : Test τ, (decide (b.created.orderKey ≤ a.created.orderKey) ||
      decide (a.created.orderKey ≤ b.created.orderKey)) = true := by
    intro a b
    simpa using Int.le_total b.created.orderKey a.created.orderKey
  have hperm : (Test.newestFirst tests).Perm tests := List.mergeSort_perm _ _
  refine ⟨hperm, ?_, fun key => ?_⟩
  · exact (List.pairwise_mergeSort htrans htotal tests).imp of_decide_eq_true
  · -- The tests of one moment are in order as they are, so that sorting leaves them so.
    have hties : (tests.filter (·.created.orderKey == key)).Pairwise fun a b =>
        decide (b.created.orderKey ≤ a.created.orderKey) = true := by
      refine List.pairwise_of_forall_mem_list fun a ha b hb => ?_
      have ha := (List.mem_filter.mp ha).2
      have hb := (List.mem_filter.mp hb).2
      simp only [beq_iff_eq] at ha hb
      simp [ha, hb]
    have hsub := (List.sublist_mergeSort htrans htotal hties List.filter_sublist).filter
      (·.created.orderKey == key)
    rw [List.filter_filter] at hsub
    simp only [Bool.and_self] at hsub
    exact (hsub.eq_of_length (hperm.filter _).length_eq.symm).symm

/-- A listing gives all tests in order, unless their times are of two sorts. -/
theorem inOrder_lists (tests : List (Test τ)) : ListsInOrder tests (inOrder tests) := by
  unfold inOrder
  constructor
  · intro hsort
    rw [if_pos ((allComparable_iff tests).mpr hsort)]
    exact ⟨_, rfl, newestFirst_ordered tests⟩
  · intro hsort
    rw [if_neg (mt (allComparable_iff tests).mp hsort)]

/-! ## Listings -/

variable [Textual τ] [DecidableEq τ]

theorem Directory.list_of_scan {r : Directory} {disk : Disk} {supply : Supply}
    {tests : List (Found τ)} (h : (r.scan disk supply).result = .ok tests) :
    (r.list disk supply).result = inOrder (tests.map (·.test)) := by
  simp only [Directory.list, Reply.andThen, h, Except.bind]

omit [DecidableEq τ] in
theorem Backend.list_of_entries {b : Backend} {web : Web} {supply : Supply}
    {entries : List Datum} (h : b.entriesIn (web.respond ⟨b.listUrl, b.timeout⟩) = .ok entries) :
    (b.list (τ := τ) web supply).1.result =
      (readEntries [] [] entries supply).result.bind inOrder := by
  unfold Backend.list Web.fetch
  simp only [h, Reply.andThen]

omit [Textual τ] in
theorem Memory.list_lists (saved : List (Test τ)) :
    ∃ stored, Kept saved stored ∧ ListsInOrder stored (saved.foldl Memory.save .empty).list :=
  ⟨_, Memory.kept_of_empty saved, inOrder_lists _⟩

/-- A directory all of whose files can be loaded lists what is kept of them, in order. -/
theorem Directory.list_lists {r : Directory} {disk : Disk} {supply : Supply}
    (hload : ∀ path ∈ r.files disk, ∃ test : Test τ,
      (loadFile r.format disk path supply).1 = .ok test) :
    ∃ loaded stored : List (Test τ),
      List.Forall₂ (LoadedFrom r.format disk supply.millisAt) (r.files disk) loaded ∧
        Kept loaded stored ∧ ListsInOrder stored (r.list disk supply).result := by
  have hok : ∀ path ∈ r.files disk, ∃ id : τ, idIn r.format disk path = .ok id := by
    intro path hpath
    obtain ⟨test, htest⟩ := hload path hpath
    exact ⟨test.id, by rw [idIn_eq (τ := τ) r.format disk path supply, htest]; rfl⟩
  have hpassable : ∀ path ∈ r.files disk, Passable (τ := τ) r.format disk path := by
    intro path hpath fault hfault
    obtain ⟨id, hid⟩ := hok path hpath
    cases hid.symm.trans hfault
  obtain ⟨tests, hscan⟩ := Directory.scanFiles_total [] [] supply hpassable
  obtain ⟨loaded, hloaded, hkept⟩ := Directory.scan_kept hscan
  rw [List.filter_eq_self.mpr] at hloaded
  · refine ⟨loaded, _, hloaded, hkept, ?_⟩
    rw [Directory.list_of_scan hscan]
    exact inOrder_lists _
  · intro path hpath
    obtain ⟨id, hid⟩ := hok path hpath
    rw [hid]
    rfl

omit [DecidableEq τ] in
/-- A backend all of whose entries can be converted lists their tests, in order. -/
theorem Backend.list_lists {b : Backend} {web : Web} {supply : Supply} {entries : List Datum}
    (hentries : b.entriesIn (web.respond ⟨b.listUrl, b.timeout⟩) = .ok entries)
    (hconverts : ∀ item ∈ entries, Backend.converts (τ := τ) item = true) :
    ∃ stored : List (Test τ), List.Forall₂ (Backend.ReadAs supply) entries stored ∧
      ListsInOrder stored (b.list web supply).1.result := by
  obtain ⟨stored, hstored⟩ := Backend.readEntries_total [] [] supply fun item hitem =>
    Backend.passable_of_converts (hconverts item hitem)
  obtain ⟨_, _, rfl, hread⟩ := Backend.readEntries_ok hstored
  rw [List.filter_eq_self.mpr hconverts] at hread
  refine ⟨stored, hread, ?_⟩
  rw [Backend.list_of_entries hentries, hstored]
  exact inOrder_lists _

/-- Every repository of tests that can all be read lists each of them once, in order, if they are of
one sort, and nothing at all if they are not. -/
theorem list_inOrder (saved : List (Test τ)) (r : Directory) (disk : Disk) (b : Backend) (web : Web)
    (supply : Supply) (entries : List Datum) :
    (∃ stored, Kept saved stored ∧ ListsInOrder stored (saved.foldl Memory.save .empty).list) ∧
      ((∀ path ∈ r.files disk, ∃ test : Test τ, (loadFile r.format disk path supply).1 = .ok test) →
        ∃ loaded stored : List (Test τ),
          List.Forall₂ (LoadedFrom r.format disk supply.millisAt) (r.files disk) loaded ∧
            Kept loaded stored ∧ ListsInOrder stored (r.list disk supply).result) ∧
      (b.entriesIn (web.respond ⟨b.listUrl, b.timeout⟩) = .ok entries →
        (∀ item ∈ entries, Backend.converts (τ := τ) item = true) →
        ∃ stored : List (Test τ), List.Forall₂ (Backend.ReadAs supply) entries stored ∧
          ListsInOrder stored (b.list web supply).1.result) :=
  ⟨Memory.list_lists saved, Directory.list_lists, Backend.list_lists⟩

/-- A test whose creation time knows no offset. -/
def undated : Test :=
  ⟨"old", "n", [], "playwright", "javascript", ⟨2020, 1, 1, 0, 0, 0, 0, none, by decide⟩⟩

/-- A listing of one test, of which it gives the name alone. -/
def shortListing : List Char := "[\x7b\x22name\x22:\x22n\x22\x7d]".toList

def oneEntry : Web := ⟨fun _ => .answer 200 (Utf8.encode shortListing), []⟩

def designer : Backend := ⟨"http://localhost:5000", Backend.defaultTimeout⟩

theorem decode_shortListing : Utf8.decode (Utf8.encode shortListing) = .ok shortListing := by
  decide

theorem read_shortListing :
    (match Json.read (glyphsOf shortListing) with
      | .ok (.list [.map [(.text key, .text value)]]) => [key, value] == ["name", "n"]
      | _ => false) = true := by
  decide +kernel

theorem entriesIn_oneEntry (request : WebRequest) :
    designer.entriesIn (oneEntry.respond request) = .ok [.map [(.text "name", .text "n")]] := by
  have hread := read_shortListing
  split at hread
  next key value hwhole =>
    simp only [beq_iff_eq, List.cons.injEq] at hread
    obtain ⟨rfl, rfl, _⟩ := hread
    simp [Backend.entriesIn, Backend.dataIn, Backend.dataOf, oneEntry, decode_shortListing, hwhole,
      mapError_ok, Bind.bind, Except.bind]
  next => cases hread

theorem loads_misnamed : ∀ path ∈ Directory.yamlTests.files Directory.misnamed, ∃ test,
    (loadFile Directory.yamlTests.format Directory.misnamed path (.still 0)).1 = .ok test := by
  have hok : ∀ path ∈ ["tests/kept.yaml", "tests/login.yaml"],
      (loadFile .yaml Directory.misnamed path (.still 0)).1.isOk = true := by decide +kernel
  intro path hpath
  rw [Directory.files_misnamed] at hpath
  have hpath := hok path hpath
  cases hload : (loadFile .yaml Directory.misnamed path (.still 0)).1 with
  | ok test => exact ⟨test, hload⟩
  | error fault =>
      rw [hload] at hpath
      cases hpath

/-- A test without an offset beside one with an offset, and neither is listed; the tests of a
directory and of a backend that are of one sort are. -/
theorem list_inOrder_mixedSorts :
    ([undated, Directory.login].foldl Memory.save .empty).list = .error .noOrder ∧
      (∃ loaded stored, loaded.length = 2 ∧ Kept loaded stored ∧
        ListsInOrder stored (Directory.yamlTests.list Directory.misnamed (.still 0)).result) ∧
      ∃ stored, stored.length = 1 ∧
        ListsInOrder stored (designer.list oneEntry (.still 0)).1.result := by
  obtain ⟨⟨stored, hkept, hlists⟩, hdirectory, hbackend⟩ := list_inOrder
    [undated, Directory.login] Directory.yamlTests Directory.misnamed designer oneEntry (.still 0)
    [.map [(.text "name", .text "n")]]
  refine ⟨?_, ?_, ?_⟩
  · have hundated : undated ∈ stored := List.mem_of_find?_eq_some (hkept.last "old")
    have hlogin : Directory.login ∈ stored := List.mem_of_find?_eq_some (hkept.last "login")
    refine hlists.refused ?_
    rintro (hsome | hnone)
    · exact absurd (hsome undated hundated) (by decide)
    · exact absurd (hnone Directory.login hlogin) (by decide)
  · obtain ⟨loaded, stored, hloaded, hkept, hlists⟩ := hdirectory loads_misnamed
    refine ⟨loaded, stored, ?_, hkept, hlists⟩
    rw [← hloaded.length_eq, Directory.files_misnamed]
    rfl
  · obtain ⟨stored, hread, hlists⟩ := hbackend (entriesIn_oneEntry _) (by decide)
    exact ⟨stored, hread.length_eq.symm, hlists⟩

end Clickpath.Repository
