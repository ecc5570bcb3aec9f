import Mathlib.Data.Nat.Count
import Mathlib.Logic.Relation
import Clickpath.Proofs.Screenshot.Naming

/-! # Sharing a registry

Captures that run at once share the registry of names. Each reads the clock first and is given a
name afterwards, so requests are served in another order than the clock was read in. The registry
forgets its names whenever the millisecond is another one than that of the request before. What it
gives out is distinct as long as no millisecond comes back, and which names come twice is told by
the requests.
-/

namespace Clickpath.Screenshot

/-! ## Steps of captures -/

/-- A request that was served, with the path that it was given. -/
structure Issue where
  request : Request
  path : String

/-- What captures into one directory share: the clock, the registry, the requests that wait for it,
and those that were served, the latest first. -/
structure Desk where
  supply : Supply
  registry : NameRegistry
  waiting : List Request
  issued : List Issue

namespace Desk

def opening (supply : Supply) : Desk := ⟨supply, .empty, [], []⟩

/-- A capture reads the clock. -/
def ask (desk : Desk) (label : String) : Desk :=
  let (millis, supply) := desk.supply.readClock
  { desk with supply := supply, waiting := ⟨label, millis⟩ :: desk.waiting }

/-- A request is given a path. -/
def serve (disk : Disk) (directory : String) (desk : Desk) (request : Request) : Desk :=
  let (path, registry) := desk.registry.claim disk directory request.label request.millis
  { desk with
    registry := registry
    waiting := desk.waiting.erase request
    issued := ⟨request, path⟩ :: desk.issued }

/-- What one of the captures does next. Between its two steps others do any of theirs. -/
inductive Step (disk : Disk) (directory : String) : Desk → Desk → Prop
  | ask (desk : Desk) (label : String) : Step disk directory desk (desk.ask label)
  | serve (desk : Desk) {request : Request} (hwaiting : request ∈ desk.waiting) :
      Step disk directory desk (desk.serve disk directory request)

/-- Captures lead from one desk to another. -/
def Reaches (disk : Disk) (directory : String) : Desk → Desk → Prop :=
  Relation.ReflTransGen (Step disk directory)

/-- A capture that nobody interferes with makes its two steps in a row. -/
theorem pathFor_serves (g : Gallery) (directory label : String) {disk : Disk}
    (hdirectory : g.disk.ensureDirectory directory = (.ok (), disk)) (waiting : List Request)
    (issued : List Issue) :
    let desk : Desk := ⟨g.supply, g.registry, waiting, issued⟩
    let request : Request := ⟨label, g.supply.readClock.1⟩
    let served := (desk.ask label).serve disk directory request
    Reaches disk directory desk served ∧
      ∃ path, g.pathFor directory label none = (.ok path, ⟨disk, served.supply, served.registry⟩) ∧
        served.issued = ⟨request, path⟩ :: issued ∧ served.waiting = waiting := by
  refine ⟨?_, _, ?_, rfl, List.erase_cons_head _ _⟩
  · exact (Relation.ReflTransGen.single (.ask _ label)).tail (.serve _ List.mem_cons_self)
  · unfold Gallery.pathFor
    rw [hdirectory]
    rfl

end Desk

/-! ## What was issued -/

/-- The requests served last, as far back as they are from one millisecond. -/
def burst (millis : Int) (issued : List Issue) : List Issue :=
  issued.takeWhile (·.request.millis == millis)

theorem burst_cons (millis : Int) (issue : Issue) (earlier : List Issue) :
    burst millis (issue :: earlier) =
      if issue.request.millis = millis then issue :: burst millis earlier else [] := by
  simp [burst, List.takeWhile_cons]

theorem requests_burst (millis : Int) (issued : List Issue) :
    (burst millis issued).map (·.request) =
      (issued.map (·.request)).takeWhile (·.millis == millis) := by
  rw [List.takeWhile_map]
  rfl

/-- Every request was given the first name that was free: on the disk, and among those that were
given out before it at its millisecond. -/
inductive Ledger (disk : Disk) (directory : String) : List Issue → Prop
  | nil : Ledger disk directory []
  | cons {request : Request} {number : Nat} {earlier : List Issue}
      (hearlier : Ledger disk directory earlier)
      (hchosen : Chosen disk ((burst request.millis earlier).map (·.path))
        (request.name directory) number) :
      Ledger disk directory (⟨request, request.name directory number⟩ :: earlier)

/-- What is true of a desk at any time: its ledger is right, and the registry remembers what was
issued at the present millisecond. -/
structure Desk.Kept (disk : Disk) (directory : String) (desk : Desk) : Prop where
  ledger : Ledger disk directory desk.issued
  names : ∀ millis name, name ∈ desk.registry.namesAt millis ↔
    name ∈ (burst millis desk.issued).map (·.path)

namespace Desk

variable {disk : Disk} {directory : String}

theorem Kept.opening (supply : Supply) : Kept disk directory (.opening supply) := by
  refine ⟨.nil, ?_⟩
  intro millis name
  simp [Desk.opening, NameRegistry.empty, NameRegistry.namesAt, burst]

/-- What is true of a desk is true of it behind one more step of a capture. -/
theorem Kept.step {desk next : Desk} (hkept : Kept disk directory desk)
    (hstep : Step disk directory desk next) : Kept disk directory next := by
  cases hstep with
  | ask label => exact ⟨hkept.ledger, hkept.names⟩
  | @serve request hwaiting =>
      obtain ⟨number, hchosen, hclaim⟩ := claim_chosen desk.registry disk directory request
      have hserve : desk.serve disk directory request =
          { desk with
            registry := ⟨some request.millis,
              desk.registry.namesAt request.millis ++ [request.name directory number]⟩
            waiting := desk.waiting.erase request
            issued := ⟨request, request.name directory number⟩ :: desk.issued } := by
        rw [serve, hclaim]
      rw [hserve]
      refine ⟨.cons hkept.ledger (hchosen.of_mem_iff (hkept.names request.millis)), ?_⟩
      intro millis name
      -- Names of another millisecond are forgotten, and those of this one have one more.
      rw [burst_cons]
      by_cases hmillis : request.millis = millis
      · subst hmillis
        rw [NameRegistry.namesAt, if_pos rfl, if_pos rfl, List.mem_append, List.mem_singleton,
          List.map_cons, List.mem_cons, hkept.names, or_comm]
      · simp [NameRegistry.namesAt, hmillis]

theorem Kept.reaches {desk later : Desk} (hkept : Kept disk directory desk)
    (hreaches : Reaches disk directory desk later) : Kept disk directory later := by
  induction hreaches with
  | refl => exact hkept
  | tail _ hstep ih => exact ih.step hstep

end Desk

/-! ## Bursts -/

namespace Ledger

variable {disk : Disk} {directory : String}

theorem of_append {later earlier : List Issue} (h : Ledger disk directory (later ++ earlier)) :
    Ledger disk directory earlier := by
  induction later with
  | nil => exact h
  | cons issue later ih =>
      cases h with
      | cons hearlier _ => exact ih hearlier

/-- Paths that are given out at one millisecond, without another in between, are distinct. -/
theorem nodup_of_sameMillis {row earlier : List Issue} {millis : Int}
    (h : Ledger disk directory (row ++ earlier))
    (hrow : ∀ issue ∈ row, issue.request.millis = millis) :
    (row.map (·.path)).Nodup := by
  induction row with
  | nil => exact List.nodup_nil
  | cons issue row ih =>
      obtain ⟨hmillis, hrest⟩ := List.forall_mem_cons.mp hrow
      have hburst : burst millis (row ++ earlier) = row ++ burst millis earlier :=
        List.takeWhile_append_of_pos fun issue hissue => beq_iff_eq.mpr (hrest issue hissue)
      rw [List.cons_append] at h
      generalize row ++ earlier = before at h hburst ih
      cases h with
      | cons hearlier hchosen =>
          dsimp only at hmillis
          rw [hmillis, hburst, List.map_append] at hchosen
          refine List.nodup_cons.mpr ⟨?_, ih hearlier hrest⟩
          exact fun hmem => hchosen.fresh (List.mem_append_left _ hmem)

theorem absent {issued : List Issue} (h : Ledger disk directory issued) :
    ∀ issue ∈ issued, disk.holds issue.path = false := by
  induction h with
  | nil => exact List.forall_mem_nil _
  | cons _ hchosen ih => exact List.forall_mem_cons.mpr ⟨hchosen.absent, ih⟩

end Ledger

/-! ## Turns -/

/-- Requests, the latest first, each with the number of those like it that were served before it
since the millisecond was another one. -/
def turns : List Request → List (Request × Nat)
  | [] => []
  | request :: earlier =>
      (request, (earlier.takeWhile (·.millis == request.millis)).count request) :: turns earlier

/-- How many names for a request are free on the disk below a number. -/
def freeBelow (disk : Disk) (directory : String) (request : Request) (number : Nat) : Nat :=
  Nat.count (fun earlier => disk.holds (request.name directory earlier) = false) number

theorem eq_of_freeBelow_eq {disk : Disk} {directory : String} {request : Request}
    {number other : Nat} (hnumber : disk.holds (request.name directory number) = false)
    (hother : disk.holds (request.name directory other) = false)
    (h : freeBelow disk directory request number = freeBelow disk directory request other) :
    number = other :=
  Nat.count_injective hnumber hother h

/-- If the free names below a turn are remembered and no others, the name of that turn is chosen. -/
theorem freeBelow_of_chosen {disk : Disk} {directory : String} {request : Request}
    {names : List String} {number turn : Nat}
    (hnames : ∀ earlier, request.name directory earlier ∈ names ↔
      disk.holds (request.name directory earlier) = false ∧
        freeBelow disk directory request earlier < turn)
    (hchosen : Chosen disk names (request.name directory) number) :
    freeBelow disk directory request number = turn := by
  apply Nat.le_antisymm
  · rw [freeBelow, Nat.count_eq_card_filter_range, ← Finset.card_range turn]
    apply Finset.card_le_card_of_injOn (freeBelow disk directory request)
    · intro earlier hearlier
      obtain ⟨hbelow, hfree⟩ := Finset.mem_filter.mp hearlier
      have hremembered : request.name directory earlier ∈ names := by
        apply (hchosen.least earlier (Finset.mem_range.mp hbelow)).resolve_right
        rw [hfree]
        exact Bool.false_ne_true
      exact Finset.mem_coe.mpr (Finset.mem_range.mpr ((hnames earlier).mp hremembered).2)
    · intro earlier hearlier other hother hsame
      exact eq_of_freeBelow_eq (Finset.mem_filter.mp hearlier).2
        (Finset.mem_filter.mp hother).2 hsame
  · exact Nat.le_of_not_lt fun hlt => hchosen.fresh ((hnames number).mpr ⟨hchosen.absent, hlt⟩)

/-- The labels of what was issued are plain. -/
def PlainLabels (issued : List Issue) : Prop := ∀ issue ∈ issued, IsPlain issue.request.label

namespace Ledger

variable {disk : Disk} {directory : String} {issued : List Issue}

/-- The names for a request that are remembered are those of the turns that were taken. -/
theorem name_mem_burst_iff (h : Ledger disk directory issued) (hplain : PlainLabels issued)
    {request : Request} (hlabel : IsPlain request.label) (number : Nat) :
    request.name directory number ∈ (burst request.millis issued).map (·.path) ↔
      disk.holds (request.name directory number) = false ∧
        freeBelow disk directory request number <
          ((burst request.millis issued).map (·.request)).count request := by
  induction h generalizing number with
  | nil => simp [burst]
  | @cons latest chosen earlier hearlier hchosen ih =>
      obtain ⟨hlatest, hrest⟩ := List.forall_mem_cons.mp hplain
      have hnames := ih hrest
      rw [burst_cons]
      by_cases hmillis : latest.millis = request.millis
      · rw [if_pos hmillis, List.map_cons, List.map_cons, List.mem_cons, hnames]
        by_cases hsame : latest = request
        · subst hsame
          have hturn := freeBelow_of_chosen hnames hchosen
          rw [List.count_cons_self, ← hturn]
          constructor
          · rintro (hname | ⟨hfree, hbelow⟩)
            · obtain ⟨-, rfl⟩ := Request.name_inj hlabel hlabel hname
              exact ⟨hchosen.absent, Nat.lt_succ_self _⟩
            · exact ⟨hfree, Nat.lt_succ_of_lt hbelow⟩
          · rintro ⟨hfree, hbelow⟩
            rcases Nat.lt_succ_iff_lt_or_eq.mp hbelow with hbefore | heq
            · exact .inr ⟨hfree, hbefore⟩
            · exact .inl (by rw [eq_of_freeBelow_eq hfree hchosen.absent heq])
        · rw [List.count_cons_of_ne hsame]
          refine or_iff_right ?_
          intro hname
          exact hsame (Request.name_inj hlabel hlatest hname).1.symm
      · rw [if_neg hmillis]
        simp

end Ledger

/-- The path of a turn: its number is the one that has as many free ones below it. -/
def OfTurn (disk : Disk) (directory path : String) (turn : Request × Nat) : Prop :=
  IsPlain turn.1.label ∧ ∃ number, turn.1.name directory number = path ∧
    disk.holds path = false ∧ freeBelow disk directory turn.1 number = turn.2

/-- Turns and paths determine each other. -/
theorem ofTurn_biUnique (disk : Disk) (directory : String) :
    Relator.BiUnique (OfTurn disk directory) := by
  constructor
  · rintro path turn other ⟨_, number, rfl, hfree, hturn⟩ ⟨_, numberOther, rfl, hfree', hturn'⟩
    rw [eq_of_freeBelow_eq hfree hfree' (hturn.trans hturn'.symm)]
  · rintro path ⟨request, turn⟩ ⟨other, turn'⟩ ⟨hplain, number, hname, _, hturn⟩
      ⟨hplain', numberOther, hname', _, hturn'⟩
    obtain ⟨hrequest, rfl⟩ := Request.name_inj hplain hplain' (hname.trans hname'.symm)
    dsimp only at hrequest hturn hturn'
    subst hrequest
    rw [← hturn, ← hturn']

namespace Ledger

variable {disk : Disk} {directory : String} {issued : List Issue}

/-- Paths that were issued are those of their turns. -/
theorem ofTurns (h : Ledger disk directory issued) (hplain : PlainLabels issued) :
    List.Forall₂ (OfTurn disk directory) (issued.map (·.path))
      (turns (issued.map (·.request))) := by
  induction h with
  | nil => exact .nil
  | @cons request number earlier hearlier hchosen ih =>
      obtain ⟨hlabel, hrest⟩ := List.forall_mem_cons.mp hplain
      refine .cons ⟨hlabel, number, rfl, hchosen.absent, ?_⟩ (ih hrest)
      rw [← requests_burst]
      exact freeBelow_of_chosen (hearlier.name_mem_burst_iff hrest hlabel) hchosen

/-- Plain paths are distinct exactly if their turns are. -/
theorem nodup_iff (h : Ledger disk directory issued) (hplain : PlainLabels issued) :
    (issued.map (·.path)).Nodup ↔ (turns (issued.map (·.request))).Nodup :=
  List.rel_nodup (ofTurn_biUnique disk directory) (h.ofTurns hplain)

end Ledger

/-! ## Order -/

/-- A turn is below the number of requests like it. -/
theorem turn_lt_count {requests : List Request} {request : Request} {turn : Nat}
    (h : (request, turn) ∈ turns requests) : turn < requests.count request := by
  induction requests with
  | nil => cases h
  | cons latest earlier ih =>
      rcases List.mem_cons.mp h with heq | hmem
      · cases heq
        rw [List.count_cons_self]
        exact Nat.lt_succ_of_le ((List.takeWhile_sublist _).count_le _)
      · exact Nat.lt_of_lt_of_le (ih hmem) List.count_le_count_cons

def InOrder (requests : List Request) : Prop :=
  requests.Pairwise fun later earlier => earlier.millis ≤ later.millis

/-- In the order of the clock, all requests of one millisecond stand side by side. -/
theorem count_takeWhile_of_inOrder {requests : List Request} {request : Request}
    (horder : InOrder requests) (hbefore : ∀ earlier ∈ requests, earlier.millis ≤ request.millis) :
    (requests.takeWhile (·.millis == request.millis)).count request = requests.count request := by
  induction requests with
  | nil => rfl
  | cons latest earlier ih =>
      obtain ⟨hlatest, hrest⟩ := List.pairwise_cons.mp horder
      by_cases hmillis : latest.millis = request.millis
      · rw [List.takeWhile_cons_of_pos (by simpa using hmillis), List.count_cons, List.count_cons,
          ih hrest (List.forall_mem_cons.mp hbefore).2]
      · -- All that comes now is from before the millisecond of the request.
        have hearlier : latest.millis < request.millis :=
          lt_of_le_of_ne (hbefore latest List.mem_cons_self) hmillis
        rw [List.takeWhile_cons_of_neg (by simpa using hmillis), List.count_nil]
        symm
        rw [List.count_eq_zero]
        intro hmem
        rcases List.mem_cons.mp hmem with rfl | hmem
        · exact hmillis rfl
        · exact absurd (hlatest request hmem) (not_le_of_gt hearlier)

/-- In the order of the clock no turn comes twice. -/
theorem turns_nodup_of_inOrder {requests : List Request} (horder : InOrder requests) :
    (turns requests).Nodup := by
  induction requests with
  | nil => exact List.nodup_nil
  | cons latest earlier ih =>
      obtain ⟨hlatest, hrest⟩ := List.pairwise_cons.mp horder
      refine List.nodup_cons.mpr ⟨?_, ih hrest⟩
      rw [count_takeWhile_of_inOrder hrest hlatest]
      exact fun hmem => Nat.lt_irrefl _ (turn_lt_count hmem)

/-! ## Distinct paths -/

/-- Whatever captures do, what is issued at one millisecond without another in between is distinct,
and nothing is issued that is on the disk. Behind plain labels the paths are distinct exactly if no
request is served twice in the same turn, so they are if requests are served in the order of the
clock. -/
theorem Desk.issued_distinct_iff (disk : Disk) (directory : String) (supply : Supply) {desk : Desk}
    (hreaches : Desk.Reaches disk directory (.opening supply) desk) :
    (∀ later row earlier millis, desk.issued = later ++ (row ++ earlier) →
        (∀ issue ∈ row, issue.request.millis = millis) → (row.map (·.path)).Nodup) ∧
      (∀ issue ∈ desk.issued, disk.holds issue.path = false) ∧
      (PlainLabels desk.issued →
        ((desk.issued.map (·.path)).Nodup ↔ (turns (desk.issued.map (·.request))).Nodup) ∧
        (InOrder (desk.issued.map (·.request)) → (desk.issued.map (·.path)).Nodup)) := by
  have hledger := ((Desk.Kept.opening supply).reaches hreaches).ledger
  refine ⟨?_, hledger.absent, fun hplain => ⟨hledger.nodup_iff hplain, fun horder => ?_⟩⟩
  · intro later row earlier millis hissued hrow
    rw [hissued] at hledger
    exact hledger.of_append.nodup_of_sameMillis hrow
  · exact (hledger.nodup_iff hplain).mpr (turns_nodup_of_inOrder horder)

/-- A clock that is read twice within one millisecond and later ever after. -/
def twoTicks : Supply := ⟨toString, fun reading => if reading < 2 then 125 else 250,
  ⟨2024, 2, 1, 9, 0, 0, 0, none, by decide⟩, 0, 0⟩

def emptyShots : Disk := ⟨[(["shots"], .directory)], [], 0⟩

/-- Two captures read the clock at once, and another is served before the second of them. -/
def crossed : Desk :=
  let first : Request := ⟨"error", 125⟩
  let second : Request := ⟨"error", 250⟩
  let desk := (((Desk.opening twoTicks).ask "error").ask "error").serve emptyShots "shots" first
  ((desk.ask "error").serve emptyShots "shots" second).serve emptyShots "shots" first

theorem crossed_reached : Desk.Reaches emptyShots "shots" (.opening twoTicks) crossed := by
  apply Relation.ReflTransGen.tail _ (.serve _ (by decide +kernel))
  apply Relation.ReflTransGen.tail _ (.serve _ (by decide +kernel))
  apply Relation.ReflTransGen.tail _ (.ask _ "error")
  apply Relation.ReflTransGen.tail _ (.serve _ (by decide +kernel))
  apply Relation.ReflTransGen.tail _ (.ask _ "error")
  exact Relation.ReflTransGen.single (.ask _ "error")

/-- A path is issued twice though the clock never goes back. -/
theorem issued_distinct_iff_crossed :
    Desk.Reaches emptyShots "shots" (.opening twoTicks) crossed ∧ PlainLabels crossed.issued ∧
      crossed.issued.map (·.path) =
        ["shots/error-125.png", "shots/error-250.png", "shots/error-125.png"] ∧
      ¬(turns (crossed.issued.map (·.request))).Nodup := by
  have hlabels : ∀ issue ∈ crossed.issued, issue.request.label = "error" := by decide +kernel
  have hplain : PlainLabels crossed.issued := by
    intro issue hissue
    rw [hlabels issue hissue]
    exact ⟨by decide, by decide⟩
  have hpaths : crossed.issued.map (·.path) =
      ["shots/error-125.png", "shots/error-250.png", "shots/error-125.png"] := by decide +kernel
  obtain ⟨-, -, hturns⟩ := Desk.issued_distinct_iff emptyShots "shots" twoTicks crossed_reached
  refine ⟨crossed_reached, hplain, hpaths, ?_⟩
  rw [← (hturns hplain).1, hpaths]
  decide

end Clickpath.Screenshot
