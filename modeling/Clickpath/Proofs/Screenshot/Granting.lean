import Clickpath.Proofs.Screenshot.Naming

/-! # Granting names

A registry is asked for one name after another, while files come and go. Each search ends, after no
more rounds than there are names and files, with the first name that is free. The registry remembers
the names that it granted since the millisecond was another one, so within one millisecond no name
is granted twice.
-/

namespace Clickpath.Screenshot

/-! ## The search -/

/-- A search without a bound: names are tried in the order of their numbers, and the first that is
not taken is found. -/
inductive Finds (name : Nat → String) (taken : String → Bool) : Nat → String → Prop
  | free {number : Nat} (hfree : taken (name number) = false) :
      Finds name taken number (name number)
  | next {number : Nat} {found : String} (htaken : taken (name number) = true)
      (hfound : Finds name taken (number + 1) found) : Finds name taken number found

/-- A search ends where the first name is that is not taken. -/
theorem Finds.of_least {name : Nat → String} {taken : String → Bool} {start number : Nat}
    (hstart : start ≤ number) (hfree : taken (name number) = false)
    (htaken : ∀ earlier, start ≤ earlier → earlier < number → taken (name earlier) = true) :
    Finds name taken start (name number) := by
  induction hstart using Nat.decreasingInduction with
  | self => exact .free hfree
  | of_succ start hbefore ih =>
      refine .next (htaken start (Nat.le_refl start) hbefore) (ih fun earlier hearlier => ?_)
      exact htaken earlier (Nat.le_of_succ_le hearlier)

/-- The name is remembered or on the disk. -/
def isTaken (disk : Disk) (names : List String) (name : String) : Bool :=
  names.contains name || disk.holds name

theorem Chosen.finds {disk : Disk} {names : List String} {name : Nat → String} {number : Nat}
    (h : Chosen disk names name number) : Finds name (isTaken disk names) 0 (name number) := by
  apply Finds.of_least (Nat.zero_le number)
  · simpa [isTaken, h.absent] using h.fresh
  · intro earlier _ hearlier
    simpa [isTaken] using h.least earlier hearlier

/-- Fewer names are passed over than there are names to remember and entries on the disk. -/
theorem Chosen.number_le {disk : Disk} {names : List String} {directory : String}
    {request : Request} {number : Nat} (h : Chosen disk names (request.name directory) number) :
    number ≤ names.length + disk.entries.length := by
  obtain ⟨bound, hbound, hfresh, habsent⟩ := exists_free disk names directory request.stem_ne_empty
  refine Nat.le_trans (Nat.le_of_not_lt fun hlt => ?_) hbound
  rcases h.least bound hlt with hmem | hheld
  · exact hfresh hmem
  · exact Bool.false_ne_true (habsent.symm.trans hheld)

/-! ## Grants -/

/-- A registry is asked for a name in a directory, with the disk as it is at this moment. -/
structure Claim where
  disk : Disk
  directory : String
  request : Request

/-- A claim with the name that was granted for it. -/
structure Grant where
  claim : Claim
  path : String

/-- A registry and what it granted, the latest first. -/
structure Log where
  registry : NameRegistry
  granted : List Grant

namespace Log

def opening (r : NameRegistry) : Log := ⟨r, []⟩

/-- The next claim is served. -/
def serve (log : Log) (claim : Claim) : Log :=
  let (path, registry) :=
    log.registry.claim claim.disk claim.directory claim.request.label claim.request.millis
  ⟨registry, ⟨claim, path⟩ :: log.granted⟩

def run (r : NameRegistry) (claims : List Claim) : Log := claims.foldl serve (opening r)

end Log

/-- The names granted for a millisecond since it was another one. What a registry held in the
beginning was granted before. -/
def grantedAt (r : NameRegistry) (millis : Int) : List Grant → List String
  | [] => r.namesAt millis
  | grant :: earlier =>
    if grant.claim.request.millis = millis then grant.path :: grantedAt r millis earlier else []

/-- Each grant was the first name that was free: on the disk of its moment, and among those granted
before it for its millisecond. -/
inductive Granted (r : NameRegistry) : List Grant → Prop
  | nil : Granted r []
  | cons {claim : Claim} {number : Nat} {earlier : List Grant} (hearlier : Granted r earlier)
      (hchosen : Chosen claim.disk (grantedAt r claim.request.millis earlier)
        (claim.request.name claim.directory) number) :
      Granted r (⟨claim, claim.request.name claim.directory number⟩ :: earlier)

/-- What is true at any time: all grants are right, and the registry remembers those of the present
millisecond. -/
structure Log.Kept (r : NameRegistry) (log : Log) : Prop where
  granted : Granted r log.granted
  names : ∀ millis name, name ∈ log.registry.namesAt millis ↔ name ∈ grantedAt r millis log.granted

namespace Log

variable {r : NameRegistry} {log : Log}

theorem Kept.opening (r : NameRegistry) : Kept r (.opening r) := ⟨.nil, fun _ _ => Iff.rfl⟩

/-- A claim is granted the first name that is free, and the registry remembers the name with those
of its millisecond. -/
theorem Kept.claim (h : Kept r log) (claim : Claim) :
    ∃ number, Chosen claim.disk (grantedAt r claim.request.millis log.granted)
        (claim.request.name claim.directory) number ∧
      log.serve claim =
        ⟨⟨some claim.request.millis, log.registry.namesAt claim.request.millis ++
            [claim.request.name claim.directory number]⟩,
          ⟨claim, claim.request.name claim.directory number⟩ :: log.granted⟩ := by
  obtain ⟨number, hchosen, hclaim⟩ :=
    claim_chosen log.registry claim.disk claim.directory claim.request
  exact ⟨number, hchosen.of_mem_iff (h.names claim.request.millis), by rw [serve, hclaim]⟩

/-- What is true of a registry is true of it behind one more claim. -/
theorem Kept.serve (h : Kept r log) (claim : Claim) : Kept r (log.serve claim) := by
  obtain ⟨number, hchosen, hserve⟩ := h.claim claim
  rw [hserve]
  refine ⟨.cons h.granted hchosen, ?_⟩
  intro millis name
  -- Names of another millisecond are forgotten, and those of this one are one more.
  by_cases hmillis : claim.request.millis = millis
  · subst hmillis
    rw [NameRegistry.namesAt, if_pos rfl, grantedAt, if_pos rfl, List.mem_append,
      List.mem_singleton, List.mem_cons, h.names, or_comm]
  · simp [NameRegistry.namesAt, grantedAt, hmillis]

theorem Kept.foldl (h : Kept r log) (claims : List Claim) :
    Kept r (claims.foldl Log.serve log) := by
  induction claims generalizing log with
  | nil => exact h
  | cons claim rest ih => exact ih (h.serve claim)

theorem kept_run (r : NameRegistry) (claims : List Claim) : Kept r (run r claims) :=
  (Kept.opening r).foldl claims

/-- Every claim is granted a name. -/
theorem map_claim_run (r : NameRegistry) (claims : List Claim) :
    (run r claims).granted.map (·.claim) = claims.reverse := by
  have hfold : ∀ log : Log, (claims.foldl Log.serve log).granted.map (·.claim) =
      claims.reverse ++ log.granted.map (·.claim) := by
    induction claims with
    | nil => exact fun log => rfl
    | cons claim rest ih =>
        intro log
        rw [List.foldl_cons, ih, List.reverse_cons, List.append_assoc]
        rfl
  rw [run, hfold]
  exact List.append_nil _

end Log

namespace Granted

variable {r : NameRegistry} {granted : List Grant}

theorem absent (h : Granted r granted) :
    ∀ grant ∈ granted, grant.claim.disk.holds grant.path = false := by
  induction h with
  | nil => exact List.forall_mem_nil _
  | cons _ hchosen ih => exact List.forall_mem_cons.mpr ⟨hchosen.absent, ih⟩

theorem grantedAt_of_sameMillis {millis : Int}
    (hmillis : ∀ grant ∈ granted, grant.claim.request.millis = millis) :
    grantedAt r millis granted = granted.map (·.path) ++ r.namesAt millis := by
  induction granted with
  | nil => rfl
  | cons grant earlier ih =>
      obtain ⟨hgrant, hearlier⟩ := List.forall_mem_cons.mp hmillis
      rw [grantedAt, if_pos hgrant, ih hearlier]
      rfl

/-- Names that are granted at one millisecond are distinct, and none of them was held before. -/
theorem nodup_of_sameMillis (h : Granted r granted) {millis : Int}
    (hmillis : ∀ grant ∈ granted, grant.claim.request.millis = millis) :
    (granted.map (·.path)).Nodup ∧ ∀ grant ∈ granted, grant.path ∉ r.namesAt millis := by
  induction h with
  | nil => exact ⟨List.nodup_nil, List.forall_mem_nil _⟩
  | cons _ hchosen ih =>
      obtain ⟨hgrant, hearlier⟩ := List.forall_mem_cons.mp hmillis
      obtain ⟨hdistinct, hheld⟩ := ih hearlier
      have hfresh := hchosen.fresh
      dsimp only at hgrant
      rw [hgrant, grantedAt_of_sameMillis hearlier, List.mem_append, not_or] at hfresh
      exact ⟨List.nodup_cons.mpr ⟨hfresh.1, hdistinct⟩,
        List.forall_mem_cons.mpr ⟨hfresh.2, hheld⟩⟩

end Granted

/-! ## What a claim is granted -/

/-- How a claim is served behind a log: with a path, and a registry for the claims after it. -/
structure Log.Serves (r : NameRegistry) (log : Log) (claim : Claim) (path : String)
    (next : NameRegistry) : Prop where
  /-- The path is the first name that is neither on the disk nor granted for the millisecond since
  it was another one. -/
  first : ∃ number ≤ (log.registry.namesAt claim.request.millis).length + claim.disk.entries.length,
    path = claim.request.name claim.directory number ∧
      Chosen claim.disk (grantedAt r claim.request.millis log.granted)
        (claim.request.name claim.directory) number
  /-- It is found by a search without a bound. -/
  found : Finds (claim.request.name claim.directory)
    (isTaken claim.disk (log.registry.namesAt claim.request.millis)) 0 path
  millis : next.millis = some claim.request.millis
  /-- What was granted for the millisecond is remembered, with the path, and nothing else. -/
  names : ∀ name, name ∈ next.names ↔
    name = path ∨ name ∈ grantedAt r claim.request.millis log.granted

/-- A claim is served with the first free name, and the registry remembers it. -/
theorem Log.Kept.serves {r : NameRegistry} {log : Log} (h : Kept r log) (claim : Claim) :
    ∃ path next, log.registry.claim claim.disk claim.directory claim.request.label
        claim.request.millis = (path, next) ∧ Serves r log claim path next := by
  obtain ⟨number, hchosen, hclaim⟩ :=
    claim_chosen log.registry claim.disk claim.directory claim.request
  have hnames := h.names claim.request.millis
  refine ⟨_, _, hclaim, ⟨number, hchosen.number_le, rfl, hchosen.of_mem_iff hnames⟩, hchosen.finds,
    rfl, fun name => ?_⟩
  rw [List.mem_append, List.mem_singleton, hnames, or_comm]

/-- Whatever a registry holds and was asked for before, and whatever files there are by now: a claim
is granted the first name that is free, and the registry remembers exactly the names of the present
millisecond. No name is on the disk when it is granted, and as long as the millisecond stays the
same all names are distinct. -/
theorem NameRegistry.claim_serves (r : NameRegistry) (claims : List Claim) :
    (∀ claim : Claim, ∃ path next,
      (Log.run r claims).registry.claim claim.disk claim.directory claim.request.label
        claim.request.millis = (path, next) ∧ Log.Serves r (Log.run r claims) claim path next) ∧
      (Log.run r claims).granted.map (·.claim) = claims.reverse ∧
      (∀ grant ∈ (Log.run r claims).granted, grant.claim.disk.holds grant.path = false) ∧
      ∀ millis, (∀ claim ∈ claims, claim.request.millis = millis) →
        ((Log.run r claims).granted.map (·.path)).Nodup ∧
          ∀ grant ∈ (Log.run r claims).granted, grant.path ∉ r.namesAt millis := by
  have hkept := Log.kept_run r claims
  have hclaims := Log.map_claim_run r claims
  refine ⟨hkept.serves, hclaims, hkept.granted.absent, ?_⟩
  intro millis hmillis
  apply hkept.granted.nodup_of_sameMillis
  intro grant hgrant
  apply hmillis
  rw [← List.mem_reverse, ← hclaims]
  exact List.mem_map_of_mem hgrant

/-- A registry that holds a name already. -/
def oneHeld : NameRegistry := ⟨some 125, ["shots/error-125.png"]⟩

/-- Three claims at the millisecond of the name that is held. Behind the first a file appears under
the name that would have been next. -/
def crowded : List Claim :=
  let shots : Disk := ⟨[(["shots"], .directory)], [], 0⟩
  let grown : Disk :=
    ⟨[(["shots"], .directory), (["shots", "error-125-2.png"], .file ⟨.text "", 0⟩)], [], 0⟩
  [⟨shots, "shots", ⟨"error", 125⟩⟩, ⟨grown, "shots", ⟨"error", 125⟩⟩,
    ⟨grown, "shots/", ⟨"screenshot", 125⟩⟩]

/-- A name that is held, and a file that appears meanwhile, are passed over. -/
theorem claim_serves_crowded :
    (∀ claim ∈ crowded, claim.request.millis = 125) ∧
      (Log.run oneHeld crowded).granted.map (·.path) =
        ["shots/screenshot-125.png", "shots/error-125-3.png", "shots/error-125-1.png"] ∧
      ((Log.run oneHeld crowded).granted.map (·.path)).Nodup ∧
      ∀ grant ∈ (Log.run oneHeld crowded).granted, grant.path ∉ oneHeld.namesAt 125 := by
  have hmillis : ∀ claim ∈ crowded, claim.request.millis = 125 := by
    simp [crowded]
  obtain ⟨-, -, -, hsame⟩ := NameRegistry.claim_serves oneHeld crowded
  exact ⟨hmillis, by decide +kernel, hsame 125 hmillis⟩

end Clickpath.Screenshot
