import Clickpath.Disk
import Clickpath.Supply

/-! # Names for screenshots

A screenshot without a name of its own is named after the reading of the clock. Names that were
given out within one millisecond are remembered, so that no name is given out twice before its file
is written; files that are there already are avoided too.
-/

namespace Clickpath.Screenshot

/-- The names given out for the last reading of the clock. -/
structure NameRegistry where
  millis : Option Int
  names : List String

namespace NameRegistry

def empty : NameRegistry := ⟨none, []⟩

def namesAt (r : NameRegistry) (millis : Int) : List String :=
  if r.millis = some millis then r.names else []

end NameRegistry

/-- The names to choose from, in order: the first has no number. -/
def candidate (directory stem : String) (number : Nat) : String :=
  Path.join directory
    (stem ++ (if number = 0 then "" else "-" ++ toString number) ++ ".png")

/-- The first name from a number on that is not taken. The fuel is at least the number of names that
are. -/
def firstFree (name : Nat → String) (taken : String → Bool) : Nat → Nat → String
  | 0, number => name number
  | fuel + 1, number =>
    if taken (name number) then firstFree name taken fuel (number + 1) else name number

def NameRegistry.claim (r : NameRegistry) (disk : Disk) (directory label : String) (millis : Int) :
    String × NameRegistry :=
  let names := r.namesAt millis
  let name := firstFree (candidate directory (label ++ "-" ++ toString millis))
    (fun name => names.contains name || disk.holds name) (names.length + disk.entries.length) 0
  (name, ⟨some millis, names ++ [name]⟩)

/-- What naming screenshots depends on: the disk, the supply with its clock, and the names given
out. -/
structure Gallery where
  disk : Disk
  supply : Supply
  registry : NameRegistry

/-- The path for a screenshot in a directory, which is made if it is missing: under its own name, or
under one that is given out. -/
def Gallery.pathFor (g : Gallery) (directory label : String) (file : Option String) :
    Except Disk.Fault String × Gallery :=
  match g.disk.ensureDirectory directory with
  | (.error fault, disk) => (.error fault, { g with disk := disk })
  | (.ok (), disk) =>
    match file.bind Text.nonempty? with
    | some file => (.ok (Path.join directory file), { g with disk := disk })
    | none =>
      let (millis, supply) := g.supply.readClock
      let (path, registry) := g.registry.claim disk directory label millis
      (.ok path, ⟨disk, supply, registry⟩)

end Clickpath.Screenshot
