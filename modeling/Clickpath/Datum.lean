import Clickpath.Moment
import Clickpath.Text.Loose

/-! # Data

A datum is what a stored record holds before it is checked: a value of a data format with scalars,
lists and maps whose entries stay in the order in which they were written. A text that holds half of
a pair of code units is told apart from the others.
-/

namespace Clickpath

/-- A value of a stored record. -/
inductive Datum where
  | null
  | bool (value : Bool)
  | int (value : Int)
  | float (value : Binary64)
  | text (value : String)
  | torn (value : Torn)
  | binary (bytes : List Nat)
  | date (year month day : Nat)
  | moment (value : Moment)
  | list (items : List Datum)
  | set (items : List Datum)
  | map (entries : List (Datum × Datum))
  deriving Inhabited

namespace Datum

mutual

def beq : Datum → Datum → Bool
  | null, null => true
  | bool a, bool b => a == b
  | int a, int b => a == b
  | float a, float b => a.toFloat == b.toFloat
  | text a, text b => a == b
  | torn a, torn b => a == b
  | binary a, binary b => a == b
  | date y m d, date y' m' d' => y == y' && m == m' && d == d'
  | moment a, moment b => a == b
  | list as, list bs => beqList as bs
  | set as, set bs => beqList as bs
  | map as, map bs => beqEntries as bs
  | _, _ => false

def beqList : List Datum → List Datum → Bool
  | [], [] => true
  | a :: as, b :: bs => beq a b && beqList as bs
  | _, _ => false

def beqEntries : List (Datum × Datum) → List (Datum × Datum) → Bool
  | [], [] => true
  | (k, v) :: as, (k', v') :: bs => beq k k' && beq v v' && beqEntries as bs
  | _, _ => false

end

instance : BEq Datum := ⟨beq⟩

/-- A number as a floating-point number, if the datum counts: truth values count as one and zero. -/
def number? : Datum → Option Float
  | bool b => some (if b then 1 else 0)
  | int i => some (Float.ofInt i)
  | float x => some x.toFloat
  | _ => none

/-- Two data name the same key of a map: equal data do, and so do equal numbers of any kind. -/
def sameKey (a b : Datum) : Bool :=
  match a, b with
  | int i, int j => i == j
  | text s, text t => s == t
  | _, _ => beq a b || (match a.number?, b.number? with
    | some x, some y => x == y
    | _, _ => false)

/-- The value under a text key, in entries in which every key occurs once. -/
def lookup? (entries : List (Datum × Datum)) (key : String) : Option Datum :=
  (entries.find? fun entry => match entry.1 with
    | text s => s == key
    | _ => false).map (·.2)

/-- Enters a value under a key: in the place of the entry that has the key, else at the end. -/
def insert (entries : List (Datum × Datum)) (key value : Datum) : List (Datum × Datum) :=
  match entries with
  | [] => [(key, value)]
  | (k, v) :: rest => if k.sameKey key then (k, value) :: rest else (k, v) :: insert rest key value

/-- Entries with each key once: a later entry takes the place of an earlier one with its key. -/
def ofEntries (entries : List (Datum × Datum)) : List (Datum × Datum) :=
  entries.foldl (fun found entry => insert found entry.1 entry.2) []

def ofFields (fields : List (String × Datum)) : Datum :=
  map (fields.map fun field => (text field.1, field.2))

/-- The datum counts as absent where a default stands ready: null, false, zero and what is empty. -/
def isFalsy : Datum → Bool
  | null => true
  | bool b => !b
  | int i => i == 0
  | float x => x.isZero
  | text s => s.isEmpty
  | binary bytes => bytes.isEmpty
  | list items => items.isEmpty
  | set items => items.isEmpty
  | map entries => entries.isEmpty
  | _ => false

/-- The datum itself, unless it counts as absent. -/
def truthy? (d : Datum) : Option Datum := if d.isFalsy then none else some d

/-- Null, or a text of blanks alone. -/
def isBlank : Datum → Bool
  | null => true
  | text s => Text.isBlank s
  | _ => false

def string? : Datum → Option String
  | text s => some s
  | _ => none

def ofLoose (l : Loose) : Datum :=
  if h : l.isWhole = true then text l.shown else torn ⟨l, Loose.torn_of_not_whole h⟩

end Datum

end Clickpath
