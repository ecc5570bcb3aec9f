import Clickpath.Base64
import Clickpath.Datum.Display
import Clickpath.Yaml.Node.Reader

/-! # Reading YAML

A node of a known type denotes a datum. A mapping may take over the entries of others, a key that is
given twice keeps its first place and its last value, and what holds other data is no key. What
holds other data is filled after all that is around it, so of several faults the one closest to the
root is reported.
-/

namespace Clickpath.Yaml

/-! ## Scalars -/

def withoutLines (s : List Char) : List Char := s.filter (· != '_')

def wholeOf (base : Nat) (s : List Char) : Except Fault Int :=
  match Decimal.readWhole? base s with
  | some n => .ok n
  | none => .error (.notWhole ⟨String.ofList s, base⟩)

def sixtieths (parts : List (List Char)) : Except Fault Int := do
  let digits ← parts.mapM (wholeOf 10)
  .ok (digits.foldl (fun total digit => total * 60 + digit) 0)

/-- The sign in front of a number and the text behind it; the number must not be empty. -/
def signOf (s : List Char) : Except Fault (Bool × List Char) :=
  if s.isEmpty then .error .emptyNumber else .ok (Decimal.splitSign s)

def unsignedInt (s : List Char) : Except Fault Int :=
  match s with
  | [] => .error .emptyNumber
  | ['0'] => .ok 0
  | '0' :: 'b' :: digits => wholeOf 2 digits
  | '0' :: 'x' :: digits => wholeOf 16 digits
  | '0' :: _ => wholeOf 8 s
  | _ => if s.contains ':' then sixtieths (Chars.splitOn ':' s) else wholeOf 10 s

def intOf (s : List Char) : Except Fault Int := do
  let (negative, size) ← signOf (withoutLines s)
  let n ← unsignedInt size
  .ok (if negative then -n else n)

def floatPart (s : List Char) : Except Fault Binary64 :=
  match Decimal.readBinary64? s with
  | some x => .ok x
  | none => .error (.notANumber (String.ofList s))

/-- The sum of parts in base sixty, the last one first, given the weight of that one. -/
def sexagesimal (weight : Nat) : List Binary64 → Float → Float
  | [], total => total
  | part :: parts, total =>
    sexagesimal (weight * 60) parts (total + part.toFloat * Float.ofNat weight)

/-- The size of the floating-point number that a text without a sign denotes. -/
def unsignedFloat (s : List Char) : Except Fault Binary64 := do
  if s == ".inf".toList then .ok .infinity
  else if s == ".nan".toList then .ok .nan
  else if s.contains ':' then
    let parts ← (Chars.splitOn ':' s).mapM floatPart
    .ok (.ofFloat (sexagesimal 1 parts.reverse 0))
  else floatPart s

def floatOf (s : List Char) : Except Fault Binary64 := do
  let (negative, size) ← signOf (Chars.lower (withoutLines s))
  let x ← unsignedFloat size
  .ok (if negative && !x.isNaN then .ofFloat (-x.toFloat) else x)

/-- The part of a written date that is not in the calendar, if there is one. -/
def badDate? (year month day : Nat) : Option BadMoment :=
  if year < 1 || year > 9999 then some (.year year)
  else if month < 1 || month > 12 then some .month
  else if day < 1 || day > daysInMonth year month then some .day
  else none

/-- The part of a written time of day that no clock shows, if there is one. -/
def badTime? (t : WrittenTime) : Option BadMoment :=
  if t.hour > 23 then some .hour
  else if t.minute > 59 then some .minute
  else if t.second > 59 then some .second
  else none

/-- The minutes of a written offset, which must be less than a day. -/
def offsetOf (offset : WrittenOffset) : Except Fault (Option Int) :=
  let within (minutes : Int) : Except Fault (Option Int) :=
    if -1440 < minutes && minutes < 1440 then .ok (some minutes)
    else .error (.badMoment (.offset (Datum.showSpan minutes)))
  match offset with
  | .unstated => .ok none
  | .universal => .ok (some 0)
  | .ahead hours minutes => within (hours * 60 + minutes : Nat)
  | .behind hours minutes => within (-(hours * 60 + minutes : Nat))

def momentOf (year month day : Nat) (t : WrittenTime) : Except Fault Datum := do
  let offset ← offsetOf t.offset
  let six := t.fraction.take 6
  let micro := Chars.decimalNumber six * Nat.pow 10 (6 - six.length)
  match badDate? year month day, badTime? t,
      Moment.ofFields? year month day t.hour t.minute t.second micro offset with
  | some cause, _, _ => .error (.badMoment cause)
  | none, some cause, _ => .error (.badMoment cause)
  | none, none, some m => .ok (.moment m)
  | none, none, none => .error .malformed

def timestampOf (s : List Char) : Except Fault Datum :=
  match writtenMoment? s with
  | none => .error .notAMoment
  | some ⟨year, month, day, none⟩ =>
    match badDate? year month day with
    | some cause => .error (.badMoment cause)
    | none => .ok (.date year month day)
  | some ⟨year, month, day, some time⟩ => momentOf year month day time

def truthOf (s : List Char) : Except Fault Datum :=
  let word := String.ofList (Chars.lower s)
  match truthWords.lookup word with
  | some b => .ok (.bool b)
  | none => .error (.notATruthValue word)

def binaryOf (s : List Char) : Except Fault Datum :=
  if s.any fun c => c.toNat ≥ 0x80 then .error .malformed
  else match Base64.decode? s with
    | some bytes => .ok (.binary bytes)
    | none => .error .malformed

/-- The datum that a scalar denotes. Half of a pair of code units is part of no number or word. -/
def scalarOf (tag : Tag) (text : Loose) : Except Fault Datum :=
  let s := text.shown.toList
  match tag with
  | .null => .ok .null
  | .bool => truthOf s
  | .int => (intOf s).map .int
  | .float => (floatOf s).map .float
  | .binary => binaryOf s
  | .timestamp => timestampOf s
  | .str => .ok (.ofLoose text)
  | _ => .error .malformed

/-! ## Mappings that take over entries -/

mutual

/-- The entries of a mapping, those that it takes over in front. -/
def entriesOf : Node → Except Fault (List (Node × Node))
  | .mapping _ entries => do
    let (taken, own) ← splitEntries entries
    .ok (taken ++ own)
  | _ => .error .malformed

/-- The entries that entries take over, and those that are their own. -/
def splitEntries : List (Node × Node) → Except Fault (List (Node × Node) × List (Node × Node))
  | [] => .ok ([], [])
  | (key, value) :: rest =>
    match key.tag with
    | .merge => do
      let taken ← takenFrom value
      let (more, own) ← splitEntries rest
      .ok (taken ++ more, own)
    | _ => do
      let (taken, own) ← splitEntries rest
      .ok (taken, (key, value) :: own)

/-- The entries taken over from a mapping or from several, of which the first counts most. -/
def takenFrom : Node → Except Fault (List (Node × Node))
  | .mapping _ entries => do
    let (taken, own) ← splitEntries entries
    .ok (taken ++ own)
  | .sequence _ items => takenFromAll items
  | .scalar _ _ | .again _ => .error .malformed

/-- The entries taken over from several mappings. -/
def takenFromAll : List Node → Except Fault (List (Node × Node))
  | [] => .ok []
  | item :: rest => do
    let first ← entriesOf item
    let others ← takenFromAll rest
    .ok (others ++ first)

end

/-! ## Data -/

/-- A result, or a fault with its distance from the root. -/
abbrev Located (α : Type) := Except (Nat × Fault) α

/-- Two results together. Of two faults the one closer to the root counts, else the first. -/
def both (a : Located α) (b : Located β) : Located (α × β) :=
  match a, b with
  | .ok x, .ok y => .ok (x, y)
  | .error fault, .ok _ => .error fault
  | .ok _, .error fault => .error fault
  | .error fault, .error other => .error (if other.1 < fault.1 then other else fault)

def at? (distance : Nat) (result : Except Fault α) : Located α :=
  result.mapError fun fault => (distance, fault)

def all (results : List (Located α)) : Located (List α) :=
  results.foldr (fun result later => (both result later).map fun (x, xs) => x :: xs) (.ok [])

/-- Data of this type hold others. They are there, still empty, before what they hold is read. -/
def isFilledLater : Tag → Bool
  | .seq | .map | .set | .omap | .pairs => true
  | _ => false

/-- A key: a datum that can be one. The mark for a value is a text as a key. -/
def keyOf (distance : Nat) (below : Node → Located Datum) (key : Node) : Located Datum :=
  match key with
  | .scalar .value text => .ok (.ofLoose text)
  | key => if isFilledLater key.tag then .error (distance, .malformed) else below key

def onlyEntry : Node → Except Fault (Node × Node)
  | .mapping _ [entry] => .ok entry
  | _ => .error .malformed

mutual

/-- The text of a node that is to be a scalar. A mapping has the text under its mark for a value. -/
def textIn? : Node → Option Loose
  | .scalar _ text => some text
  | .mapping _ entries => markedText? entries
  | _ => none

def markedText? : List (Node × Node) → Option Loose
  | [] => none
  | (key, value) :: rest => if key.tag == .value then textIn? value else markedText? rest

end

/-- The datum of a node that holds no others. -/
def scalarIn (node : Node) : Except Fault Datum :=
  match textIn? node with
  | some text => scalarOf node.tag text
  | none => .error .malformed

/-- The data of nodes. The fuel is more than the depth of the nodes. What holds no other data is
read when what holds it is. -/
def dataOf : Nat → Nat → Node → Located Datum
  | 0, distance, _ => .error (distance, .malformed)
  | fuel + 1, distance, node =>
    let below := dataOf fuel (distance + 1)
    let entries : Located (List (Datum × Datum)) := do
      let found ← at? distance (entriesOf node)
      all (found.map fun (key, value) => both (keyOf distance below key) (below value))
    let pairs (nodes : List Node) : Located (List Datum) := do
      let pairs ← all (nodes.map fun node => do
        let (key, value) ← at? distance (onlyEntry node)
        both (below key) (below value))
      .ok (pairs.map fun pair => .list [pair.1, pair.2])
    match node.tag, node with
    | .seq, .sequence _ nodes => (all (nodes.map below)).map .list
    | .omap, .sequence _ nodes | .pairs, .sequence _ nodes => (pairs nodes).map .list
    | .map, .mapping _ _ => entries.map fun found => .map (Datum.ofEntries found)
    | .set, .mapping _ _ => entries.map fun found => .set ((Datum.ofEntries found).map (·.1))
    | tag, _ =>
      if isFilledLater tag then .error (distance, .malformed)
      else at? (distance - 1) (scalarIn node)

def read (text : List Char) : Except Fault Datum := do
  match ← nodeOf? text with
  | none => .ok .null
  | some node => (dataOf (text.length + node.depth + 2) 0 node).mapError (·.2)

end Clickpath.Yaml
