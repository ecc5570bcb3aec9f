import Clickpath.Yaml.Layout
import Clickpath.Yaml.Node

/-! # Reading nodes

A document's node is read from its tokens. An anchor names the node behind it for the aliases that
follow, inside the node as well. What is wrong with the text itself is met when its token is asked
for, and then comes before what is wrong with the tokens behind.
-/

namespace Clickpath.Yaml

/-- The tokens that are left and the fault behind them, the nodes that have a name, the handles of
tags, and how many sequences and mappings may still be begun inside each other. -/
structure Pending where
  tokens : List Token
  ending : Option Fault
  anchors : List (String × Node)
  handles : List (String × String)
  room : Nat

abbrev Build := StateT Pending (Except Fault)

namespace Build

def refuse : Build α := fun _ => .error .malformed

def peek : Build (Option Token) := fun p =>
  match p.tokens, p.ending with
  | [], some fault => .error fault
  | tokens, _ => .ok (tokens.head?, p)

def drop : Build Unit := fun p => .ok ((), { p with tokens := p.tokens.tail })

def drop? (token : Token) : Build Bool := do
  if (← peek) = some token then
    drop
    return true
  else return false

def expect (token : Token) : Build Unit := do
  if ← drop? token then return else refuse

def name (anchor : Option String) (node : Node) : Build Unit := fun p =>
  match anchor with
  | some name => .ok ((), { p with anchors := (name, node) :: p.anchors })
  | none => .ok ((), p)

/-- Begins a sequence or mapping, which its name stands for from here on. -/
def enter (anchor : Option String) : Build Unit := fun p =>
  match p.room with
  | 0 => .error .tooDeep
  | room + 1 =>
    name anchor (.again (anchor.getD "")) { p with room := room }

/-- How many levels deep a node that stands inside itself is written out. -/
def selfLevels : Nat := 2

/-- Ends a sequence or mapping. Wherever it stands inside itself, it is known now. -/
def leave (anchor : Option String) (node : Node) : Build Node := fun p =>
  let p := { p with room := p.room + 1 }
  match anchor with
  | none => .ok (node, p)
  | some name =>
    let whole := node.unrolled name selfLevels
    let known := p.anchors.map fun (other, old) => (other, Node.fill name whole old)
    .ok (whole, { p with anchors := (name, whole) :: known })

def named (name : String) : Build Node := fun p =>
  match p.anchors.lookup name with
  | some node => .ok (node, p)
  | none => .error .malformed

/-- The type that a handle and a suffix name; nothing for the mark that leaves the type open. -/
def resolveTag (handle : Option String) (suffix : String) : Build (Option Tag) := fun p =>
  match handle with
  | none => .ok (if suffix == "!" then none else some (.ofUri suffix), p)
  | some handle =>
    match p.handles.lookup handle with
    | some start =>
      let uri := start ++ suffix
      .ok (if uri == "!" then none else some (.ofUri uri), p)
    | none => .error .malformed

/-- What a node has in front of it: a name and a tag. A tag may leave the type open. -/
structure Properties where
  anchor : Option String
  tag : Option (Option Tag)

def tag? : Build (Option (Option String × String)) := do
  match ← peek with
  | some (.tag handle suffix) =>
    drop
    return some (handle, suffix)
  | _ => return none

def anchor? : Build (Option String) := do
  match ← peek with
  | some (.anchor name) =>
    drop
    return some name
  | _ => return none

def properties : Build Properties := do
  let anchor ← anchor?
  let tag ← tag?
  let anchor ← match anchor, tag with
    | none, some _ => anchor?
    | _, _ => pure anchor
  match tag with
  | some (handle, suffix) => return ⟨anchor, some (← resolveTag handle suffix)⟩
  | none => return ⟨anchor, none⟩

def checkName (anchor : Option String) : Build Unit := do
  match anchor with
  | some name => if ((← get).anchors.lookup name).isSome then refuse
  | none => return

/-- The type of a scalar. Without a tag a plain scalar has the type of its form; a tag that leaves
the type open treats every scalar as plain. -/
def scalarTag (tag : Option (Option Tag)) (text : Loose) (plain : Bool) : Tag :=
  match tag with
  | some (some tag) => tag
  | some none => .ofPlain text.shown.toList
  | none => if plain then .ofPlain text.shown.toList else .str

/-- Where a node stands: in a block, in a block whose items need no deeper indentation, or within
brackets. -/
inductive Setting where
  | block
  | value
  | flow
  deriving DecidableEq, Repr

/-- A token after which a value or key is empty. -/
def isOneOf (tokens : List Token) : Option Token → Bool
  | some token => tokens.contains token
  | none => false

/-- Gives a finished node its name. -/
def close (found : Properties) (node : Node) : Build Node := do
  name found.anchor node
  return node

mutual

def node : Nat → Setting → Build Node
  | 0, _ => refuse
  | fuel + 1, setting => do
    match ← peek with
    | some (.alias target) =>
      drop
      named target
    | _ =>
      let found ← properties
      let tag := found.tag.bind id
      let listTag := tag.getD .seq
      let mapTag := tag.getD .map
      let next ← peek
      checkName found.anchor
      match next, setting with
      | some .blockEntry, .value =>
        enter found.anchor
        let items ← bareItems fuel
        leave found.anchor (.sequence listTag items)
      | some (.scalar text plain), _ =>
        drop
        close found (.scalar (scalarTag found.tag text plain) text)
      | some .flowSequenceStart, _ =>
        drop
        enter found.anchor
        let items ← flowItems fuel true
        leave found.anchor (.sequence listTag items)
      | some .flowMappingStart, _ =>
        drop
        enter found.anchor
        let entries ← flowEntries fuel true
        leave found.anchor (.mapping mapTag entries)
      | some .blockSequenceStart, .block | some .blockSequenceStart, .value =>
        drop
        enter found.anchor
        let items ← blockItems fuel
        leave found.anchor (.sequence listTag items)
      | some .blockMappingStart, .block | some .blockMappingStart, .value =>
        drop
        enter found.anchor
        let entries ← blockEntries fuel
        leave found.anchor (.mapping mapTag entries)
      | _, _ =>
        if found.anchor.isNone && found.tag.isNone then refuse
        else close found (.scalar (scalarTag found.tag .empty true) .empty)

/-- The node at this place, or an empty one if one of some tokens follows. -/
def nodeUnless : Nat → Setting → List Token → Build Node
  | 0, _, _ => refuse
  | fuel + 1, setting, tokens => do
    if isOneOf tokens (← peek) then return .empty else node fuel setting

def blockItems : Nat → Build (List Node)
  | 0 => refuse
  | fuel + 1 => do
    if ← drop? .blockEntry then
      let item ← nodeUnless fuel .block [.blockEntry, .blockEnd]
      let items ← blockItems fuel
      return item :: items
    else
      expect .blockEnd
      return []

/-- The items of a sequence without indentation of its own. -/
def bareItems : Nat → Build (List Node)
  | 0 => refuse
  | fuel + 1 => do
    if ← drop? .blockEntry then
      let item ← nodeUnless fuel .block [.blockEntry, .key, .value, .blockEnd]
      let items ← bareItems fuel
      return item :: items
    else return []

def blockValue : Nat → Build Node
  | 0 => refuse
  | fuel + 1 => do
    if ← drop? .value then nodeUnless fuel .value [.key, .value, .blockEnd] else return .empty

def blockEntries : Nat → Build (List (Node × Node))
  | 0 => refuse
  | fuel + 1 => do
    if ← drop? .key then
      let key ← nodeUnless fuel .value [.key, .value, .blockEnd]
      let value ← blockValue fuel
      let entries ← blockEntries fuel
      return (key, value) :: entries
    else
      expect .blockEnd
      return []

def flowValue : Nat → Token → Build Node
  | 0, _ => refuse
  | fuel + 1, last => do
    if ← drop? .value then nodeUnless fuel .flow [.flowEntry, last] else return .empty

def flowItems : Nat → Bool → Build (List Node)
  | 0, _ => refuse
  | fuel + 1, first => do
    if ← drop? .flowSequenceEnd then return []
    else
      unless first do expect .flowEntry
      if ← drop? .key then
        enter none
        let key ← nodeUnless fuel .flow [.value, .flowEntry, .flowSequenceEnd]
        let value ← flowValue fuel .flowSequenceEnd
        let entry ← leave none (.mapping .map [(key, value)])
        let items ← flowItems fuel false
        return entry :: items
      else if ← drop? .flowSequenceEnd then return []
      else
        let item ← node fuel .flow
        let items ← flowItems fuel false
        return item :: items

def flowEntries : Nat → Bool → Build (List (Node × Node))
  | 0, _ => refuse
  | fuel + 1, first => do
    if ← drop? .flowMappingEnd then return []
    else
      unless first do expect .flowEntry
      if ← drop? .key then
        let key ← nodeUnless fuel .flow [.value, .flowEntry, .flowMappingEnd]
        let value ← flowValue fuel .flowMappingEnd
        let entries ← flowEntries fuel false
        return (key, value) :: entries
      else if ← drop? .flowMappingEnd then return []
      else
        let key ← node fuel .flow
        let entries ← flowEntries fuel false
        return (key, .empty) :: entries

end

/-- The handles that are always there. -/
def standardHandles : List (String × String) := [("!", "!"), ("!!", standardTags)]

/-- The directives in front of a document. A version and a handle are given once. -/
def directives : Nat → Bool → Build Unit
  | 0, _ => refuse
  | fuel + 1, versioned => do
    match ← peek with
    | some (.directive (.version major _)) =>
      drop
      if versioned || major != 1 then refuse else directives fuel true
    | some (.directive (.tagHandle handle start)) =>
      drop
      let p ← get
      if (p.handles.lookup handle).isSome then refuse
      else
        set { p with handles := (handle, start) :: p.handles }
        directives fuel versioned
    | some (.directive .other) =>
      drop
      directives fuel versioned
    | _ => return

def dropEnds : Nat → Build Unit
  | 0 => return
  | fuel + 1 => do
    if ← drop? .documentEnd then dropEnds fuel else return

/-- What stands in front of a document with its start marked, or the end of the text. -/
def startsMarked : Option Token → Bool
  | some (.directive _) | some .documentStart | none => true
  | _ => false

/-- The content of a document is over before it began. -/
def isOutside (token : Option Token) : Bool := startsMarked token || token == some .documentEnd

/-- The document with its start marked, if there is one. -/
def markedDocument (fuel : Nat) : Build (Option Node) := do
  if (← peek).isNone then return none
  else
    directives fuel false
    modify fun p => { p with handles := p.handles ++ standardHandles }
    expect .documentStart
    if isOutside (← peek) then return some .empty else return some (← node fuel .block)

def document (fuel : Nat) : Build (Option Node) := do
  let found ← if startsMarked (← peek) then markedDocument fuel else do
    modify fun p => { p with handles := standardHandles }
    pure (some (← node fuel .block))
  dropEnds fuel
  if (← peek).isSome then refuse else return found

end Build

def nestingLimit : Nat := 485

def nodeOf? (text : List Char) : Except Fault (Option Node) := do
  let ⟨found, ending⟩ := tokens text
  let (node, _) ← (Build.document (4 * found.length + 8)).run ⟨found, ending, [], [], nestingLimit⟩
  .ok node

end Clickpath.Yaml
