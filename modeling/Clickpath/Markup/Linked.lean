import Clickpath.Markup.Builder

/-! # Linked elements

A browser keeps the elements of a page as objects that are linked both ways: an element knows its
parent, and it keeps a list of its children beside a list of all its content. Here elements have
numbers, the document among them, and are linked in this way while events come in.
-/

namespace Clickpath.Markup

/-- What stands in the content of a linked element: another element, by its number, or a text. -/
inductive Item where
  | element (id : Nat)
  | text (data : String)
  deriving DecidableEq, Repr

def Item.id? : Item → Option Nat
  | element id => some id
  | text _ => none

/-- An element with the number of its parent. Its children are listed once more in its content. -/
structure Cell where
  tag : String
  attributes : List (String × String)
  parent : Option Nat
  children : List Nat
  content : List Item
  deriving DecidableEq, Repr

/-- Linked elements by number, and the numbers of those that are open, the innermost first. -/
structure Linked where
  cells : List Cell
  stack : List Nat
  deriving DecidableEq, Repr

/-! ## Events -/

/-- An event as it comes in: names in any letter case, a name several times, or one without a
value. -/
inductive RawEvent where
  | opened (tag : String) (attributes : List (String × Option String))
  | emptied (tag : String) (attributes : List (String × Option String))
  | closed (tag : String)
  | text (data : String)
  deriving DecidableEq, Repr

/-- Attributes by names in small letters. The last value of a name counts, in the place of the first
one, and a missing value is empty. -/
def namedValues (attributes : List (String × Option String)) : List (String × String) :=
  attributes.foldl (fun found a => enterAttribute found (Text.lower a.1) (a.2.getD "")) []

/-- The event with names in small letters, each of them once. -/
def RawEvent.event : RawEvent → Event
  | opened tag attributes => .opened (Text.lower tag) (namedValues attributes)
  | emptied tag attributes => .emptied (Text.lower tag) (namedValues attributes)
  | closed tag => .closed (Text.lower tag)
  | text data => .text data

namespace Cell

def addChild (c : Cell) (id : Nat) : Cell :=
  { c with children := c.children ++ [id], content := c.content ++ [.element id] }

def addText (c : Cell) (data : String) : Cell := { c with content := c.content ++ [.text data] }

end Cell

namespace Linked

/-- The tag of the document. -/
def documentTag : String := "#document"

/-- The document alone, which is open. -/
def fresh : Linked := ⟨[⟨documentTag, [], none, [], []⟩], [0]⟩

def addElement (l : Linked) (parent : Nat) (tag : String) (attributes : List (String × String)) :
    Linked :=
  { l with
    cells := l.cells.modify parent (·.addChild l.cells.length) ++
      [⟨tag, attributes, some parent, [], []⟩] }

def addText (l : Linked) (parent : Nat) (data : String) : Linked :=
  { l with cells := l.cells.modify parent (·.addText data) }

/-- An element becomes the innermost open one. -/
def push (l : Linked) (id : Nat) : Linked := { l with stack := id :: l.stack }

def hasTag (l : Linked) (tag : String) (id : Nat) : Bool := l.cells[id]?.any fun c => c.tag == tag

/-- Closes the innermost open element with a tag, and all within it. The one at the bottom of the
stack is never closed. -/
def close (l : Linked) (tag : String) : Linked :=
  match l.stack.dropLast.findIdx? (l.hasTag tag) with
  | some depth => { l with stack := l.stack.drop (depth + 1) }
  | none => l

/-- The linked elements after one more event. There must be an open element for what is placed. -/
def feed? (l : Linked) : Event → Option Linked
  | .opened tag attributes => l.stack.head?.map fun top =>
      if voidTags.contains tag then l.addElement top tag attributes
      else (l.addElement top tag attributes).push l.cells.length
  | .emptied tag attributes => l.stack.head?.map fun top => l.addElement top tag attributes
  | .closed tag => some (l.close tag)
  | .text data => l.stack.head?.map fun top => l.addText top data

def feedAll? (l : Linked) (events : List Event) : Option Linked := events.foldlM feed? l

@[simp] theorem cells_push (l : Linked) (id : Nat) : (l.push id).cells = l.cells := rfl

@[simp] theorem stack_push (l : Linked) (id : Nat) : (l.push id).stack = id :: l.stack := rfl

@[simp] theorem feedAll?_nil (l : Linked) : l.feedAll? [] = some l := rfl

theorem feedAll?_cons (l : Linked) (event : Event) (rest : List Event) :
    l.feedAll? (event :: rest) = (l.feed? event).bind fun next => next.feedAll? rest := by
  simp [feedAll?]

theorem feedAll?_append (l : Linked) (first second : List Event) :
    l.feedAll? (first ++ second) = (l.feedAll? first).bind fun next => next.feedAll? second := by
  simp [feedAll?]

end Linked

end Clickpath.Markup
