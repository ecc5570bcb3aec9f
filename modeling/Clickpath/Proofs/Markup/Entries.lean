import Clickpath.Markup.Builder

/-! # What events leave behind

An event starts an element, brings a text, or brings nothing. A tree, read in document order, is a
row of such entries too. However the tags are nested, closed or left open, the tree that events
build has the entries of the events, in their order: nothing is lost, doubled or moved.
-/

namespace Clickpath.Markup

/-- What can be found in a tree in document order: the start of an element, or a text. -/
inductive Entry where
  | start (tag : String) (attributes : List (String × String))
  | text (data : String)
  deriving DecidableEq, Repr

namespace Entry

def start? : Entry → Option (String × List (String × String))
  | start tag attributes => some (tag, attributes)
  | text _ => none

def text? : Entry → Option String
  | start _ _ => none
  | text data => some data

def starts (entries : List Entry) : List (String × List (String × String)) :=
  entries.filterMap start?

def joined (entries : List Entry) : String := String.join (entries.filterMap text?)

@[simp] theorem starts_nil : starts [] = [] := rfl

@[simp] theorem starts_cons_start (tag : String) (attributes : List (String × String))
    (rest : List Entry) :
    starts (start tag attributes :: rest) = (tag, attributes) :: starts rest :=
  rfl

@[simp] theorem starts_cons_text (data : String) (rest : List Entry) :
    starts (text data :: rest) = starts rest :=
  rfl

@[simp] theorem starts_append (first second : List Entry) :
    starts (first ++ second) = starts first ++ starts second :=
  List.filterMap_append

@[simp] theorem joined_nil : joined [] = "" := rfl

@[simp] theorem joined_cons_start (tag : String) (attributes : List (String × String))
    (rest : List Entry) : joined (start tag attributes :: rest) = joined rest :=
  rfl

@[simp] theorem joined_cons_text (data : String) (rest : List Entry) :
    joined (text data :: rest) = data ++ joined rest := by
  simp [joined, text?]

@[simp] theorem joined_append (first second : List Entry) :
    joined (first ++ second) = joined first ++ joined second := by
  simp [joined]

end Entry

/-- The entry that an event brings, if it brings one. -/
def Event.entry? : Event → Option Entry
  | .opened tag attributes => some (.start tag attributes)
  | .emptied tag attributes => some (.start tag attributes)
  | .closed _ => none
  | .text data => some (.text data)

namespace Node

mutual

def entries : Node → List Entry
  | text data => [.text data]
  | element tag attributes content => .start tag attributes :: entriesOf content

def entriesOf : List Node → List Entry
  | [] => []
  | node :: rest => entries node ++ entriesOf rest

end

@[simp] theorem entriesOf_nil : entriesOf [] = [] := by rw [entriesOf]

@[simp] theorem entriesOf_cons (node : Node) (rest : List Node) :
    entriesOf (node :: rest) = entries node ++ entriesOf rest := by rw [entriesOf]

@[simp] theorem entries_text (data : String) : entries (.text data) = [.text data] := by
  rw [entries]

@[simp] theorem entries_element (tag : String) (attributes : List (String × String))
    (content : List Node) :
    entries (.element tag attributes content) = .start tag attributes :: entriesOf content := by
  rw [entries]

@[simp] theorem entriesOf_append (first second : List Node) :
    entriesOf (first ++ second) = entriesOf first ++ entriesOf second := by
  induction first with
  | nil => simp
  | cons node first ih => simp [ih]

mutual

/-- The text of a node is that of its entries. -/
theorem joined_entries : (node : Node) → Entry.joined (entries node) = allText node
  | .text data => by simp [allText]
  | .element tag attributes content => by
      rw [entries_element, Entry.joined_cons_start, joined_entriesOf content, allText]

theorem joined_entriesOf : (nodes : List Node) → Entry.joined (entriesOf nodes) = allTextOf nodes
  | [] => by simp [allTextOf]
  | node :: rest => by
      rw [entriesOf_cons, Entry.joined_append, joined_entries node, joined_entriesOf rest,
        allTextOf]

end

end Node

namespace Builder

/-- The entries of open elements and of what they hold so far, the innermost element given first. -/
def entriesOfOpen : List OpenElement → List Entry
  | [] => []
  | e :: outer =>
      entriesOfOpen outer ++ .start e.tag e.attributes :: Node.entriesOf e.content.reverse

/-- The entries of a tree in the making. -/
def entries (b : Builder) : List Entry := Node.entriesOf b.top.reverse ++ entriesOfOpen b.stack

/-- A node that is placed is the last one in document order. -/
theorem entries_append (b : Builder) (node : Node) :
    (b.append node).entries = b.entries ++ node.entries := by
  obtain ⟨stack, top⟩ := b
  cases stack with
  | nil => simp [append, entries, entriesOfOpen]
  | cons e outer => simp [append, entries, entriesOfOpen]

theorem entries_closeInnermost (b : Builder) : b.closeInnermost.entries = b.entries := by
  obtain ⟨stack, top⟩ := b
  cases stack with
  | nil => rfl
  | cons e outer =>
      rw [closeInnermost, entries_append]
      simp [entries, entriesOfOpen, OpenElement.toNode]

theorem entries_closeMany (count : Nat) (b : Builder) :
    (closeMany count b).entries = b.entries := by
  induction count generalizing b with
  | zero => rfl
  | succ count ih => rw [closeMany, ih, entries_closeInnermost]

theorem entries_close (b : Builder) (tag : String) : (b.close tag).entries = b.entries := by
  rw [close]
  split
  next depth _ => exact entries_closeMany (depth + 1) b
  next => rfl

/-- An event adds its own entry, behind all others. -/
theorem entries_feed (b : Builder) (event : Event) :
    (b.feed event).entries = b.entries ++ event.entry?.toList := by
  cases event with
  | opened tag attributes =>
      rw [feed]
      split
      next => simp [entries_append, Event.entry?]
      next => simp [entries, entriesOfOpen, Event.entry?]
  | emptied tag attributes => simp [feed, entries_append, Event.entry?]
  | closed tag => simp [feed, entries_close, Event.entry?]
  | text data => simp [feed, entries_append, Event.entry?]

/-- Events add their entries behind those that are there, in order. -/
theorem entries_feedAll (b : Builder) (events : List Event) :
    (b.feedAll events).entries = b.entries ++ events.filterMap Event.entry? := by
  induction events generalizing b with
  | nil => simp [feedAll]
  | cons event rest ih =>
      have hstep : b.feedAll (event :: rest) = (b.feed event).feedAll rest := rfl
      rw [hstep, ih, entries_feed, List.append_assoc]
      cases hentry : event.entry? <;> simp [hentry]

/-- Closing one element leaves one less open. -/
theorem length_stack_closeInnermost (b : Builder) :
    b.closeInnermost.stack.length = b.stack.length - 1 := by
  obtain ⟨stack, top⟩ := b
  cases stack with
  | nil => rfl
  | cons e outer => cases outer <;> simp [closeInnermost, append]

theorem length_stack_closeMany (count : Nat) (b : Builder) :
    (closeMany count b).stack.length = b.stack.length - count := by
  induction count generalizing b with
  | zero => rfl
  | succ count ih =>
      rw [closeMany, ih, length_stack_closeInnermost]
      omega

/-- Nothing stays open when all elements are closed. -/
theorem closeMany_length (b : Builder) :
    closeMany b.stack.length b = ⟨[], b.nodes.reverse⟩ := by
  have hstack : (closeMany b.stack.length b).stack = [] := by
    rw [← List.length_eq_zero_iff, length_stack_closeMany]
    omega
  cases hclosed : closeMany b.stack.length b with
  | mk stack top =>
      rw [hclosed] at hstack
      obtain rfl : stack = [] := hstack
      simp [nodes, hclosed]

/-- The finished tree has the entries of the tree in the making. -/
theorem entriesOf_nodes (b : Builder) : Node.entriesOf b.nodes = b.entries := by
  rw [← entries_closeMany b.stack.length b, closeMany_length]
  simp [entries, entriesOfOpen]

end Builder

/-- The tree that events build has their entries, in their order. -/
theorem entriesOf_nodesOf (events : List Event) :
    Node.entriesOf (nodesOf events) = events.filterMap Event.entry? := by
  rw [nodesOf, Builder.entriesOf_nodes, Builder.entries_feedAll]
  simp [Builder.entries, Builder.entriesOfOpen, Builder.empty]

end Clickpath.Markup
