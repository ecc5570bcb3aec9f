import Mathlib.Data.List.Forall2
import Clickpath.Proofs.Chars.Words
import Clickpath.Proofs.Script.Brackets
import Clickpath.Proofs.Script.ClosedTexts
import Clickpath.Script.Emitter

/-! # Lines of scripts

Two texts are alike if they are closed and have the same skeleton. The line of a statement is alike
to the one without the texts of its literals, and the label of a step stays inside of a comment.
-/

namespace Clickpath.Script

open Dialect

/-! ## Alike texts -/

/-- Two closed texts differ in literals and comments only. -/
structure Dialect.Alike (l : Dialect) (s t : List Char) : Prop where
  left : l.Closed s
  right : l.Closed t
  skeleton_eq : l.skeleton s = l.skeleton t

namespace Dialect.Alike

variable {l : Dialect} {s t u : List Char}

theorem of_closed (hs : l.Closed s) : l.Alike s s := ⟨hs, hs, rfl⟩

theorem symm (h : l.Alike s t) : l.Alike t s := ⟨h.right, h.left, h.skeleton_eq.symm⟩

theorem trans (hst : l.Alike s t) (htu : l.Alike t u) : l.Alike s u :=
  ⟨hst.left, htu.right, hst.skeleton_eq.trans htu.skeleton_eq⟩

theorem append {s' t' : List Char} (h : l.Alike s t) (h' : l.Alike s' t') :
    l.Alike (s ++ s') (t ++ t') :=
  ⟨h.left.append h'.left, h.right.append h'.right,
    by rw [h.left, h.right, h.skeleton_eq, h'.skeleton_eq]⟩

end Dialect.Alike

/-! ## Lines -/

def ended (line : String) : List Char := line.toList ++ ['\n']

def unlines (lines : List String) : List Char := lines.flatMap ended

theorem unlines_append (first second : List String) :
    unlines (first ++ second) = unlines first ++ unlines second :=
  List.flatMap_append

theorem unlines_cons (line : String) (rest : List String) :
    unlines (line :: rest) = ended line ++ unlines rest :=
  List.flatMap_cons

/-- Lines are alike as a whole if they are alike one by one. -/
theorem alike_unlines {l : Dialect} {first second : List String}
    (h : List.Forall₂ (fun line other => l.Alike (ended line) (ended other)) first second) :
    l.Alike (unlines first) (unlines second) := by
  induction h with
  | nil => exact .of_closed l.closed_nil
  | cons hline _ ih =>
      rw [unlines_cons, unlines_cons]
      exact hline.append ih

/-- A script is the lines of which it is made. -/
theorem toList_emit (e : Emitter) {test : Test} (hlines : e.lines test ≠ []) :
    (e.emit test).toList = unlines (e.lines test) := by
  rw [Emitter.emit, String.toList_append]
  generalize e.lines test = lines at hlines
  induction lines with
  | nil => exact absurd rfl hlines
  | cons line rest ih =>
      cases rest with
      | nil =>
          rw [String.intercalate_singleton, unlines, List.flatMap_singleton]
          rfl
      | cons next rest =>
          rw [String.intercalate_cons_cons, String.toList_append, String.toList_append,
            List.append_assoc, ih (List.cons_ne_nil _ _), unlines_cons line]
          rfl

/-! ## Statements -/

def Piece.hollow : Piece → Piece
  | .code text => .code text
  | .literal _ => .literal ""

def Statement.hollow (s : Statement) : Statement := s.map Piece.hollow

def Emitter.line (e : Emitter) (s : Statement) : String :=
  e.indent ++ Statement.write e.asciiLiterals s

theorem alike_piece {l : Dialect} {ascii : Bool} {p : Piece}
    (hp : l.Closed (p.write ascii).toList) :
    l.Alike (p.write ascii).toList (p.hollow.write ascii).toList := by
  cases p with
  | code text => exact .of_closed hp
  | literal text =>
      have hfull := closed_literal l ascii text
      have hempty := closed_literal l ascii ""
      exact ⟨hfull.1, hempty.1, hfull.2.trans hempty.2.symm⟩

theorem toList_write_cons (ascii : Bool) (p : Piece) (s : Statement) :
    (Statement.write ascii (p :: s)).toList = (p.write ascii).toList ++ (s.write ascii).toList := by
  rw [Statement.write, List.map_cons, String.join_cons, String.toList_append]
  rfl

/-- A statement of closed parts is alike to itself without the texts of its literals. -/
theorem alike_write {l : Dialect} {ascii : Bool} {s : Statement}
    (hs : ∀ p ∈ s, l.Closed (p.write ascii).toList) :
    l.Alike (s.write ascii).toList (s.hollow.write ascii).toList := by
  induction s with
  | nil => exact .of_closed l.closed_nil
  | cons p s ih =>
      have hp := alike_piece (hs p List.mem_cons_self)
      rw [Statement.hollow, List.map_cons, toList_write_cons, toList_write_cons]
      exact hp.append (ih fun other hother => hs other (List.mem_cons_of_mem _ hother))

theorem isPlain_indent {indent : String} (hindent : indent.toList.all (· == ' ') = true) :
    indent.toList.all isPlain = true := by
  rw [List.all_eq_true]
  intro c hc
  rw [beq_iff_eq.mp (List.all_eq_true.mp hindent c hc)]
  decide

theorem toList_line (e : Emitter) (s : Statement) :
    ended (e.line s) = e.indent.toList ++ (s.write e.asciiLiterals).toList ++ ['\n'] := by
  rw [ended, Emitter.line, String.toList_append]

/-- The line of a statement of closed parts is alike to that without the texts of its literals. -/
theorem alike_line {l : Dialect} {e : Emitter} (hindent : e.indent.toList.all (· == ' ') = true)
    {s : Statement} (hs : ∀ p ∈ s, l.Closed (p.write e.asciiLiterals).toList) :
    l.Alike (ended (e.line s)) (ended (e.line s.hollow)) := by
  have hspaces := Alike.of_closed (closed_plain l (isPlain_indent hindent)).1
  have hend := Alike.of_closed l.closed_lineEnd.1
  rw [toList_line, toList_line]
  exact (hspaces.append (alike_write hs)).append hend

/-! ## Plain statements -/

/-- A part of a statement is a literal, or code that opens nothing. -/
def Piece.isPlain : Piece → Bool
  | .code text => text.toList.all Dialect.isPlain
  | .literal _ => true

/-- What is left of a plain part of a statement. -/
def Piece.left (l : Dialect) : Piece → List Nat
  | .code text => text.toList.flatMap l.codes
  | .literal _ => [quote, quote]

theorem closed_of_isPlain (l : Dialect) (ascii : Bool) {p : Piece} (hp : p.isPlain = true) :
    l.Closed (p.write ascii).toList ∧ l.skeleton (p.write ascii).toList = p.left l := by
  cases p with
  | code text => exact closed_plain l hp
  | literal text => exact closed_literal l ascii text

theorem alike_line_of_isPlain {l : Dialect} {e : Emitter}
    (hindent : e.indent.toList.all (· == ' ') = true) {s : Statement}
    (hs : s.all Piece.isPlain = true) :
    l.Alike (ended (e.line s)) (ended (e.line s.hollow)) :=
  alike_line hindent fun p hp =>
    (closed_of_isPlain l e.asciiLiterals (List.all_eq_true.mp hs p hp)).1

/-- A plain statement ends in code, and its literals are left without their texts. -/
theorem closed_write_of_isPlain (l : Dialect) (ascii : Bool) {s : Statement}
    (hs : s.all Piece.isPlain = true) : l.Closed (s.write ascii).toList ∧
      l.skeleton (s.write ascii).toList = s.flatMap (Piece.left l) := by
  induction s with
  | nil => exact ⟨l.closed_nil, by cases l <;> rfl⟩
  | cons p s ih =>
      rw [List.all_cons, Bool.and_eq_true] at hs
      obtain ⟨hclosed, hleft⟩ := closed_of_isPlain l ascii hs.1
      obtain ⟨hrest, hrestLeft⟩ := ih hs.2
      rw [toList_write_cons]
      exact ⟨hclosed.append hrest, by rw [hclosed, hleft, hrestLeft, List.flatMap_cons]⟩

/-- Spaces make no difference to a reader of brackets. -/
theorem pending_indent (l : Dialect) {indent : String}
    (hindent : indent.toList.all (· == ' ') = true) (awaited : List Nat) :
    Brackets.pending awaited (indent.toList.flatMap l.codes) = some awaited := by
  apply Brackets.pending_of_balanced
  apply Brackets.balanced_of_forall
  intro code hcode
  obtain ⟨c, hc, hcode⟩ := List.mem_flatMap.mp hcode
  rw [beq_iff_eq.mp (List.all_eq_true.mp hindent c hc), codes_of_lt l (by decide),
    List.mem_singleton] at hcode
  rw [hcode]
  decide

/-- In lines of plain statements, brackets are those of the statements. -/
theorem pending_lines {l : Dialect} {e : Emitter}
    (hindent : e.indent.toList.all (· == ' ') = true) {statements : List Statement}
    (hplain : statements.all (fun s => s.all Piece.isPlain) = true) (awaited : List Nat) :
    Brackets.pending awaited (l.skeleton (unlines (statements.map e.line))) =
      Brackets.pending awaited (statements.flatMap fun s => s.flatMap (Piece.left l)) := by
  induction statements generalizing awaited with
  | nil => exact congrArg (Brackets.pending awaited) l.skeleton_nil
  | cons s rest ih =>
      rw [List.all_cons, Bool.and_eq_true] at hplain
      obtain ⟨hspaces, hspacesLeft⟩ := closed_plain l (isPlain_indent hindent)
      obtain ⟨hwrite, hwriteLeft⟩ := closed_write_of_isPlain l e.asciiLiterals hplain.1
      have hend := l.closed_lineEnd
      have hendPending : ∀ awaited, Brackets.pending awaited [lineEnd] = some awaited :=
        Brackets.pending_of_balanced (by decide)
      -- Neither the indentation of a line nor its end changes what is waited for.
      have hsplit : l.skeleton (unlines ((s :: rest).map e.line)) =
          e.indent.toList.flatMap l.codes ++ s.flatMap (Piece.left l) ++ [lineEnd] ++
            l.skeleton (unlines (rest.map e.line)) := by
        rw [List.map_cons, unlines_cons, toList_line,
          (hspaces.append hwrite).append hend.1 _, hspaces.append hwrite _, hspaces _, hspacesLeft,
          hwriteLeft, hend.2]
      rw [hsplit, Brackets.pending_append, Brackets.pending_append, Brackets.pending_append,
        pending_indent l hindent, Option.bind_some, List.flatMap_cons, Brackets.pending_append,
        Option.bind_assoc]
      congr 1
      funext between
      rw [hendPending, Option.bind_some, ih hplain.2]

theorem balanced_lines {l : Dialect} {e : Emitter}
    (hindent : e.indent.toList.all (· == ' ') = true) {statements : List Statement}
    (hplain : statements.all (fun s => s.all Piece.isPlain) = true)
    (hleft : Brackets.balanced (statements.flatMap fun s => s.flatMap (Piece.left l)) = true) :
    Brackets.balanced (l.skeleton (unlines (statements.map e.line))) = true := by
  rw [Brackets.balanced, pending_lines hindent hplain]
  exact hleft

/-! ## Comments -/

/-- Words joined by spaces have no other blanks, and only characters of the text besides. -/
theorem mem_joinedWords {s : List Char} {c : Char}
    (hc : c ∈ (" ".intercalate ((Chars.words Chars.isBlank s).map String.ofList)).toList) :
    c = ' ' ∨ c ∈ s ∧ Chars.isBlank c = false := by
  have hwords : ∀ word ∈ Chars.words Chars.isBlank s, ∀ c ∈ word,
      c ∈ s ∧ Chars.isBlank c = false :=
    fun word hword c hc => Chars.of_mem_words hword hc
  generalize Chars.words Chars.isBlank s = words at hc hwords
  induction words with
  | nil =>
      rw [List.map_nil, String.intercalate_nil] at hc
      cases hc
  | cons word rest ih =>
      have hword := hwords word List.mem_cons_self
      cases rest with
      | nil =>
          rw [List.map_singleton, String.intercalate_singleton, String.toList_ofList] at hc
          exact Or.inr (hword c hc)
      | cons next rest =>
          rw [List.map_cons, List.map_cons, String.intercalate_cons_cons, ← List.map_cons,
            String.toList_append, String.toList_append, String.toList_ofList, List.append_assoc,
            List.mem_append, List.mem_append] at hc
          rcases hc with hc | hc | hc
          · exact Or.inr (hword c hc)
          · exact Or.inl (List.mem_singleton.mp hc)
          · exact ih hc fun other hother => hwords other (List.mem_cons_of_mem _ hother)

theorem newline_notMem_joinedWords (s : List Char) :
    '\n' ∉ (" ".intercalate ((Chars.words Chars.isBlank s).map String.ofList)).toList := by
  intro hmem
  rcases mem_joinedWords hmem with h | h
  · exact absurd h (by decide)
  · exact absurd h.2 (by decide)

/-- The label of a step neither ends a line nor opens a letter code. -/
theorem notMem_stepLabel (step : Step) :
    '\n' ∉ (stepLabel step).toList ∧ '\\' ∉ (stepLabel step).toList := by
  have hkind : '\n' ∉ step.kind.label.toList ∧ '\\' ∉ step.kind.label.toList := by
    cases step.kind <;> decide
  rw [stepLabel]
  split
  next => exact hkind
  next =>
    refine ⟨newline_notMem_joinedWords _, ?_⟩
    intro hmem
    rcases mem_joinedWords hmem with h | h
    · exact absurd h (by decide)
    · exact absurd (List.mem_filter.mp h.1).2 (by decide)

end Clickpath.Script
