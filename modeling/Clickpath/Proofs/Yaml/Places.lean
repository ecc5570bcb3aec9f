import Clickpath.Yaml.Scalar
import Clickpath.Yaml.Writer

/-! # Moving through a text

Where a reader gets to by passing over characters. What it reads depends on the text that is left,
and the column changes with each character but starts again behind the end of a line.
-/

namespace Clickpath.Yaml

/-- A character that leaves the line and takes one column. -/
def isSteady (c : Char) : Bool := !isBreak c && !isByteOrderMark c

/-- A line end as it is read: only the two separators stay what they are. -/
def unified (c : Char) : Char := if c.toNat == 0x2028 || c.toNat == 0x2029 then c else '\n'

theorem isBreak_of_isTextBreak {c : Char} (hc : isTextBreak c = true) :
    isBreak c = true ∧ c ≠ '\r' := by
  constructor
  · simp only [isTextBreak, Bool.or_eq_true] at hc
    rcases hc with ((hc | hc) | hc) | hc <;> simp [isBreak, hc]
  · rintro rfl
    revert hc
    decide

namespace Cursor

theorem rest_next (c : Cursor) : c.next.rest = c.rest.tail := by
  unfold next
  split
  next h => rw [h, List.tail_nil]
  next ch rest h =>
    rw [h, List.tail_cons]
    split
    · rfl
    · split <;> rfl

theorem rest_skip (c : Cursor) (n : Nat) : (c.skip n).rest = c.rest.drop n := by
  induction n generalizing c with
  | zero => rfl
  | succ n ih => rw [skip, ih, rest_next, List.drop_tail]

theorem rest_takeWhile (c : Cursor) (p : Char → Bool) :
    (c.takeWhile p).2.rest = c.rest.dropWhile p := by
  have hdrop : ((c.rest.takeWhile p) ++ c.rest.dropWhile p).drop (c.rest.takeWhile p).length =
      c.rest.dropWhile p := List.drop_left
  rw [List.takeWhile_append_dropWhile] at hdrop
  rw [takeWhile, rest_skip, hdrop]

theorem next_of_isSteady {c : Cursor} {ch : Char} {rest : List Char} (h : c.rest = ch :: rest)
    (hch : isSteady ch = true) : c.next = ⟨rest, c.index + 1, c.line, c.column + 1⟩ := by
  rw [isSteady, Bool.and_eq_true, Bool.not_eq_true', Bool.not_eq_true'] at hch
  unfold next
  rw [h]
  simp [hch.1, hch.2]

/-- Steady characters are passed over on the line. -/
theorem skip_of_isSteady {c : Cursor} {word rest : List Char} (h : c.rest = word ++ rest)
    (hword : ∀ ch ∈ word, isSteady ch = true) :
    c.skip word.length = ⟨rest, c.index + word.length, c.line, c.column + word.length⟩ := by
  induction word generalizing c with
  | nil =>
      obtain ⟨_, _, _, _⟩ := c
      rw [List.nil_append] at h
      simpa [skip] using h
  | cons ch word ih =>
      rw [List.cons_append] at h
      rw [List.length_cons, skip, next_of_isSteady h (hword ch List.mem_cons_self),
        ih rfl fun other hother => hword other (List.mem_cons_of_mem _ hother)]
      simp [Nat.add_comm, Nat.add_left_comm]

theorem next_of_isTextBreak {c : Cursor} {ch : Char} {rest : List Char} (h : c.rest = ch :: rest)
    (hch : isTextBreak ch = true) : c.next = ⟨rest, c.index + 1, c.line + 1, 0⟩ := by
  obtain ⟨hbreak, hreturn⟩ := isBreak_of_isTextBreak hch
  unfold next
  rw [h]
  simp [hbreak, hreturn]

/-- Each line end is read as one, the two separators as they are. -/
theorem lineBreak?_of_isTextBreak {c : Cursor} {ch : Char} {rest : List Char}
    (h : c.rest = ch :: rest) (hch : isTextBreak ch = true) :
    c.lineBreak? = some (unified ch, c.next) := by
  obtain ⟨hbreak, hreturn⟩ := isBreak_of_isTextBreak hch
  unfold lineBreak?
  rw [h]
  split
  next h' => exact absurd (List.cons.inj h').1 hreturn
  next other _ _ h' =>
    obtain ⟨rfl, _⟩ := List.cons.inj h'
    rw [if_pos hbreak, unified]
  next h' => cases h'

theorem lineBreak?_eq_none {c : Cursor} (h : ∀ ch ∈ c.rest.head?, isBreak ch = false) :
    c.lineBreak? = none := by
  unfold lineBreak?
  split
  next h' => exact absurd (h '\r' (by rw [h']; rfl)) (by decide)
  next ch _ _ h' => rw [if_neg (by rw [h ch (by rw [h']; rfl)]; exact Bool.false_ne_true)]
  next => rfl

theorem not_atBorder {c : Cursor} (h : ∀ ch ∈ c.rest.head?, ch ≠ '-' ∧ ch ≠ '.') :
    c.atBorder = false := by
  unfold atBorder
  split
  next h' => exact absurd rfl (h '-' (by rw [h']; rfl)).1
  next h' => exact absurd rfl (h '.' (by rw [h']; rfl)).2
  next => rfl

end Cursor

end Clickpath.Yaml
