import Clickpath.Chars.Digit
import Clickpath.Chars.Search

/-! # Reading written texts back

What a reader needs to know of a written text: where a row of characters of one class ends, which
number a numeral denotes, what stands behind a leading part, and where the parts between separators
are.
-/

namespace Clickpath.Chars

/-! ## Rows of characters -/

theorem takeWhile_append_cons {class? : Char → Bool} {row rest : List Char} {stop : Char}
    (hrow : row.all class? = true) (hstop : class? stop = false) :
    (row ++ stop :: rest).takeWhile class? = row := by
  rw [List.takeWhile_append_of_pos (List.all_eq_true.mp hrow), List.takeWhile_cons_of_neg
    (by rw [hstop]; exact Bool.false_ne_true), List.append_nil]

theorem dropWhile_append_cons {class? : Char → Bool} {row rest : List Char} {stop : Char}
    (hrow : row.all class? = true) (hstop : class? stop = false) :
    (row ++ stop :: rest).dropWhile class? = stop :: rest := by
  rw [List.dropWhile_append_of_pos (List.all_eq_true.mp hrow), List.dropWhile_cons_of_neg
    (by rw [hstop]; exact Bool.false_ne_true)]

/-- A row ends in front of what is no character of it, or with the text. -/
theorem span_append {class? : Char → Bool} {row rest : List Char} (hrow : row.all class? = true)
    (hrest : ∀ c ∈ rest.head?, class? c = false) :
    (row ++ rest).takeWhile class? = row ∧ (row ++ rest).dropWhile class? = rest := by
  cases rest with
  | nil =>
      have hall := List.all_eq_true.mp hrow
      rw [List.takeWhile_append_of_pos hall, List.dropWhile_append_of_pos hall]
      exact ⟨List.append_nil row, rfl⟩
  | cons c rest =>
      exact ⟨takeWhile_append_cons hrow (hrest c rfl), dropWhile_append_cons hrow (hrest c rfl)⟩

/-- Two rows with something else behind them are the same if the texts are. -/
theorem append_cons_inj {class? : Char → Bool} {row row' rest rest' : List Char} {stop stop' : Char}
    (hrow : row.all class? = true) (hrow' : row'.all class? = true) (hstop : class? stop = false)
    (hstop' : class? stop' = false) (h : row ++ stop :: rest = row' ++ stop' :: rest') :
    row = row' ∧ stop :: rest = stop' :: rest' := by
  constructor
  · rw [← takeWhile_append_cons hrow hstop, h, takeWhile_append_cons hrow' hstop']
  · rw [← dropWhile_append_cons hrow hstop, h, dropWhile_append_cons hrow' hstop']

/-! ## Numerals -/

theorem isAsciiDigit_of_isDigit {c : Char} (h : c.isDigit = true) : isAsciiDigit c = true := by
  simp only [Char.isDigit, Bool.and_eq_true, decide_eq_true_eq] at h
  simp only [isAsciiDigit, Bool.and_eq_true, decide_eq_true_eq]
  exact ⟨h.1, h.2⟩

/-- A numeral is a row of digits. -/
theorem all_isAsciiDigit_repr (n : Nat) : n.repr.toList.all isAsciiDigit = true := by
  rw [Nat.toList_repr, List.all_eq_true]
  intro c hc
  exact isAsciiDigit_of_isDigit (Nat.isDigit_of_mem_toDigits (by decide) (by decide) hc)

theorem repr_toList_ne_nil (n : Nat) : n.repr.toList ≠ [] := by
  rw [Nat.toList_repr]
  exact Nat.toDigits_ne_nil

/-- A numeral denotes the number for which it was written. -/
theorem decimalNumber_repr (n : Nat) : decimalNumber n.repr.toList = n := by
  have hfold : decimalNumber n.repr.toList = Nat.ofDigitChars 10 n.repr.toList 0 := by
    rw [Nat.ofDigitChars_eq_foldl, decimalNumber]
    congr 1
    funext total digit
    rw [Nat.mul_comm]
    rfl
  rw [hfold, Nat.toList_repr]
  exact Nat.ofDigitChars_toDigits (by decide) (by decide)

/-- Nothing but a digit can be at the start of a numeral. -/
theorem repr_append_ne_cons (n : Nat) {mark : Char} (hmark : isAsciiDigit mark = false)
    (s rest : List Char) : n.repr.toList ++ s ≠ mark :: rest := by
  intro h
  have hdigits := List.all_eq_true.mp (all_isAsciiDigit_repr n)
  cases hchars : n.repr.toList with
  | nil => exact repr_toList_ne_nil n hchars
  | cons digit digits =>
      rw [hchars] at h hdigits
      obtain ⟨rfl, _⟩ := List.cons.inj h
      rw [hdigits digit List.mem_cons_self] at hmark
      cases hmark

/-- Where a numeral ends its number is known. -/
theorem repr_append_cons_inj {n m : Nat} {rest rest' : List Char} {stop stop' : Char}
    (hstop : isAsciiDigit stop = false) (hstop' : isAsciiDigit stop' = false)
    (h : n.repr.toList ++ stop :: rest = m.repr.toList ++ stop' :: rest') :
    n = m ∧ stop :: rest = stop' :: rest' := by
  obtain ⟨hdigits, hrest⟩ := append_cons_inj (all_isAsciiDigit_repr n) (all_isAsciiDigit_repr m)
    hstop hstop' h
  exact ⟨by rw [← decimalNumber_repr n, hdigits, decimalNumber_repr], hrest⟩

theorem length_hexDigits (width n : Nat) : (hexDigits width n).length = width := by
  induction width generalizing n with
  | zero => rfl
  | succ width ih => rw [hexDigits, List.length_append, ih, List.length_singleton]

theorem hexValue?_hexDigit {n : Nat} (hn : n < 16) : hexValue? (hexDigit n) = some n := by
  have hall : ∀ n : Fin 16, hexValue? (hexDigit n) = some n.val := by decide
  exact hall ⟨n, hn⟩

/-- A hexadecimal numeral is a row of hexadecimal digits. -/
theorem isHexDigit_of_mem_hexDigits {width n : Nat} {c : Char} (hc : c ∈ hexDigits width n) :
    isHexDigit c = true := by
  induction width generalizing n with
  | zero => cases hc
  | succ width ih =>
      rcases List.mem_append.mp hc with hc | hc
      · exact ih hc
      · rw [List.mem_singleton.mp hc, isHexDigit, hexValue?_hexDigit (Nat.mod_lt _ (by decide))]
        rfl

theorem all_isHexDigit_hexDigits (width n : Nat) : (hexDigits width n).all isHexDigit = true :=
  List.all_eq_true.mpr fun _ hc => isHexDigit_of_mem_hexDigits hc

/-- A hexadecimal numeral denotes what fits into its width. -/
theorem hexNumber_hexDigits (width n : Nat) :
    hexNumber (hexDigits width n) = n % Nat.pow 16 width := by
  induction width generalizing n with
  | zero => exact (Nat.mod_one n).symm
  | succ width ih =>
      have hlast : hexNumber (hexDigits (width + 1) n) =
          hexNumber (hexDigits width (n / 16)) * 16 + n % 16 := by
        rw [hexDigits, hexNumber, List.foldl_append, ← hexNumber, List.foldl_cons, List.foldl_nil,
          hexValue?_hexDigit (Nat.mod_lt _ (by decide)), Option.getD_some]
      have hpower : Nat.pow 16 (width + 1) = 16 * Nat.pow 16 width := Nat.mul_comm _ _
      rw [hlast, ih, hpower, Nat.mod_mul, Nat.mul_comm, Nat.add_comm]

/-- A number that fits into the width is denoted by its numeral. -/
theorem hexNumber_hexDigits_of_lt {width n : Nat} (hn : n < Nat.pow 16 width) :
    hexNumber (hexDigits width n) = n := by
  rw [hexNumber_hexDigits, Nat.mod_eq_of_lt hn]

/-! ## Leading parts -/

theorem after?_append {α : Type} [BEq α] [LawfulBEq α] (lead s : List α) :
    after? lead (lead ++ s) = some s := by
  induction lead with
  | nil => cases s <;> rfl
  | cons c lead ih => rw [List.cons_append, after?, if_pos (beq_self_eq_true c), ih]

/-! ## Separators -/

theorem splitOn_ne_nil (separator : Char) (s : List Char) : splitOn separator s ≠ [] := by
  cases s with
  | nil => exact List.cons_ne_nil _ _
  | cons c rest =>
      rw [splitOn]
      split
      next => exact List.cons_ne_nil _ _
      next => split <;> exact List.cons_ne_nil _ _

/-- There is one part more than there are separators. -/
theorem length_splitOn (separator : Char) (s : List Char) :
    (splitOn separator s).length = s.count separator + 1 := by
  induction s with
  | nil => rfl
  | cons c rest ih =>
      rw [splitOn, List.count_cons]
      cases hc : c == separator with
      | true => rw [if_pos rfl, if_pos rfl, List.length_cons, ih]
      | false =>
          rw [if_neg Bool.false_ne_true, if_neg Bool.false_ne_true]
          cases hparts : splitOn separator rest with
          | nil => exact absurd hparts (splitOn_ne_nil separator rest)
          | cons part parts =>
              rw [hparts] at ih
              exact ih

theorem splitOn_of_notMem {separator : Char} {part : List Char} (hpart : separator ∉ part) :
    splitOn separator part = [part] := by
  induction part with
  | nil => rfl
  | cons c part ih =>
      rw [List.mem_cons, not_or] at hpart
      have hc : (c == separator) = false := beq_eq_false_iff_ne.mpr (Ne.symm hpart.1)
      rw [splitOn, hc, if_neg Bool.false_ne_true, ih hpart.2]

/-- A text is cut at its separator wherever the separator stands. -/
theorem splitOn_append_separator (separator : Char) (s rest : List Char) :
    splitOn separator (s ++ separator :: rest) = splitOn separator s ++ splitOn separator rest := by
  induction s with
  | nil => simp [splitOn]
  | cons c s ih =>
      rw [List.cons_append, splitOn, splitOn, ih]
      split
      next => rfl
      next =>
        cases hparts : splitOn separator s with
        | nil => exact absurd hparts (splitOn_ne_nil separator s)
        | cons part parts => rfl

/-- The parts with the separator between them are the whole text. -/
theorem intercalate_splitOn (separator : Char) (s : List Char) :
    [separator].intercalate (splitOn separator s) = s := by
  induction s with
  | nil => rfl
  | cons c s ih =>
      rw [splitOn]
      cases hparts : splitOn separator s with
      | nil => exact absurd hparts (splitOn_ne_nil separator s)
      | cons part parts =>
          rw [hparts] at ih
          split
          next hc =>
            rw [List.intercalate_cons_cons, ih, beq_iff_eq.mp hc]
            rfl
          next =>
            cases parts with
            | nil => simpa using ih
            | cons next parts =>
                rw [List.intercalate_cons_cons] at ih ⊢
                rw [← ih]
                rfl

/-- The first part ends at the first separator. -/
theorem splitOn_append_cons {separator : Char} {part : List Char} (rest : List Char)
    (hpart : separator ∉ part) :
    splitOn separator (part ++ separator :: rest) = part :: splitOn separator rest := by
  rw [splitOn_append_separator, splitOn_of_notMem hpart]
  rfl

/-- What holds no separator is added to the last part. -/
theorem splitOn_append {separator : Char} {ending : List Char} (hending : separator ∉ ending)
    (s : List Char) : ∃ front last, splitOn separator s = front ++ [last] ∧
      splitOn separator (s ++ ending) = front ++ [last ++ ending] := by
  induction s with
  | nil => exact ⟨[], [], rfl, splitOn_of_notMem hending⟩
  | cons c s ih =>
      obtain ⟨front, last, hs, hwhole⟩ := ih
      rw [List.cons_append, splitOn, splitOn, hs, hwhole]
      split
      next => exact ⟨[] :: front, last, rfl, rfl⟩
      next =>
        cases front with
        | nil => exact ⟨[], c :: last, rfl, rfl⟩
        | cons first front => exact ⟨(c :: first) :: front, last, rfl, rfl⟩

/-- A part lies between separators and is of the text. -/
theorem of_mem_splitOn {separator : Char} {s part : List Char}
    (hpart : part ∈ splitOn separator s) : separator ∉ part ∧ ∀ c ∈ part, c ∈ s := by
  induction s generalizing part with
  | nil =>
      rw [List.mem_singleton.mp hpart]
      exact ⟨List.not_mem_nil, List.forall_mem_nil _⟩
  | cons c s ih =>
      have hkept : ∀ part ∈ splitOn separator s, separator ∉ part ∧ ∀ d ∈ part, d ∈ c :: s :=
        fun part hmem => ⟨(ih hmem).1, fun d hd => List.mem_cons_of_mem _ ((ih hmem).2 d hd)⟩
      rw [splitOn] at hpart
      cases hc : c == separator with
      | true =>
          rw [hc, if_pos rfl] at hpart
          rcases List.mem_cons.mp hpart with rfl | hpart
          · exact ⟨List.not_mem_nil, List.forall_mem_nil _⟩
          · exact hkept part hpart
      | false =>
          rw [hc, if_neg Bool.false_ne_true] at hpart
          cases hparts : splitOn separator s with
          | nil => exact absurd hparts (splitOn_ne_nil separator s)
          | cons first parts =>
              rw [hparts] at hpart hkept
              rcases List.mem_cons.mp hpart with rfl | hpart
              · obtain ⟨hfirst, hmem⟩ := hkept first List.mem_cons_self
                refine ⟨?_, List.forall_mem_cons.mpr ⟨List.mem_cons_self, hmem⟩⟩
                rw [List.mem_cons, not_or]
                exact ⟨fun h => by simp [h] at hc, hfirst⟩
              · exact hkept part (List.mem_cons_of_mem _ hpart)

end Clickpath.Chars
