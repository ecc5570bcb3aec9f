import Clickpath.Moment.Reader
import Clickpath.Proofs.Chars.Reading

/-! # Written moments

A moment is read from its stored form with all its fields, the offset or the lack of one among them.
Each part of a written moment has its own reader, which takes the part off the front and leaves
whatever stands behind.
-/

namespace Clickpath

/-! ## Numerals of a fixed width -/

namespace Binary64

theorem padded_eq (width n : Nat) :
    padded width n = List.replicate (width - n.repr.toList.length) '0' ++ n.repr.toList := by
  rw [Nat.toList_repr]
  rfl

theorem length_padded {width n : Nat} (hn : (Nat.toDigits 10 n).length ≤ width) :
    (padded width n).length = width := by
  simp only [padded, List.length_append, List.length_replicate]
  omega

theorem all_isAsciiDigit_padded (width n : Nat) :
    (padded width n).all Chars.isAsciiDigit = true := by
  rw [padded_eq, List.all_append, Chars.all_isAsciiDigit_repr, Bool.and_true, List.all_eq_true]
  intro c hc
  rw [List.eq_of_mem_replicate hc]
  decide

/-- A number is read back from its digits, whatever zeros stand in front. -/
theorem decimalNumber_padded (width n : Nat) : Chars.decimalNumber (padded width n) = n := by
  have hzeros : ∀ count, (List.replicate count '0').foldl
      (fun total digit => total * 10 + Chars.digitValue digit) 0 = 0 := by
    intro count
    induction count with
    | zero => rfl
    | succ count ih => simpa [List.replicate_succ, Chars.digitValue] using ih
  rw [padded_eq, Chars.decimalNumber, List.foldl_append, hzeros]
  exact Chars.decimalNumber_repr n

end Binary64

namespace Moment

/-- A numeral that fills its width is read up to its end, whatever follows. -/
theorem digits?_padded {width n : Nat} (rest : List Char)
    (hn : (Nat.toDigits 10 n).length ≤ width) :
    digits? width (Binary64.padded width n ++ rest) = some (n, rest) := by
  have hlength := Binary64.length_padded hn
  unfold digits?
  rw [List.take_left' hlength, List.drop_left' hlength]
  simp [hlength, Binary64.all_isAsciiDigit_padded, Binary64.decimalNumber_padded]

theorem digits?_two {n : Nat} (rest : List Char) (hn : n < 100) :
    digits? 2 (two n ++ rest) = some (n, rest) :=
  digits?_padded rest ((Nat.length_toDigits_le_iff (by decide) (by decide)).mpr hn)

theorem mark?_cons (c : Char) (rest : List Char) : mark? c (c :: rest) = some rest := by
  simp [mark?]

/-! ## Date -/

theorem daysInMonth_le (year month : Nat) : daysInMonth year month ≤ 31 := by
  unfold daysInMonth
  split
  · split <;> decide
  · split <;> decide

/-- A date is read back from what is written of it. -/
theorem readDate?_writeDate (m : Moment) (rest : List Char) :
    readDate? (m.writeDate ++ rest) = some ((m.year, m.month, m.day), rest) := by
  obtain ⟨⟨_, hyear⟩, ⟨hfirst, hmonth⟩, ⟨hday, hlast⟩, _⟩ := m.inRange
  have hbound := daysInMonth_le m.year m.month
  unfold readDate? writeDate
  simp only [List.append_assoc, List.cons_append]
  rw [digits?_padded _ ((Nat.length_toDigits_le_iff (by decide) (by decide)).mpr (by omega))]
  simp only [Option.bind_eq_bind, Option.bind_some, mark?_cons]
  rw [digits?_two _ (by omega)]
  simp only [Option.bind_some, mark?_cons]
  rw [digits?_two _ (by omega)]
  simp [hfirst, hmonth, hday, hlast]

/-! ## Time of day -/

/-- The text does not go on with a fraction of a second. -/
def EndsTime (rest : List Char) : Prop :=
  ∀ c ∈ rest.head?, Chars.isAsciiDigit c = false ∧ c ≠ '.' ∧ c ≠ ','

theorem takeWhile_fraction {row rest : List Char} (hrow : row.all Chars.isAsciiDigit = true)
    (hrest : EndsTime rest) : (row ++ rest).takeWhile Chars.isAsciiDigit = row := by
  cases rest with
  | nil =>
      rw [List.takeWhile_append_of_pos (List.all_eq_true.mp hrow), List.takeWhile_nil,
        List.append_nil]
  | cons stop rest => exact Chars.takeWhile_append_cons hrow (hrest stop rfl).1

theorem length_fraction {micro : Nat} (hmicro : micro < 1000000) :
    (Binary64.padded 6 micro).length = 6 :=
  Binary64.length_padded ((Nat.length_toDigits_le_iff (by decide) (by decide)).mpr hmicro)

/-- The digits of a full fraction are its millionths. -/
theorem millionths_padded {micro : Nat} (hmicro : micro < 1000000) :
    millionths (Binary64.padded 6 micro) = micro := by
  have hlength := length_fraction hmicro
  simp [millionths, List.take_of_length_le (Nat.le_of_eq hlength), Binary64.decimalNumber_padded,
    hlength]

theorem readSeconds?_whole {second : Nat} {rest : List Char} (hsecond : second < 60)
    (hrest : EndsTime rest) :
    readSeconds? (':' :: (two second ++ rest)) = some ((second, 0), rest) := by
  simp only [readSeconds?, digits?_two rest (show second < 100 by omega), Option.bind_eq_bind,
    Option.bind_some]
  rw [if_neg (by omega)]
  cases rest with
  | nil => rfl
  | cons c rest => simp [hrest c rfl]

/-- Millionths of a second are read back from their six digits. -/
theorem readSeconds?_fraction {second micro : Nat} {rest : List Char} (hsecond : second < 60)
    (hmicro : micro < 1000000) (hrest : EndsTime rest) :
    readSeconds? (':' :: (two second ++ '.' :: (Binary64.padded 6 micro ++ rest))) =
      some ((second, micro), rest) := by
  have hlength := length_fraction hmicro
  have hrow := takeWhile_fraction (Binary64.all_isAsciiDigit_padded 6 micro) hrest
  have hfull : (Binary64.padded 6 micro).isEmpty = false := by
    rw [List.isEmpty_eq_false_iff_exists_mem]
    exact List.exists_mem_of_length_pos (by omega)
  simp only [readSeconds?, digits?_two _ (show second < 100 by omega), Option.bind_eq_bind,
    Option.bind_some]
  rw [if_neg (by omega)]
  simp [hrow, hfull, millionths_padded hmicro]

/-! ## Offset -/

def writeZone (m : Moment) : List Char :=
  match m.offset with
  | none => []
  | some minutes => if minutes == 0 then ['Z'] else writeOffset minutes

/-- Neither an offset nor the mark of universal time goes on with a fraction. -/
theorem endsTime_writeZone (m : Moment) : EndsTime m.writeZone := by
  intro c hc
  unfold writeZone at hc
  split at hc
  · cases hc
  · split at hc
    · cases hc
      decide
    · unfold writeOffset at hc
      split at hc <;> cases hc <;> decide

theorem readOffsetSize?_two {size : Nat} (hsize : size < 1440) :
    readOffsetSize? (two (size / 60) ++ ':' :: two (size % 60)) = some (size : Int) := by
  unfold readOffsetSize?
  rw [digits?_two _ (by omega)]
  simp only [Option.bind_eq_bind, Option.bind_some, mark?_cons, Option.getD_some]
  rw [← List.append_nil (two (size % 60)), digits?_two _ (by omega)]
  have hhours : size / 60 < 24 := by omega
  have hminutes : size % 60 < 60 := by omega
  simp only [Option.bind_some, hhours, hminutes, decide_true, List.isEmpty_nil, Bool.and_self,
    if_true, Nat.div_add_mod']

theorem readOffset?_plus (s : List Char) : readOffset? ('+' :: s) = (readOffsetSize? s).map some :=
  rfl

theorem readOffset?_minus (s : List Char) :
    readOffset? ('-' :: s) = (readOffsetSize? s).map fun size => some (-size) :=
  rfl

/-- An offset is read back with its sign. -/
theorem readOffset?_writeOffset {minutes : Int} (hlow : -1440 < minutes) (hhigh : minutes < 1440) :
    readOffset? (writeOffset minutes) = some (some minutes) := by
  have hsize : readOffsetSize? (two (minutes.natAbs / 60) ++ ':' :: two (minutes.natAbs % 60)) =
      some (minutes.natAbs : Int) := readOffsetSize?_two (by omega)
  unfold writeOffset
  by_cases hsign : minutes < 0
  · have hvalue : -(minutes.natAbs : Int) = minutes := by omega
    rw [if_pos hsign, readOffset?_minus, hsize, Option.map_some, hvalue]
  · have hvalue : (minutes.natAbs : Int) = minutes := by omega
    rw [if_neg hsign, readOffset?_plus, hsize, Option.map_some, hvalue]

/-- What is written behind the time of a moment is read back as its offset. -/
theorem readOffset?_writeZone (m : Moment) : readOffset? m.writeZone = some m.offset := by
  have hoffset := m.inRange.2.2.2.2.2.2.2
  unfold writeZone
  cases hzone : m.offset with
  | none => rfl
  | some minutes =>
      rw [hzone] at hoffset
      simp only [Option.all_some, Bool.and_eq_true, decide_eq_true_eq] at hoffset
      by_cases hzero : minutes = 0
      · subst hzero
        rfl
      · simp only [beq_eq_false_iff_ne.mpr hzero, Bool.false_eq_true, if_false]
        exact readOffset?_writeOffset hoffset.1 hoffset.2

/-! ## Whole moments -/

theorem write_eq (m : Moment) :
    m.write = m.writeDate ++ 'T' :: (two m.hour ++ ':' :: (two m.minute ++ ':' :: (two m.second ++
      ((if m.micro == 0 then [] else '.' :: Binary64.padded 6 m.micro) ++ m.writeZone)))) := by
  have hwrite : m.write = m.writeDate ++ 'T' :: m.writeTime ++ m.writeZone := rfl
  simp only [hwrite, writeTime, List.append_assoc, List.cons_append]

theorem readSeconds?_written (m : Moment) :
    readSeconds? (':' :: (two m.second ++
      ((if m.micro == 0 then [] else '.' :: Binary64.padded 6 m.micro) ++ m.writeZone))) =
        some ((m.second, m.micro), m.writeZone) := by
  obtain ⟨_, _, _, _, _, hsecond, hmicro, _⟩ := m.inRange
  have hends := endsTime_writeZone m
  by_cases hzero : m.micro = 0
  · rw [hzero]
    exact readSeconds?_whole hsecond hends
  · rw [if_neg (by simpa using hzero)]
    exact readSeconds?_fraction hsecond hmicro hends

/-- The fields of a moment are read back from its stored form. -/
theorem readWritten?_write (m : Moment) :
    readWritten? m.write =
      some (m.year, m.month, m.day, m.hour, m.minute, m.second, m.micro, m.offset) := by
  obtain ⟨_, _, _, hhour, hminute, _⟩ := m.inRange
  rw [write_eq]
  unfold readWritten?
  simp only [readDate?_writeDate, Option.bind_eq_bind, Option.bind_some, beq_self_eq_true,
    Bool.true_or, if_true]
  rw [digits?_two _ (by omega)]
  simp only [Option.bind_some, mark?_cons]
  rw [digits?_two _ (by omega)]
  simp only [Option.bind_some, readSeconds?_written, readOffset?_writeZone]
  rw [if_neg (by simp; omega)]

theorem ofFields?_fields (m : Moment) :
    ofFields? m.year m.month m.day m.hour m.minute m.second m.micro m.offset = some m := by
  unfold ofFields?
  rw [dif_pos m.inRange]

/-- A moment is read from its stored form as it was, with the offset that it had or with none. -/
theorem read_write (m : Moment) : read m.write = .ok m := by
  unfold read
  rw [readWritten?_write]
  simp only [ofFields?_fields]

end Moment

end Clickpath
