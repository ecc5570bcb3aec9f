import Clickpath.Proofs.Chars.Classes
import Clickpath.Scenario

/-! # Quoted parts of scenario lines

A text in quotation marks, with a backslash in front of each mark within, is read back as it was.
The mark that was meant to close it is the first that is tried, whatever comes behind.
-/

namespace Clickpath.Scenario

open Chars

/-- A text with a backslash in front of each quotation mark. -/
def escapeMarks (s : List Char) : List Char :=
  s.flatMap fun c => if c = '\x22' then ['\\', '\x22'] else [c]

def quoted (s : List Char) : List Char := '\x22' :: (escapeMarks s ++ ['\x22'])

theorem getLast?_quoted (s : List Char) : (quoted s).getLast? = some '\x22' :=
  List.getLast?_concat (l := '\x22' :: escapeMarks s)

theorem escapeMarks_cons_mark (s : List Char) :
    escapeMarks ('\x22' :: s) = '\\' :: '\x22' :: escapeMarks s :=
  rfl

theorem escapeMarks_cons {c : Char} (hc : c ≠ '\x22') (s : List Char) :
    escapeMarks (c :: s) = c :: escapeMarks s := by
  rw [escapeMarks, List.flatMap_cons, if_neg hc, ← escapeMarks]
  rfl

/-- An escaped text does not start with a mark. -/
theorem head?_escapeMarks (s : List Char) : (escapeMarks s).head? ≠ some '\x22' := by
  cases s with
  | nil => exact nofun
  | cons c s =>
      by_cases hc : c = '\x22'
      · rw [hc, escapeMarks_cons_mark, List.head?_cons]
        decide
      · rw [escapeMarks_cons hc]
        exact fun h => hc (Option.some.inj h)

theorem mem_escapeMarks {s : List Char} {c : Char} (hc : c ∈ escapeMarks s) :
    c = '\\' ∨ c ∈ s := by
  obtain ⟨d, hd, hmem⟩ := List.mem_flatMap.mp hc
  by_cases hmark : d = '\x22'
  · rw [if_pos hmark, ← hmark] at hmem
    rcases List.mem_cons.mp hmem with hslash | hmem
    · exact .inl hslash
    · exact .inr (List.mem_singleton.mp hmem ▸ hd)
  · rw [if_neg hmark] at hmem
    exact .inr (List.mem_singleton.mp hmem ▸ hd)

/-! ## Reading back -/

/-- The marks in a text are what they were before they were escaped. -/
theorem replacePair_escapeMarks (s : List Char) :
    replacePair '\\' '\x22' '\x22' (escapeMarks s) = s := by
  induction s with
  | nil => rfl
  | cons c s ih =>
      by_cases hc : c = '\x22'
      · rw [hc, escapeMarks_cons_mark, replacePair, ih]
        rfl
      · -- What comes next is no mark, so this character is not the first of a pair.
        have hhead := head?_escapeMarks s
        rw [escapeMarks_cons hc]
        cases hrest : escapeMarks s with
        | nil =>
            rw [hrest] at ih
            rw [← ih]
            rfl
        | cons d rest =>
            rw [hrest] at ih hhead
            have hd : (d == '\x22') = false := by simpa using hhead
            rw [replacePair, hd, Bool.and_false, if_neg Bool.false_ne_true, ih]

theorem trim_quoted (s : List Char) : trim (quoted s) = quoted s := by
  apply trim_eq_self
  · intro c hc
    rw [← Option.some.inj hc]
    decide
  · intro c hc
    rw [getLast?_quoted] at hc
    rw [← Option.some.inj hc]
    decide

/-- A quoted text stands for the text itself. -/
theorem unquote?_quoted {s : List Char} (hs : s ≠ []) : unquote? (quoted s) = some s := by
  have hinner : ((quoted s).drop 1).dropLast = escapeMarks s := List.dropLast_concat
  have hmarks : (decide ((quoted s).length ≥ 2) && (quoted s).head? == some '\x22' &&
      (quoted s).getLast? == some '\x22') = true := by
    rw [getLast?_quoted]
    simp [quoted]
  have hempty : s.isEmpty = false := List.isEmpty_eq_false_iff.mpr hs
  unfold unquote?
  rw [trim_quoted]
  dsimp only
  rw [if_pos hmarks, hinner, replacePair_escapeMarks, hempty, if_neg Bool.false_ne_true]

/-! ## Closing marks -/

/-- A character closes nothing unless it is a mark, or a backslash with a mark behind it. -/
theorem closings_cons {c : Char} {rest : List Char} (hc : c ≠ '\x22')
    (hrest : c = '\\' → rest.head? ≠ some '\x22') : closings (c :: rest) = closings rest := by
  conv => lhs; unfold closings
  split
  next h => cases h
  next after h =>
    cases h
    exact absurd rfl (hrest rfl)
  next h =>
    cases h
    rw [beq_eq_false_iff_ne.mpr hc, if_neg Bool.false_ne_true]

/-- The furthest mark that can close a text is the one behind it, unless a backslash comes last. -/
theorem closings_escapeMarks {s : List Char} (hs : s.getLast? ≠ some '\\') (rest : List Char) :
    ∃ nearer, closings (escapeMarks s ++ '\x22' :: rest) = rest :: nearer := by
  induction s with
  | nil => exact ⟨[], rfl⟩
  | cons c s ih =>
      have htail : s.getLast? ≠ some '\\' := by
        cases s with
        | nil => exact nofun
        | cons d s => rwa [List.getLast?_cons_cons] at hs
      obtain ⟨nearer, hnearer⟩ := ih htail
      by_cases hc : c = '\x22'
      · rw [hc, escapeMarks_cons_mark, List.cons_append, List.cons_append, closings, hnearer]
        exact ⟨_, rfl⟩
      · refine ⟨nearer, ?_⟩
        rw [escapeMarks_cons hc, List.cons_append, closings_cons hc, hnearer]
        -- A backslash is not the last character, and no mark follows without one of its own.
        rintro rfl
        have hhead := head?_escapeMarks s
        cases hrest : escapeMarks s with
        | nil =>
            have hempty : s = [] := by
              rw [← replacePair_escapeMarks s, hrest]
              rfl
            rw [hempty] at hs
            exact absurd rfl hs
        | cons d more =>
            rw [hrest] at hhead
            exact hhead

/-- The longest quoted target is the whole of it. -/
theorem quotedTargets_quoted {s : List Char} (hs : s.getLast? ≠ some '\\') (rest : List Char) :
    ∃ shorter, quotedTargets (quoted s ++ rest) = (quoted s, rest) :: shorter := by
  obtain ⟨nearer, hnearer⟩ := closings_escapeMarks hs rest
  have hbody : quoted s ++ rest = '\x22' :: (escapeMarks s ++ '\x22' :: rest) := by
    rw [quoted, List.cons_append, List.append_assoc]
    rfl
  have hcut : cutBefore (quoted s ++ rest) rest = (quoted s, rest) := by
    rw [cutBefore, List.length_append, Nat.add_sub_cancel, List.take_left]
  rw [hbody, quotedTargets, hnearer, List.map_cons, ← hbody, hcut]
  exact ⟨_, rfl⟩

end Clickpath.Scenario
