import Clickpath.Proofs.Chars.Classes

/-! # Words and stripped rows

Stripping a row and cutting it into words take away blanks and nothing else. A stripped row starts
with its first word, which is as long as it can be without a blank.
-/

namespace Clickpath.Chars

theorem trim_eq_strip (s : List Char) : trim s = strip isBlank s := rfl

variable {α : Type} {blank : α → Bool} {s : List α}

/-! ## Stripping -/

theorem mem_dropWhile_blank {a : α} (ha : blank a = false) : a ∈ s.dropWhile blank ↔ a ∈ s := by
  refine ⟨fun hmem => (List.dropWhile_sublist _).subset hmem, fun hmem => ?_⟩
  rw [← List.takeWhile_append_dropWhile (p := blank) (l := s)] at hmem
  rcases List.mem_append.mp hmem with hblank | hmem
  · rw [List.all_eq_true.mp List.all_takeWhile a hblank] at ha
    cases ha
  · exact hmem

/-- Nothing but blanks is stripped. -/
theorem mem_strip_iff {a : α} (ha : blank a = false) : a ∈ strip blank s ↔ a ∈ s := by
  rw [strip, stripEnd, List.mem_reverse, mem_dropWhile_blank ha, List.mem_reverse, stripStart,
    mem_dropWhile_blank ha]

theorem stripEnd_isPrefix (s : List α) : stripEnd blank s <+: s := by
  rw [stripEnd, ← List.reverse_suffix, List.reverse_reverse]
  exact List.dropWhile_suffix _

/-- A stripped row starts with no blank. -/
theorem head?_strip : ∀ a ∈ (strip blank s).head?, blank a = false := by
  intro a ha
  obtain ⟨rest, hrest⟩ : stripEnd blank (stripStart blank s) <+: stripStart blank s :=
    stripEnd_isPrefix _
  have hhead : (stripStart blank s).head? = some a := by
    rw [← hrest, List.head?_append, ← strip, ha]
    rfl
  have hstart := List.head?_dropWhile_not blank s
  rw [← stripStart, hhead] at hstart
  exact hstart

/-- Of a row something is left unless all of it is blank. -/
theorem strip_ne_nil_iff : strip blank s ≠ [] ↔ ∃ a ∈ s, blank a = false := by
  constructor
  · intro hne
    obtain ⟨a, rest, hstrip⟩ := List.exists_cons_of_ne_nil hne
    have ha : blank a = false := head?_strip (s := s) a (by rw [hstrip]; rfl)
    exact ⟨a, (mem_strip_iff ha).mp (hstrip ▸ List.mem_cons_self), ha⟩
  · rintro ⟨a, hmem, ha⟩
    exact List.ne_nil_of_mem ((mem_strip_iff ha).mpr hmem)

theorem strip_map {β : Type} (f : β → α) (s : List β) :
    strip blank (s.map f) = (strip (blank ∘ f) s).map f := by
  unfold strip stripEnd stripStart
  rw [List.dropWhile_map, ← List.map_reverse, List.dropWhile_map, List.map_reverse]

/-! ## Words -/

theorem flatten_consWord (a : α) (words : List (List α)) :
    (consWord a words).flatten = a :: words.flatten := by
  cases words <;> rfl

/-- The pieces of a row are all of it but the blanks. -/
theorem flatten_pieces (s : List α) : (pieces blank s).flatten = s.filter (!blank ·) := by
  induction s with
  | nil => rfl
  | cons a rest ih =>
      rw [pieces]
      split
      next hblank => rw [List.filter_cons_of_neg (by simp [hblank]), List.flatten_cons,
        List.nil_append, ih]
      next hword => rw [List.filter_cons_of_pos (by simpa using hword), flatten_consWord, ih]

/-- The words of a row hold what is not blank in it. -/
theorem flatten_words (s : List α) : (words blank s).flatten = s.filter (!blank ·) := by
  rw [← flatten_pieces, words]
  exact List.flatten_filter_not_isEmpty

theorem of_mem_words {word : List α} (hword : word ∈ words blank s) {a : α} (ha : a ∈ word) :
    a ∈ s ∧ blank a = false := by
  have hmem : a ∈ (words blank s).flatten := List.mem_flatten.mpr ⟨word, hword, ha⟩
  rw [flatten_words, List.mem_filter] at hmem
  simpa using hmem

theorem ne_nil_of_mem_words {word : List α} (hword : word ∈ words blank s) : word ≠ [] := by
  rintro rfl
  exact absurd (List.mem_filter.mp hword).2 Bool.false_ne_true

/-- The first piece of a row goes up to its first blank. -/
theorem head?_pieces (s : List α) : (pieces blank s).head? = some (s.takeWhile (!blank ·)) := by
  induction s with
  | nil => rfl
  | cons a rest ih =>
      rw [pieces]
      split
      next hblank => rw [List.takeWhile_cons_of_neg (by simp [hblank])]; rfl
      next hword =>
        rw [List.takeWhile_cons_of_pos (by simpa using hword)]
        cases hpieces : pieces blank rest with
        | nil => simp [hpieces] at ih
        | cons word words =>
            rw [hpieces] at ih
            exact congrArg (fun word => some (a :: word)) (Option.some.inj ih)

/-- A row that starts with no blank starts with its first word. -/
theorem head?_words (hs : s ≠ []) (hhead : ∀ a ∈ s.head?, blank a = false) :
    (words blank s).head? = some (s.takeWhile (!blank ·)) := by
  obtain ⟨a, rest, rfl⟩ := List.exists_cons_of_ne_nil hs
  have hfirst : (pieces blank (a :: rest)).head? = _ := head?_pieces (a :: rest)
  have hword : blank a = false := hhead a rfl
  rw [List.takeWhile_cons_of_pos (by simp [hword])] at hfirst ⊢
  cases hpieces : pieces blank (a :: rest) with
  | nil => rw [hpieces] at hfirst; cases hfirst
  | cons word others =>
      rw [hpieces] at hfirst
      rw [words, hpieces, Option.some.inj hfirst, List.filter_cons_of_pos rfl]
      rfl

theorem pieces_map {β : Type} (f : β → α) (s : List β) :
    pieces blank (s.map f) = (pieces (blank ∘ f) s).map (List.map f) := by
  induction s with
  | nil => rfl
  | cons b rest ih =>
      rw [List.map_cons, pieces, pieces, ih, Function.comp_apply]
      cases blank (f b) with
      | true => rfl
      | false => cases pieces (blank ∘ f) rest <;> rfl

theorem words_map {β : Type} (f : β → α) (s : List β) :
    words blank (s.map f) = (words (blank ∘ f) s).map (List.map f) := by
  rw [words, words, pieces_map, List.filter_map]
  congr 2
  funext word
  exact congrArg (!·) List.isEmpty_map

end Clickpath.Chars
