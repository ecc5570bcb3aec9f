import Clickpath.Proofs.Chars.Words
import Clickpath.Text.Loose

/-! # Whole texts

What is done to loose texts gives for the loose texts of strings what is done to these strings.
-/

namespace Clickpath.Loose

/-! ## Empty texts -/

theorem append_ne_empty {a : Loose} (h : a ≠ empty) (b : Loose) : a ++ b ≠ empty := by
  intro hnil
  obtain ⟨glyphs⟩ := a
  obtain ⟨rfl, -⟩ := List.append_eq_nil_iff.mp (Loose.mk.inj hnil)
  exact h rfl

theorem nonempty?_eq_some_iff {l value : Loose} :
    l.nonempty? = some value ↔ l = value ∧ value ≠ empty := by
  unfold nonempty?
  split
  next hempty =>
    refine iff_of_false nofun ?_
    rintro ⟨rfl, hne⟩
    exact hne hempty
  next hne =>
    constructor
    · rintro ⟨⟩
      exact ⟨rfl, hne⟩
    · rintro ⟨rfl, -⟩
      rfl

theorem ne_empty_of_mem_words {l word : Loose} (h : word ∈ l.words) : word ≠ empty := by
  obtain ⟨glyphs, hglyphs, rfl⟩ := List.mem_map.mp h
  exact fun hempty => Chars.ne_nil_of_mem_words hglyphs (congrArg Loose.glyphs hempty)

/-! ## Texts of strings -/

theorem ofString_injective : Function.Injective ofString := by
  intro s t h
  rw [← shown_ofString s, h, shown_ofString]

@[simp]
theorem ofString_inj {s t : String} : ofString s = ofString t ↔ s = t := ofString_injective.eq_iff

@[simp]
theorem ofString_eq_empty {s : String} : ofString s = empty ↔ s = "" := ofString_inj (t := "")

theorem nonempty?_ofString (s : String) :
    (ofString s).nonempty? = (Text.nonempty? s).map ofString := by
  unfold nonempty? Text.nonempty?
  simp only [ofString_eq_empty, ← String.isEmpty_iff]
  cases s.isEmpty <;> rfl

theorem trim_ofString (s : String) : (ofString s).trim = ofString (Text.trim s) := by
  rw [trim, ofString, glyphsOf, Chars.strip_map, Text.trim, Chars.trim_eq_strip, ← glyphsOf,
    mk_glyphsOf]
  rfl

theorem words_ofString (s : String) : (ofString s).words = (Text.words s).map ofString := by
  rw [words, ofString, glyphsOf, Chars.words_map, Text.words, List.map_map, List.map_map]
  exact List.map_congr_left fun word _ => mk_glyphsOf word

theorem join_map_ofString (parts : List String) :
    join (parts.map ofString) = ofString (String.join parts) := by
  induction parts with
  | nil => rfl
  | cons part rest ih =>
      rw [String.join_cons, ofString_append, ← ih]
      rfl

theorem intercalate_map_ofString (between : String) (parts : List String) :
    intercalate (.ofString between) (parts.map ofString) =
      ofString (between.intercalate parts) := by
  induction parts with
  | nil => rfl
  | cons part rest ih =>
      cases rest with
      | nil =>
          rw [String.intercalate_singleton]
          exact congrArg Loose.mk List.intercalate_singleton
      | cons next others =>
          rw [String.intercalate_cons_of_ne_nil (List.cons_ne_nil _ _), ofString_append,
            ofString_append, ← ih]
          exact congrArg Loose.mk List.intercalate_cons_cons

theorem torn_ne_ofString (torn : Torn) (s : String) : torn.val ≠ ofString s := by
  intro h
  have hwhole := isWhole_ofString s
  rw [← h, torn.property] at hwhole
  cases hwhole

end Clickpath.Loose
