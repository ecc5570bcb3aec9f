import Clickpath.Text

/-! # Loose texts

A format that writes characters by their code units can write one half of a pair alone. Such a half
is no character: a text that holds one can be kept, compared and cut, but no bytes stand for it. A
loose text may hold halves; a text of characters alone is whole.
-/

namespace Clickpath

/-- One half of a pair of code units. -/
structure Half where
  unit : Nat
  inRange : 0xD800 ≤ unit ∧ unit ≤ 0xDFFF
  deriving DecidableEq, Repr

/-- A character, or half of a pair that stands alone. -/
inductive Glyph where
  | char (c : Char)
  | half (h : Half)
  deriving DecidableEq, Repr

namespace Glyph

/-- What a code unit, or the code of a character, stands for. -/
def ofCode (code : Nat) : Glyph :=
  if h : 0xD800 ≤ code ∧ code ≤ 0xDFFF then .half ⟨code, h⟩ else .char (Char.ofNat code)

def is (sort : Char → Bool) : Glyph → Bool
  | char c => sort c
  | half _ => false

def isChar (g : Glyph) : Bool := g.is fun _ => true

def isBlank (g : Glyph) : Bool := g.is Chars.isBlank

/-- The character that is shown for a glyph: the replacement character for a half. -/
def shown : Glyph → Char
  | char c => c
  | half _ => Char.ofNat 0xFFFD

@[simp] theorem is_char (sort : Char → Bool) (c : Char) : (char c).is sort = sort c := rfl

@[simp] theorem shown_char (c : Char) : (char c).shown = c := rfl

theorem char_shown {g : Glyph} (h : g.isChar = true) : char g.shown = g := by
  cases g with
  | char c => rfl
  | half _ => cases h

end Glyph

def glyphsOf (s : List Char) : List Glyph := s.map .char

@[simp] theorem glyphsOf_nil : glyphsOf [] = [] := rfl

@[simp] theorem glyphsOf_cons (c : Char) (s : List Char) :
    glyphsOf (c :: s) = .char c :: glyphsOf s := rfl

@[simp] theorem glyphsOf_append (s t : List Char) : glyphsOf (s ++ t) = glyphsOf s ++ glyphsOf t :=
  List.map_append

/-- A text that may hold halves of pairs. -/
structure Loose where
  glyphs : List Glyph
  deriving DecidableEq, Repr

namespace Loose

def ofString (s : String) : Loose := ⟨glyphsOf s.toList⟩

/-- The text holds nothing but characters. -/
def isWhole (l : Loose) : Bool := l.glyphs.all Glyph.isChar

/-- The text with the replacement character in the place of every half. -/
def shown (l : Loose) : String := String.ofList (l.glyphs.map Glyph.shown)

def string? (l : Loose) : Option String := if l.isWhole then some l.shown else none

def empty : Loose := ⟨[]⟩

instance : Append Loose := ⟨fun a b => ⟨a.glyphs ++ b.glyphs⟩⟩

def join (parts : List Loose) : Loose := ⟨parts.flatMap (·.glyphs)⟩

/-- The parts in a row, with a text between each two of them. -/
def intercalate (between : Loose) (parts : List Loose) : Loose :=
  ⟨between.glyphs.intercalate (parts.map (·.glyphs))⟩

def trim (l : Loose) : Loose := ⟨Chars.strip Glyph.isBlank l.glyphs⟩

def words (l : Loose) : List Loose := (Chars.words Glyph.isBlank l.glyphs).map .mk

def nonempty? (l : Loose) : Option Loose := if l = empty then none else some l

@[simp]
theorem mk_glyphsOf (s : List Char) : (⟨glyphsOf s⟩ : Loose) = ofString (String.ofList s) := by
  rw [ofString, String.toList_ofList]

theorem isWhole_ofString (s : String) : (ofString s).isWhole = true := by
  rw [isWhole, ofString, glyphsOf, List.all_map, List.all_eq_true]
  exact fun _ _ => rfl

@[simp]
theorem shown_ofString (s : String) : (ofString s).shown = s := by
  rw [shown, ofString, glyphsOf, List.map_map,
    show Glyph.shown ∘ Glyph.char = id from rfl, List.map_id, String.ofList_toList]

theorem ofString_append (s t : String) : ofString (s ++ t) = ofString s ++ ofString t := by
  rw [ofString, String.toList_append, glyphsOf, List.map_append]
  rfl

@[simp]
theorem string?_ofString (s : String) : (ofString s).string? = some s := by
  rw [string?, if_pos (isWhole_ofString s), shown_ofString]

theorem ofString_shown {l : Loose} (h : l.isWhole = true) : ofString l.shown = l := by
  obtain ⟨glyphs⟩ := l
  have hchars : glyphs.map (Glyph.char ∘ Glyph.shown) = glyphs.map id :=
    List.map_congr_left fun g hg => Glyph.char_shown (List.all_eq_true.mp h g hg)
  rw [ofString, shown, glyphsOf, String.toList_ofList, List.map_map, hchars, List.map_id]

/-- A text is whole exactly if a string is the same text. -/
theorem string?_eq_some_iff {l : Loose} {s : String} : l.string? = some s ↔ l = ofString s := by
  constructor
  · intro h
    unfold string? at h
    split at h
    next hwhole => rw [← Option.some.inj h, ofString_shown hwhole]
    next => cases h
  · rintro rfl
    exact string?_ofString s

end Loose

/-- A loose text that holds a half. -/
abbrev Torn := { l : Loose // l.isWhole = false }

theorem Loose.torn_of_not_whole {l : Loose} (h : ¬l.isWhole = true) : l.isWhole = false :=
  Bool.eq_false_iff.mpr h

def Half.first : Half := ⟨0xD800, by decide⟩

/-- The text of a single half. -/
def Half.alone (h : Half) : Torn := ⟨⟨[.half h]⟩, rfl⟩

end Clickpath
