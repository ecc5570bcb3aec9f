import Clickpath.Locator.Record
import Clickpath.Proofs.Locator.Attempting

/-! # What a snapshot offers

Inference takes the first word of a link, the first node of a path and a value for a selector
without asking whether there is one. There always is: a text that was trimmed starts with a word,
and a value is only used if it is not empty. So every strategy is answered, by nothing or by a
selector of its own, unless the value that it found is torn: no selector takes such a value.
-/

namespace Clickpath.Locator

open Loose

/-! ## Paths -/

namespace Attempt

theorem ofString_append_ne_empty {s : String} (hs : s ≠ "") (l : Loose) : ofString s ++ l ≠ empty :=
  append_ne_empty (mt ofString_eq_empty.mp hs) l

theorem xpathStep_ne_empty (n : PathNode Loose) : xpathStep n ≠ empty :=
  append_ne_empty (ofString_append_ne_empty (by decide) _) _

/-- A path without a body does not start with one. -/
theorem tag_ne_ofString_body {root : PathNode Loose} {rest : List (PathNode Loose)}
    (h : belowBody? (root :: rest) = none) : root.tag ≠ .ofString "body" := by
  intro hbody
  rw [belowBody?, if_pos hbody] at h
  cases h

/-- A style rule is empty if its first part is and there is no other. -/
theorem intercalate_eq_empty_iff (root : Loose) (steps : List Loose) :
    intercalate (.ofString " > ") (root :: steps) = empty ↔ root = empty ∧ steps = [] := by
  cases steps with
  | nil =>
      rw [and_iff_left rfl]
      exact iff_of_eq (congrArg (· = empty) (congrArg Loose.mk List.intercalate_singleton))
  | cons step rest =>
      refine iff_of_false (fun h => ?_) nofun
      have hglyphs : List.intercalate _ (root.glyphs :: step.glyphs :: rest.map (·.glyphs)) = [] :=
        congrArg Loose.glyphs h
      rw [List.intercalate_cons_cons, List.append_eq_nil_iff, List.append_eq_nil_iff] at hglyphs
      cases hglyphs.1.2

variable (s : Snapshot Loose)

/-- The anchor is the body or the first node of a path that holds none. -/
theorem anchor_cases :
    (∃ below, belowBody? s.path = some below ∧ anchor s.path = .ok (.ofString "body", below)) ∨
      ∃ root rest, s.path = root :: rest ∧ belowBody? s.path = none ∧
        root.tag ≠ .ofString "body" ∧ anchor s.path = .ok (root.tag, rest) := by
  obtain ⟨root, rest, hpath⟩ := List.exists_cons_of_ne_nil s.path_ne_nil
  cases hbelow : belowBody? s.path with
  | some below => exact .inl ⟨below, rfl, by simp only [anchor, hbelow]⟩
  | none =>
      refine .inr ⟨root, rest, hpath, rfl, tag_ne_ofString_body (hpath ▸ hbelow), ?_⟩
      simp only [anchor, hbelow]
      simp only [hpath]

theorem absoluteXPath_ne_empty : absoluteXPath s ≠ empty := by
  obtain ⟨root, rest, hpath⟩ := List.exists_cons_of_ne_nil s.path_ne_nil
  rw [absoluteXPath, hpath, List.map_cons]
  exact append_ne_empty (xpathStep_ne_empty root) (join (rest.map xpathStep))

/-- Every element has a path expression. -/
theorem exists_relativeXPath : ∃ raw, relativeXPath s = .ok raw ∧ raw ≠ empty := by
  unfold relativeXPath
  cases s.id.bind nonempty? with
  | some id =>
      exact ⟨_, rfl, append_ne_empty (ofString_append_ne_empty (by decide) _) _⟩
  | none =>
      obtain ⟨below, -, hanchor⟩ | ⟨root, rest, -, -, htag, hanchor⟩ := anchor_cases s
      · simp only [hanchor, bind, Except.bind, if_pos]
        exact ⟨_, rfl, ofString_append_ne_empty (by decide) _⟩
      · simp only [hanchor, bind, Except.bind, if_neg htag]
        exact ⟨_, rfl, absoluteXPath_ne_empty s⟩

/-- A style rule is empty exactly if it has nothing but an empty tag to tell. -/
theorem exists_cssPath : ∃ raw, cssPath s = .ok raw ∧
    (raw = empty ↔ s.id.bind nonempty? = none ∧ ∃ n, s.path = [n] ∧ n.tag = empty) := by
  unfold cssPath
  cases s.id.bind nonempty? with
  | some id =>
      exact ⟨_, rfl, iff_of_false (ofString_append_ne_empty (by decide) _) fun h => nomatch h.1⟩
  | none =>
      obtain ⟨below, hbelow, hanchor⟩ | ⟨root, rest, hpath, -, -, hanchor⟩ := anchor_cases s
      · refine ⟨_, by simp only [hanchor]; rfl, ?_⟩
        rw [intercalate_eq_empty_iff]
        refine iff_of_false (fun h => absurd h.1 (mt ofString_eq_empty.mp (by decide))) ?_
        rintro ⟨-, n, hpath, htag⟩
        rw [hpath, belowBody?, htag, if_neg (by decide)] at hbelow
        cases hbelow
      · refine ⟨_, by simp only [hanchor]; rfl, ?_⟩
        rw [intercalate_eq_empty_iff, List.map_eq_nil_iff, hpath]
        constructor
        · rintro ⟨htag, rfl⟩
          exact ⟨rfl, root, rfl, htag⟩
        · rintro ⟨-, n, hsingle, htag⟩
          cases hsingle
          exact ⟨htag, rfl⟩

end Attempt

/-! ## Values -/

/-- A strategy has found a value for the element. -/
def Offers (s : Snapshot Loose) (mode : PathMode) (kind : SelectorKind) (raw : Loose) : Prop :=
  Attempt.rawValue s mode kind = .ok (some raw) ∧ raw ≠ empty

/-- A text without blanks that is at the start of another, and as long as there can be one. -/
structure IsFirstWord (word text : List Glyph) : Prop where
  isPrefix : word <+: text
  unbroken : ∀ g ∈ word, g.isBlank = false
  longest : ∀ other, other <+: text → (∀ g ∈ other, g.isBlank = false) → other <+: word

theorem isFirstWord_takeWhile (text : List Glyph) :
    IsFirstWord (text.takeWhile (!·.isBlank)) text := by
  refine ⟨List.takeWhile_prefix _, ?_, ?_⟩
  · intro g hg
    simpa using List.all_eq_true.mp List.all_takeWhile g hg
  · rintro other ⟨rest, rfl⟩ hunbroken
    rw [List.takeWhile_append_of_pos fun g hg => by simp [hunbroken g hg]]
    exact List.prefix_append _ _

section

variable {s : Snapshot Loose} {mode : PathMode}

theorem offers_linkText_iff {text : Loose} :
    Offers s mode .linkText text ↔ Attempt.linkText? s = some text := by
  unfold Offers Attempt.rawValue
  rw [Except.ok.injEq]
  exact and_iff_left_of_imp fun h => (Attempt.linkText?_eq_some_iff.mp h).2.2

/-- The part of a link that is found is the first word of its text. -/
theorem offers_partialLinkText_iff {word : Loose} :
    Offers s mode .partialLinkText word ↔
      ∃ text, Attempt.linkText? s = some text ∧ word = ⟨text.glyphs.takeWhile (!·.isBlank)⟩ := by
  unfold Offers Attempt.rawValue
  cases hlink : Attempt.linkText? s with
  | none =>
      apply iff_of_false
      · rintro ⟨⟨⟩, -⟩
      · rintro ⟨_, ⟨⟩, -⟩
  | some text =>
      obtain ⟨rest, hwords⟩ := Attempt.words_linkText? hlink
      have hfilled : (⟨text.glyphs.takeWhile (!·.isBlank)⟩ : Loose) ≠ empty :=
        ne_empty_of_mem_words (hwords ▸ List.mem_cons_self)
      simp only [hwords, Except.ok.injEq, Option.some.injEq, exists_eq_left']
      constructor
      · rintro ⟨rfl, -⟩
        rfl
      · rintro rfl
        exact ⟨rfl, hfilled⟩

/-- Whatever inference relies on is there. -/
theorem exists_rawValue (s : Snapshot Loose) (mode : PathMode) (kind : SelectorKind) :
    ∃ value, Attempt.rawValue s mode kind = .ok value := by
  unfold Attempt.rawValue
  cases kind with
  | id | name | linkText | text => exact ⟨_, rfl⟩
  | partialLinkText =>
      cases hlink : Attempt.linkText? s with
      | none => exact ⟨none, rfl⟩
      | some text =>
          obtain ⟨rest, hwords⟩ := Attempt.words_linkText? hlink
          exact ⟨_, by simp only [hwords]; rfl⟩
  | css =>
      obtain ⟨raw, hraw, -⟩ := Attempt.exists_cssPath s
      exact ⟨some raw, congrArg (·.map some) hraw⟩
  | xpath =>
      cases mode with
      | absolute => exact ⟨_, rfl⟩
      | relative =>
          obtain ⟨raw, hraw, -⟩ := Attempt.exists_relativeXPath s
          exact ⟨some raw, congrArg (·.map some) hraw⟩

theorem Offers.unique {kind : SelectorKind} {raw other : Loose} (h : Offers s mode kind raw)
    (hother : Offers s mode kind other) : other = raw :=
  Option.some.inj (Except.ok.inj (hother.1.symm.trans h.1))

/-! ## Answers -/

/-- A strategy that found no value is answered by nothing. -/
theorem infer_of_not_offers {kind : SelectorKind} (h : ¬∃ raw, Offers s mode kind raw) :
    Attempt.infer s kind mode = .ok none := by
  obtain ⟨value, hvalue⟩ := exists_rawValue s mode kind
  have hnone : value.bind nonempty? = none := by
    rw [Option.eq_none_iff_forall_ne_some]
    intro raw hraw
    obtain ⟨text, rfl, htext⟩ := Option.bind_eq_some_iff.mp hraw
    obtain ⟨rfl, hne⟩ := nonempty?_eq_some_iff.mp htext
    exact h ⟨text, hvalue, hne⟩
  rw [Attempt.infer, hvalue]
  simp only [bind, Except.bind, hnone]
  rfl

theorem infer_of_offers {kind : SelectorKind} {raw : Loose} (h : Offers s mode kind raw) :
    Attempt.infer s kind mode = (Attempt.selectorOf kind raw).map some := by
  have hsome : nonempty? raw = some raw := nonempty?_eq_some_iff.mpr ⟨rfl, h.2⟩
  rw [Attempt.infer, h.1]
  simp only [bind, Except.bind, Option.bind_some, hsome]
  cases Attempt.selectorOf kind raw <;> rfl

/-- A value that is not empty makes a selector, unless it is torn. -/
theorem selectorOf_cases (kind : SelectorKind) {raw : Loose} (hne : raw ≠ empty) :
    (∃ (text : String) (h : text ≠ ""), raw = ofString text ∧
        Attempt.selectorOf kind raw = .ok ⟨some kind, text, h⟩) ∨
      ∃ torn : Torn, raw = torn.val ∧ Attempt.selectorOf kind raw = .error .torn := by
  unfold Attempt.selectorOf
  cases hwhole : raw.isWhole with
  | true =>
      obtain ⟨text, rfl⟩ : ∃ text, raw = ofString text := ⟨_, (ofString_shown hwhole).symm⟩
      have htext : text ≠ "" := mt ofString_eq_empty.mpr hne
      exact .inl ⟨text, htext, rfl, by simp only [string?_ofString, dif_neg htext]⟩
  | false =>
      have hnone : raw.string? = none := by rw [string?, hwhole]; rfl
      exact .inr ⟨⟨raw, hwhole⟩, rfl, by rw [hnone]⟩

/-- A strategy finds no value, or a string of which a selector is made, or a torn value, which is
refused. -/
theorem infer_cases (s : Snapshot Loose) (mode : PathMode) (kind : SelectorKind) :
    ((¬∃ raw, Offers s mode kind raw) ∧ Attempt.infer s kind mode = .ok none) ∨
      (∃ (text : String) (h : text ≠ ""), Offers s mode kind (ofString text) ∧
        Attempt.infer s kind mode = .ok (some ⟨some kind, text, h⟩)) ∨
      ∃ torn : Torn, Offers s mode kind torn.val ∧
        Attempt.infer s kind mode = .error .torn := by
  by_cases h : ∃ raw, Offers s mode kind raw
  · obtain ⟨raw, hoffers⟩ := h
    have hinfer := infer_of_offers hoffers
    obtain ⟨text, hne, rfl, hmade⟩ | ⟨torn, rfl, hmade⟩ := selectorOf_cases kind hoffers.2 <;>
      rw [hmade] at hinfer
    · exact .inr (.inl ⟨text, hne, hoffers, hinfer⟩)
    · exact .inr (.inr ⟨torn, hoffers, hinfer⟩)
  · exact .inl ⟨h, infer_of_not_offers h⟩

theorem infer_eq_none_iff (kind : SelectorKind) :
    Attempt.infer s kind mode = .ok none ↔ ¬∃ raw, Offers s mode kind raw := by
  obtain ⟨hoffers, hinfer⟩ | ⟨_, _, hoffers, hinfer⟩ | ⟨_, hoffers, hinfer⟩ :=
    infer_cases s mode kind <;> rw [hinfer]
  · exact iff_of_true rfl hoffers
  · exact iff_of_false nofun (not_not_intro ⟨_, hoffers⟩)
  · exact iff_of_false nofun (not_not_intro ⟨_, hoffers⟩)

/-- The value of a strategy leaves no choice which selector is made of it. -/
theorem infer_eq_some_iff (kind : SelectorKind) (selector : Selector) :
    Attempt.infer s kind mode = .ok (some selector) ↔ selector.kind = some kind ∧
      selector.raw ≠ "" ∧ Offers s mode kind (ofString selector.raw) := by
  obtain ⟨hnone, hinfer⟩ | ⟨text, hne, hoffers, hinfer⟩ | ⟨torn, hoffers, hinfer⟩ :=
    infer_cases s mode kind <;> rw [hinfer]
  · exact iff_of_false nofun fun h => hnone ⟨_, h.2.2⟩
  · constructor
    · rintro ⟨⟩
      exact ⟨rfl, hne, hoffers⟩
    · obtain ⟨strategy, raw, hraw⟩ := selector
      rintro ⟨hkind, -, hother⟩
      obtain rfl : strategy = some kind := hkind
      obtain rfl : raw = text := ofString_injective (hoffers.unique hother)
      rfl
  · refine iff_of_false nofun fun h => ?_
    exact torn_ne_ofString torn selector.raw (h.2.2.unique hoffers)

/-- Nothing but a torn value keeps inference from an answer. -/
theorem infer_eq_error_iff (kind : SelectorKind) (gap : Gap) :
    Attempt.infer s kind mode = .error gap ↔
      gap = .torn ∧ ∃ torn : Torn, Offers s mode kind torn.val := by
  obtain ⟨hnone, hinfer⟩ | ⟨text, _, hoffers, hinfer⟩ | ⟨torn, hoffers, hinfer⟩ :=
    infer_cases s mode kind <;> rw [hinfer]
  · exact iff_of_false nofun fun ⟨_, torn, h⟩ => hnone ⟨_, h⟩
  · exact iff_of_false nofun fun ⟨_, torn, h⟩ => torn_ne_ofString torn text (hoffers.unique h)
  · constructor
    · rintro ⟨⟩
      exact ⟨rfl, torn, hoffers⟩
    · rintro ⟨rfl, -⟩
      rfl

/-! ## Links, paths and rules -/

/-- A link has a text as soon as it shows something. -/
theorem exists_linkText_iff : (∃ raw, Offers s mode .linkText raw) ↔
    s.tag = .ofString "a" ∧ ∃ g ∈ s.text.glyphs, g.isBlank = false := by
  simp only [offers_linkText_iff, Attempt.linkText?_eq_some_iff]
  rw [← Chars.strip_ne_nil_iff]
  constructor
  · rintro ⟨text, htag, rfl, hne⟩
    exact ⟨htag, fun hnil => hne (congrArg Loose.mk hnil)⟩
  · rintro ⟨htag, hne⟩
    exact ⟨_, htag, rfl, fun hempty => hne (congrArg Loose.glyphs hempty)⟩

theorem exists_partialLinkText_iff : (∃ raw, Offers s mode .partialLinkText raw) ↔
    ∃ raw, Offers s mode .linkText raw := by
  simp only [offers_partialLinkText_iff, offers_linkText_iff]
  constructor
  · rintro ⟨-, text, htext, -⟩
    exact ⟨text, htext⟩
  · rintro ⟨text, htext⟩
    exact ⟨_, text, htext, rfl⟩

theorem exists_xpath (s : Snapshot Loose) (mode : PathMode) : ∃ raw, Offers s mode .xpath raw := by
  cases mode with
  | absolute => exact ⟨_, rfl, Attempt.absoluteXPath_ne_empty s⟩
  | relative =>
      obtain ⟨raw, hraw, hne⟩ := Attempt.exists_relativeXPath s
      exact ⟨raw, congrArg (·.map some) hraw, hne⟩

/-- An element has a rule unless it is a root without an identifier and without a tag. -/
theorem not_exists_css_iff : (¬∃ raw, Offers s mode .css raw) ↔
    s.id.bind nonempty? = none ∧ ∃ n, s.path = [n] ∧ n.tag = empty := by
  obtain ⟨raw, hraw, hempty⟩ := Attempt.exists_cssPath s
  have hvalue : Attempt.rawValue s mode .css = .ok (some raw) := congrArg (·.map some) hraw
  rw [← hempty]
  constructor
  · exact fun h => by_contra fun hne => h ⟨raw, hvalue, hne⟩
  · rintro rfl ⟨other, hoffers⟩
    cases hoffers.1.symm.trans hvalue
    exact hoffers.2 rfl

/-- How the strategies are answered for a snapshot, whose texts may be torn. -/
structure Answers (s : Snapshot Loose) (mode : PathMode) : Prop where
  /-- A strategy is answered by nothing exactly if it has found no value. -/
  nothing : ∀ kind, Attempt.infer s kind mode = .ok none ↔ ¬∃ raw, Offers s mode kind raw
  /-- A strategy is answered by a selector of its own exactly if it has found the value of it. -/
  selector : ∀ kind selector, Attempt.infer s kind mode = .ok (some selector) ↔
    selector.kind = some kind ∧ selector.raw ≠ "" ∧ Offers s mode kind (.ofString selector.raw)
  /-- A torn value is refused, and there is no other fault. -/
  refused : ∀ kind gap, Attempt.infer s kind mode = .error gap ↔
    gap = .torn ∧ ∃ torn : Torn, Offers s mode kind torn.val
  /-- Links have a text as soon as they show something. -/
  link : (∃ raw, Offers s mode .linkText raw) ↔
    s.tag = .ofString "a" ∧ ∃ g ∈ s.text.glyphs, g.isBlank = false
  /-- A part of the text of a link is found whenever the text is. -/
  part : (∃ raw, Offers s mode .partialLinkText raw) ↔ ∃ raw, Offers s mode .linkText raw
  /-- The part is the first word of the text. -/
  firstWord : ∀ part link, Offers s mode .partialLinkText part → Offers s mode .linkText link →
    IsFirstWord part.glyphs link.glyphs
  /-- Every element has a path expression. -/
  xpath : ∃ raw, Offers s mode .xpath raw
  /-- Without a style rule is nothing but a root that has neither identifier nor tag. -/
  css : (¬∃ raw, Offers s mode .css raw) ↔
    s.id.bind nonempty? = none ∧ ∃ n, s.path = [n] ∧ n.tag = empty
  /-- A snapshot of strings is answered as inference answers. -/
  strings : ∀ t : Snapshot, s = t.map .ofString →
    ∀ kind, Attempt.infer s kind mode = .ok (t.infer kind mode)

/-- Every snapshot is answered: no strategy fails on it unless the value found is torn, links are
found by their text exactly if they are found by a part of it, which is the first word, a path
expression is always found, and a style rule unless there is nothing to tell. -/
theorem infer_answers (s : Snapshot Loose) (mode : PathMode) : Answers s mode where
  nothing := infer_eq_none_iff
  selector := infer_eq_some_iff
  refused := infer_eq_error_iff
  link := exists_linkText_iff
  part := exists_partialLinkText_iff
  firstWord part link hpart hlink := by
    obtain ⟨text, htext, rfl⟩ := offers_partialLinkText_iff.mp hpart
    cases htext.symm.trans (offers_linkText_iff.mp hlink)
    exact isFirstWord_takeWhile _
  xpath := exists_xpath s mode
  css := not_exists_css_iff
  strings := by
    rintro t rfl kind
    exact Attempt.infer_map t kind mode

/-- A link whose identifier is one half of a pair. -/
def tornLink : Snapshot Loose where
  tag := .ofString "a"
  id := some Half.first.alone.val
  name := none
  text := .empty
  attributes := []
  path := [⟨.ofString "a", []⟩]
  path_ne_nil := List.cons_ne_nil _ _

/-- A snapshot with a torn identifier can be stored and read, and no selector is made of it. -/
theorem infer_tornLink : (Snapshot.ofDatum tornLink.toDatum : Record.Checked _) = .ok tornLink ∧
    ¬∃ answer, Attempt.infer tornLink .id .relative = .ok answer := by
  refine ⟨rfl, ?_⟩
  rintro ⟨answer, hanswer⟩
  cases hanswer

end

end Clickpath.Locator
