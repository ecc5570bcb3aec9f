import Clickpath.Locator.Attempt
import Clickpath.Proofs.Text.Whole
import Mathlib.Data.List.Count

/-! # Attempts on strings

A snapshot of strings is answered alike by inference and by an attempt: the attempt does not fail,
and every value on its way is the one that inference has.
-/

namespace Clickpath.Locator

open Loose

namespace Attempt

/-- The text of a link is that of the element without the blanks around it, unless nothing is
left. -/
theorem linkText?_eq_some_iff {s : Snapshot Loose} {text : Loose} :
    linkText? s = some text ↔ s.tag = .ofString "a" ∧ s.text.trim = text ∧ text ≠ empty := by
  rw [linkText?]
  split
  next htag =>
    rw [nonempty?_eq_some_iff]
    exact (and_iff_right htag).symm
  next htag => exact iff_of_false nofun fun h => htag h.1

/-- The text of a link has a first word. -/
theorem words_linkText? {s : Snapshot Loose} {text : Loose} (h : linkText? s = some text) :
    ∃ rest, text.words = ⟨text.glyphs.takeWhile (!·.isBlank)⟩ :: rest := by
  obtain ⟨-, rfl, hne⟩ := linkText?_eq_some_iff.mp h
  have hglyphs : s.text.trim.glyphs ≠ [] := fun hnil => hne (congrArg Loose.mk hnil)
  have hfirst := Chars.head?_words hglyphs (Chars.head?_strip (s := s.text.glyphs))
  obtain ⟨rest, hwords⟩ := List.head?_eq_some_iff.mp hfirst
  exact ⟨rest.map .mk, by rw [words, hwords]; rfl⟩

/-! ## Steps of a path -/

variable (n : PathNode) (s : Snapshot)

theorem siblingIndex_map : (n.map ofString).siblingIndex = n.siblingIndex := by
  unfold PathNode.siblingIndex PathNode.map
  rw [List.count_map_of_injective _ _ ofString_injective]

theorem xpathStep_map : xpathStep (n.map ofString) = ofString (Locator.xpathStep n) := by
  rw [xpathStep, siblingIndex_map, Locator.xpathStep]
  simp only [PathNode.map, ← ofString_append, String.append_assoc]

theorem cssStep_map : cssStep (n.map ofString) = ofString (Locator.cssStep n) := by
  rw [cssStep, siblingIndex_map, Locator.cssStep]
  simp only [PathNode.map, ← ofString_append, String.append_assoc]

theorem belowBody?_map (path : List PathNode) :
    belowBody? (path.map (·.map ofString)) =
      (Locator.belowBody? path).map (·.map (·.map ofString)) := by
  induction path with
  | nil => rfl
  | cons n rest ih =>
      rw [List.map_cons, belowBody?, Locator.belowBody?, ih]
      simp only [PathNode.map, ofString_inj, beq_iff_eq]
      split <;> rfl

/-- A path without a body does not start with one. -/
theorem tag_ne_body {root : PathNode} {rest : List PathNode}
    (h : Locator.belowBody? (root :: rest) = none) : root.tag ≠ "body" := by
  intro hbody
  rw [Locator.belowBody?, hbody, if_pos (beq_self_eq_true _)] at h
  cases h

theorem anchor_map : anchor (s.map ofString).path =
    .ok (ofString s.anchor.1, s.anchor.2.map (·.map ofString)) := by
  obtain ⟨root, rest, hpath⟩ := List.exists_cons_of_ne_nil s.path_ne_nil
  have hbelow := belowBody?_map s.path
  unfold anchor Snapshot.anchor
  rw [show (s.map ofString).path = s.path.map (·.map ofString) from rfl, hbelow]
  cases Locator.belowBody? s.path with
  | some below => rfl
  | none => simp only [hpath]; rfl

/-! ## Values -/

theorem usableId?_map : (s.map ofString).id.bind nonempty? = s.usableId?.map ofString := by
  unfold Snapshot.usableId? Snapshot.map
  cases s.id with
  | none => rfl
  | some id => exact nonempty?_ofString id

theorem linkText?_map : linkText? (s.map ofString) = s.linkText?.map ofString := by
  unfold linkText? Snapshot.linkText? Snapshot.map
  simp only [ofString_inj, beq_iff_eq]
  split
  next => rw [trim_ofString, nonempty?_ofString]
  next => rfl

/-- On strings an attempt at a style rule succeeds with the rule that inference gives. -/
theorem cssPath_map : cssPath (s.map ofString) = .ok (ofString s.cssPath) := by
  unfold cssPath Snapshot.cssPath
  rw [usableId?_map]
  cases s.usableId? with
  | some id => exact congrArg Except.ok (ofString_append "#" id).symm
  | none =>
      have hsteps : (s.anchor.2.map (·.map ofString)).map cssStep =
          (s.anchor.2.map Locator.cssStep).map ofString := by
        rw [List.map_map, List.map_map]
        exact List.map_congr_left fun n _ => cssStep_map n
      rw [Option.map_none, anchor_map]
      simp only [bind, Except.bind, pure, Except.pure, hsteps, ← List.map_cons,
        intercalate_map_ofString]

theorem join_xpathSteps (path : List PathNode) :
    join ((path.map (·.map ofString)).map xpathStep) =
      ofString (String.join (path.map Locator.xpathStep)) := by
  rw [← join_map_ofString, List.map_map, List.map_map]
  exact congrArg join (List.map_congr_left fun n _ => xpathStep_map n)

theorem absoluteXPath_map : absoluteXPath (s.map ofString) = ofString s.absoluteXPath :=
  join_xpathSteps s.path

/-- On strings an attempt at a path expression succeeds with the one that inference gives. -/
theorem relativeXPath_map : relativeXPath (s.map ofString) = .ok (ofString s.relativeXPath) := by
  unfold relativeXPath Snapshot.relativeXPath
  rw [usableId?_map]
  cases s.usableId? with
  | some id =>
      simp only [Option.map_some, ofString_append]
  | none =>
      rw [Option.map_none, anchor_map, absoluteXPath_map]
      simp only [bind, Except.bind, pure, Except.pure, ofString_inj, join_xpathSteps]
      cases hbelow : Locator.belowBody? s.path with
      | some below => simp only [Snapshot.anchor, hbelow, if_pos, ofString_append]
      | none =>
          obtain ⟨root, rest, hpath⟩ := List.exists_cons_of_ne_nil s.path_ne_nil
          have htag := tag_ne_body (hpath ▸ hbelow)
          simp only [Snapshot.anchor, hbelow]
          rw [if_neg (by simpa only [hpath, List.head_cons] using htag)]

/-- An attempt finds the value that inference uses. -/
theorem rawValue_map (mode : PathMode) (kind : SelectorKind) :
    ∃ value : Option String, rawValue (s.map ofString) mode kind = .ok (value.map ofString) ∧
      value.bind Text.nonempty? = (s.valueFor? mode kind).bind Text.nonempty? := by
  cases kind with
  | id => exact ⟨_, rfl, rfl⟩
  | name => exact ⟨_, rfl, rfl⟩
  | linkText => exact ⟨_, congrArg Except.ok (linkText?_map s), rfl⟩
  | partialLinkText =>
      unfold rawValue Snapshot.valueFor?
      have hlink := linkText?_map s
      cases htext : s.linkText? with
      | none =>
          rw [htext] at hlink
          exact ⟨none, by rw [hlink]; rfl, rfl⟩
      | some text =>
          rw [htext] at hlink
          obtain ⟨rest, hwords⟩ := words_linkText? hlink
          rw [words_ofString] at hwords
          obtain ⟨word, others, htexts, hword, -⟩ := List.map_eq_cons_iff.mp hwords
          refine ⟨some word, ?_, ?_⟩
          · simp only [hlink, Option.map_some, words_ofString, htexts, List.map_cons]
          · simp only [Option.bind_some, htexts, List.head?_cons]
  | text =>
      refine ⟨Text.nonempty? (Text.trim s.text), ?_, ?_⟩
      · exact congrArg Except.ok ((congrArg nonempty? (trim_ofString s.text)).trans
          (nonempty?_ofString _))
      · rw [Snapshot.valueFor?, Option.bind_some]
        cases hempty : (Text.trim s.text).isEmpty <;> simp [Text.nonempty?, hempty]
  | css => exact ⟨some s.cssPath, congrArg (·.map some) (cssPath_map s), rfl⟩
  | xpath =>
      cases mode with
      | absolute =>
          exact ⟨some s.absoluteXPath, congrArg (Except.ok ∘ some) (absoluteXPath_map s), rfl⟩
      | relative => exact ⟨some s.relativeXPath, congrArg (·.map some) (relativeXPath_map s), rfl⟩

/-- Inference makes a selector of the value of a strategy, unless the value is empty. -/
theorem infer_eq (kind : SelectorKind) (mode : PathMode) : s.infer kind mode =
    ((s.valueFor? mode kind).bind Text.nonempty?).bind (Selector.ofRaw? (some kind)) := by
  rw [Snapshot.infer, Option.bind_assoc]
  congr 1
  funext raw
  rw [Text.nonempty?]
  split
  next hempty => rw [String.isEmpty_iff.mp hempty]; rfl
  next => rfl

/-- An attempt on a snapshot of strings is answered as inference answers. -/
theorem infer_map (kind : SelectorKind) (mode : PathMode) :
    infer (s.map ofString) kind mode = .ok (s.infer kind mode) := by
  obtain ⟨value, hraw, hvalue⟩ := rawValue_map s mode kind
  have husable : (value.map ofString).bind nonempty? =
      (value.bind Text.nonempty?).map ofString := by
    cases value with
    | none => rfl
    | some text => exact nonempty?_ofString text
  rw [infer_eq, ← hvalue, infer, hraw]
  simp only [bind, Except.bind, husable]
  cases hvalue : value.bind Text.nonempty? with
  | none => rfl
  | some raw =>
      obtain ⟨text, -, htext⟩ := Option.bind_eq_some_iff.mp hvalue
      have hne := (Text.nonempty?_eq_some_iff.mp htext).2
      simp only [Option.map_some, Option.bind_some, selectorOf, string?_ofString, dif_neg hne,
        Selector.ofRaw?]
      rfl

end Attempt

end Clickpath.Locator
