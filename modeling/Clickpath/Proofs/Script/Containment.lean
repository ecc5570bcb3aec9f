import Clickpath.Proofs.Script.Lines
import Clickpath.Script.Identifier

/-! # Texts of a test stay where they are written

An emitter is contained if its lines are alike whenever they are made from steps with the same
outline, and if brackets are balanced in them. The scripts of a contained emitter for tests with the
same outlines are alike as a whole.
-/

namespace Clickpath

/-- What code shows of an action: its kind, the strategy of its selector, and whether a capture has
a file. -/
inductive Outline where
  | navigate
  | click (strategy : Option SelectorKind)
  | typeText (strategy : Option SelectorKind)
  | assertText (strategy : Option SelectorKind)
  | screenshot (filed : Bool)
  deriving DecidableEq

def Action.outline : Action → Outline
  | navigate _ => .navigate
  | click target => .click target.kind
  | typeText target _ => .typeText target.kind
  | assertText target _ => .assertText target.kind
  | screenshot file => .screenshot (file.bind Text.nonempty?).isSome

/-- What holds of actions that differ in their texts only holds of actions with one outline. -/
theorem Action.of_outline_eq {motive : Action → Action → Prop}
    (navigate : ∀ url url', motive (.navigate url) (.navigate url'))
    (click : ∀ target target', target.kind = target'.kind →
      motive (.click target) (.click target'))
    (typeText : ∀ target target' text text', target.kind = target'.kind →
      motive (.typeText target text) (.typeText target' text'))
    (assertText : ∀ target target' expected expected', target.kind = target'.kind →
      motive (.assertText target expected) (.assertText target' expected'))
    (screenshot : ∀ file file',
      (file.bind Text.nonempty?).isSome = (file'.bind Text.nonempty?).isSome →
      motive (.screenshot file) (.screenshot file')) {a b : Action}
    (h : a.outline = b.outline) : motive a b := by
  cases a with
  | navigate url =>
      cases b with
      | navigate url' => exact navigate url url'
      | _ => cases h
  | click target =>
      cases b with
      | click target' => exact click target target' (Outline.click.inj h)
      | _ => cases h
  | typeText target text =>
      cases b with
      | typeText target' text' => exact typeText target target' text text' (Outline.typeText.inj h)
      | _ => cases h
  | assertText target expected =>
      cases b with
      | assertText target' expected' =>
          exact assertText target target' expected expected' (Outline.assertText.inj h)
      | _ => cases h
  | screenshot file =>
      cases b with
      | screenshot file' => exact screenshot file file' (Outline.screenshot.inj h)
      | _ => cases h

def Step.outline (s : Step) : Outline := s.action.outline

namespace Script

open Dialect

/-! ## Contained emitters -/

/-- The emitter lets nothing of the texts of a test out of their literals and comments in a
language, and balances the brackets of its own code. -/
structure Emitter.Contained (e : Emitter) (l : Dialect) : Prop where
  mark : e.commentMark.toList = l.mark
  indent : e.indent.toList.all (· == ' ') = true
  /-- Lines of statements are alike to those without the texts of literals. -/
  statements : ∀ action, ∀ s ∈ e.statements action,
    l.Alike (ended (e.line s)) (ended (e.line s.hollow))
  /-- The rest of statements is given by the outline of the action. -/
  hollow : ∀ a b : Action, a.outline = b.outline →
    (e.statements a).map Statement.hollow = (e.statements b).map Statement.hollow
  balanced : ∀ action, Brackets.balanced
    (l.skeleton (unlines ((e.statements action).map e.line))) = true
  emptyBody : ∀ s ∈ e.emptyBody, l.Closed (ended (e.indent ++ s)) ∧
    Brackets.balanced (l.skeleton (ended (e.indent ++ s))) = true
  preamble : ∀ a b : Test, className a.name = className b.name →
    functionName a.name = functionName b.name →
    l.Alike (unlines (e.preamble a)) (unlines (e.preamble b))
  postamble : ∀ a b : Test, className a.name = className b.name →
    l.Alike (unlines (e.postamble a)) (unlines (e.postamble b))
  around : ∀ test, ∃ awaited,
    Brackets.pending [] (l.skeleton (unlines (e.preamble test))) = some awaited ∧
    Brackets.pending awaited (l.skeleton (unlines (e.postamble test))) = some []
  preamble_ne_nil : ∀ test, e.preamble test ≠ []

namespace Emitter.Contained

variable {e : Emitter} {l : Dialect}

/-- Of the comment on a step, nothing but its indentation and the end of the line is left. -/
theorem comment (he : e.Contained l) (number : Nat) (step : Step) :
    l.Closed (ended (e.comment number step)) ∧
      l.skeleton (ended (e.comment number step)) =
        e.indent.toList.flatMap l.codes ++ [lineEnd] := by
  obtain ⟨hlabelEnd, hlabelCode⟩ := notMem_stepLabel step
  have hdigits : ∀ c ∈ (toString number).toList, Chars.isAsciiDigit c = true :=
    List.all_eq_true.mp (Chars.all_isAsciiDigit_repr number)
  have htext : ended (e.comment number step) = e.indent.toList ++ (l.mark ++
      (" Step ".toList ++ (toString number).toList ++ ": ".toList ++ (stepLabel step).toList) ++
        ['\n']) := by
    rw [← he.mark]
    simp only [ended, Emitter.comment, String.toList_append, List.append_assoc]
  have hnotMem : ∀ c, Chars.isAsciiDigit c = false → c ∉ " Step ".toList → c ∉ ": ".toList →
      c ∉ (stepLabel step).toList →
      c ∉ " Step ".toList ++ (toString number).toList ++
        ": ".toList ++ (stepLabel step).toList := by
    intro c hdigit hlead hcolon hlabel hmem
    rw [List.mem_append, List.mem_append, List.mem_append] at hmem
    rcases hmem with ((hmem | hmem) | hmem) | hmem
    · exact hlead hmem
    · rw [hdigits c hmem] at hdigit
      cases hdigit
    · exact hcolon hmem
    · exact hlabel hmem
  obtain ⟨hclosed, hleft⟩ := closed_plain l (isPlain_indent he.indent)
  obtain ⟨hcomment, hend⟩ := closed_comment l
    (hnotMem '\n' (by decide) (by decide) (by decide) hlabelEnd)
    (fun _ => hnotMem '\\' (by decide) (by decide) (by decide) hlabelCode)
  rw [htext]
  exact ⟨hclosed.append hcomment, by rw [hclosed, hleft, hend]⟩

/-- The lines for two steps with one outline are alike. -/
theorem alike_block (he : e.Contained l) {a b : Step} (houtline : a.outline = b.outline)
    (number : Nat) : l.Alike (unlines (e.block number a)) (unlines (e.block number b)) := by
  have hcomment : l.Alike (ended (e.comment number a)) (ended (e.comment number b)) :=
    ⟨(he.comment number a).1, (he.comment number b).1,
      (he.comment number a).2.trans (he.comment number b).2.symm⟩
  -- The statements of the two steps are compared by way of the statements without any texts.
  have hhollow : ∀ step : Step, l.Alike (unlines (e.statementLines step))
      (unlines (((e.statements step.action).map Statement.hollow).map e.line)) := by
    intro step
    apply alike_unlines
    rw [statementLines, List.map_map]
    have hall := he.statements step.action
    generalize e.statements step.action = statements at hall
    induction statements with
    | nil => exact .nil
    | cons s rest ih =>
        exact .cons (hall s List.mem_cons_self)
          (ih fun other hother => hall other (List.mem_cons_of_mem _ hother))
  have hsame := hhollow a
  rw [he.hollow a.action b.action houtline] at hsame
  rw [block, block, unlines_cons, unlines_cons]
  exact hcomment.append (hsame.trans (hhollow b).symm)

/-- The brackets in the lines for a step are balanced. -/
theorem balanced_block (he : e.Contained l) (number : Nat) (step : Step) :
    Brackets.balanced (l.skeleton (unlines (e.block number step))) = true := by
  have hspaces : Brackets.balanced (e.indent.toList.flatMap l.codes ++ [lineEnd]) = true := by
    rw [Brackets.balanced, Brackets.pending_append, pending_indent l he.indent]
    decide
  have hcomment := he.comment number step
  rw [block, unlines_cons, hcomment.1, hcomment.2]
  exact Brackets.balanced_append hspaces (he.balanced step.action)

/-- The blocks of steps with the same outlines are alike, and their brackets are balanced. -/
theorem alike_blocks (he : e.Contained l) {a b : List Step}
    (houtlines : a.map Step.outline = b.map Step.outline) (number : Nat) :
    l.Alike (unlines (e.blocks number a)) (unlines (e.blocks number b)) ∧
      Brackets.balanced (l.skeleton (unlines (e.blocks number a))) = true := by
  induction a generalizing b number with
  | nil =>
      cases b with
      | nil =>
          refine ⟨.of_closed l.closed_nil, ?_⟩
          rw [blocks, unlines, List.flatMap_nil, skeleton_nil]
          rfl
      | cons _ _ => cases houtlines
  | cons first rest ih =>
      cases b with
      | nil => cases houtlines
      | cons other others =>
          obtain ⟨houtline, houtlines⟩ := List.cons.inj houtlines
          obtain ⟨halike, hbalanced⟩ := ih houtlines (number + 1)
          have hblock := he.alike_block houtline number
          rw [blocks, blocks, unlines_append, unlines_append]
          refine ⟨hblock.append halike, ?_⟩
          rw [hblock.left]
          exact Brackets.balanced_append (he.balanced_block number first) hbalanced

/-- The bodies of scripts for steps with the same outlines are alike, and their brackets are
balanced. -/
theorem alike_body (he : e.Contained l) {a b : List Step}
    (houtlines : a.map Step.outline = b.map Step.outline) :
    l.Alike (unlines (e.body a)) (unlines (e.body b)) ∧
      Brackets.balanced (l.skeleton (unlines (e.body a))) = true := by
  have hblocks := he.alike_blocks houtlines 1
  cases a with
  | cons first rest =>
      cases b with
      | nil => cases houtlines
      | cons other others => exact hblocks
  | nil =>
      cases b with
      | cons _ _ => cases houtlines
      | nil =>
          cases hempty : e.emptyBody with
          | none =>
              simp only [body, hempty]
              exact hblocks
          | some s =>
              obtain ⟨hclosed, hbalanced⟩ := he.emptyBody s hempty
              have hlines : unlines [e.indent ++ s] = ended (e.indent ++ s) :=
                List.flatMap_singleton _ _
              simp only [body, hempty, hlines]
              exact ⟨.of_closed hclosed, hbalanced⟩

/-- Scripts for tests with the same names in code and the same outlines are alike as a whole, and
brackets are balanced in them. -/
theorem alike_emit (he : e.Contained l) {a b : Test}
    (hclass : className a.name = className b.name)
    (hfunction : functionName a.name = functionName b.name)
    (houtlines : a.steps.map Step.outline = b.steps.map Step.outline) :
    l.skeleton (e.emit a).toList = l.skeleton (e.emit b).toList ∧
      Brackets.balanced (l.skeleton (e.emit a).toList) = true := by
  have hlines : ∀ test, (e.emit test).toList =
      unlines (e.preamble test) ++ unlines (e.body test.steps) ++ unlines (e.postamble test) := by
    intro test
    have hne : e.lines test ≠ [] := by
      rw [lines, List.append_assoc]
      exact List.append_ne_nil_of_left_ne_nil (he.preamble_ne_nil test) _
    rw [toList_emit e hne, lines, unlines_append, unlines_append]
  obtain ⟨hbody, hbalanced⟩ := he.alike_body houtlines
  have hpreamble := he.preamble a b hclass hfunction
  have hpostamble := he.postamble a b hclass
  rw [hlines, hlines]
  refine ⟨((hpreamble.append hbody).append hpostamble).skeleton_eq, ?_⟩
  obtain ⟨awaited, hopening, hending⟩ := he.around a
  rw [hpreamble.left.append hbody.left, hpreamble.left]
  exact Brackets.balanced_between hopening hbalanced hending

end Emitter.Contained

end Script

end Clickpath
