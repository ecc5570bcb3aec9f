import Clickpath.Assistant
import Clickpath.Proofs.Chars.Reading
import Clickpath.Proofs.Chars.Words
import Clickpath.Proofs.Record.Made
import Clickpath.Proofs.Repository.Files

/-! # Fenced replies

A fence around an object, with blanks on either side of it, is taken off as a whole, and an object
without one is left as it is. Marks of a fence inside the object are never taken for the fence. The
script target of a test is the one that was asked for, whatever the object says of it.
-/

namespace Clickpath

namespace Chars

variable {α : Type} {blank : α → Bool} {blanks s : List α}

theorem stripStart_append (hblanks : ∀ a ∈ blanks, blank a = true) (s : List α) :
    stripStart blank (blanks ++ s) = stripStart blank s :=
  List.dropWhile_append_of_pos hblanks

theorem stripEnd_append (hblanks : ∀ a ∈ blanks, blank a = true) (s : List α) :
    stripEnd blank (s ++ blanks) = stripEnd blank s := by
  have hreverse : ∀ a ∈ blanks.reverse, blank a = true :=
    fun a ha => hblanks a (List.mem_reverse.mp ha)
  rw [stripEnd, List.reverse_append, List.dropWhile_append_of_pos hreverse, ← stripEnd]

theorem stripEnd_eq_self (hlast : ∀ a ∈ s.getLast?, blank a = false) : stripEnd blank s = s := by
  rw [← List.head?_reverse] at hlast
  rw [stripEnd, dropWhile_blank_eq_self hlast, List.reverse_reverse]

/-- A row that starts otherwise does not start with the leading part. -/
theorem after?_eq_none [BEq α] [LawfulBEq α] {a b : α} (hab : a ≠ b) (lead rest : List α) :
    after? (a :: lead) (b :: rest) = none := by
  rw [after?, if_neg (by simpa using hab)]

end Chars

namespace Assistant

open Chars

/-- What stands around a fenced text: the fence, which may name the format, and blanks. -/
structure Fencing where
  before : List Glyph
  named : Bool
  opened : List Glyph
  closed : List Glyph
  after : List Glyph
  blank : ∀ g ∈ before ++ opened ++ closed ++ after, g.isBlank = true

namespace Fencing

def word (f : Fencing) : List Glyph := if f.named then glyphsOf "json".toList else []

/-- The text within its fence, without the blanks around that. -/
def inner (f : Fencing) (inside : List Glyph) : List Glyph :=
  fence ++ (f.word ++ (f.opened ++ (inside ++ (f.closed ++ fence))))

/-- The text within its fence. -/
def around (f : Fencing) (inside : Loose) : Loose :=
  ⟨f.before ++ (f.inner inside.glyphs ++ f.after)⟩

end Fencing

def Braced (s : List Glyph) : Prop :=
  s.head? = some (.char '\x7b') ∧ s.getLast? = some (.char '\x7d')

variable {s : List Glyph}

theorem Braced.head_not_blank (hs : Braced s) (rest : List Glyph) :
    ∀ g ∈ (s ++ rest).head?, g.isBlank = false := by
  intro g hg
  rw [List.head?_append, hs.1, Option.some_or] at hg
  rw [← Option.some.inj hg]
  decide

theorem Braced.last_not_blank (hs : Braced s) : ∀ g ∈ s.getLast?, g.isBlank = false := by
  intro g hg
  rw [hs.2] at hg
  rw [← Option.some.inj hg]
  decide

/-- Without a fence there is nothing to take off. -/
theorem Braced.unfenced_eq_self (hs : Braced s) : unfenced ⟨s⟩ = s := by
  have hstart : stripStart Glyph.isBlank s = s :=
    dropWhile_blank_eq_self (by simpa using hs.head_not_blank [])
  have hopening : withoutOpening s = s := by
    obtain ⟨rest, rfl⟩ : ∃ rest, s = .char '\x7b' :: rest := List.head?_eq_some_iff.mp hs.1
    unfold withoutOpening
    rw [fence, glyphsOf_cons, after?_eq_none (by decide)]
  have hclosing : withoutClosing s = s := by
    obtain ⟨front, rfl⟩ : ∃ front, s = front ++ [.char '\x7d'] := List.getLast?_eq_some_iff.mp hs.2
    unfold withoutClosing
    rw [fence, glyphsOf_cons, List.reverse_append, List.reverse_singleton, List.singleton_append,
      after?_eq_none (by decide)]
  rw [unfenced, Loose.trim, strip, hstart, stripEnd_eq_self hs.last_not_blank, hopening, hclosing]

namespace Fencing

variable (f : Fencing)

/-- What is left of a fenced text between its blanks is its inside. -/
theorem trim_around (inside : Loose) : (f.around inside).trim.glyphs = f.inner inside.glyphs := by
  have hblank := f.blank
  simp only [List.forall_mem_append] at hblank
  obtain ⟨⟨⟨hbefore, -⟩, -⟩, hafter⟩ := hblank
  have hstart : stripStart Glyph.isBlank (f.inner inside.glyphs ++ f.after) =
      f.inner inside.glyphs ++ f.after := by
    apply dropWhile_blank_eq_self
    rintro g ⟨⟩
    decide
  have hend : stripEnd Glyph.isBlank (f.inner inside.glyphs) = f.inner inside.glyphs := by
    apply stripEnd_eq_self
    have hlast : f.inner inside.glyphs =
        (fence ++ (f.word ++ (f.opened ++
          (inside.glyphs ++ (f.closed ++ glyphsOf ['\x60', '\x60']))))) ++
          [.char '\x60'] := by
      simp [inner, fence]
    rw [hlast, List.getLast?_concat]
    rintro g ⟨⟩
    decide
  rw [around, Loose.trim, strip, stripStart_append hbefore, hstart, stripEnd_append hafter, hend]

/-- A word for the format is passed over, and nothing else is taken for one. -/
theorem after?_word (hs : Braced s) (rest : List Glyph) :
    (after? (glyphsOf "json".toList) (f.word ++ (f.opened ++ (s ++ rest)))).getD
      (f.word ++ (f.opened ++ (s ++ rest))) = f.opened ++ (s ++ rest) := by
  have hblank := f.blank
  simp only [List.forall_mem_append] at hblank
  obtain ⟨⟨⟨-, hopened⟩, -⟩, -⟩ := hblank
  unfold word
  cases f.named with
  | true =>
      rw [if_pos rfl, after?_append]
      rfl
  | false =>
      rw [if_neg Bool.false_ne_true, List.nil_append]
      have hnone : after? (glyphsOf "json".toList) (f.opened ++ (s ++ rest)) = none := by
        cases hglyphs : f.opened with
        | cons g more =>
            rw [hglyphs] at hopened
            apply after?_eq_none
            rintro rfl
            exact absurd (hopened (.char 'j') List.mem_cons_self) (by decide)
        | nil =>
            obtain ⟨more, rfl⟩ : ∃ more, s = .char '\x7b' :: more := List.head?_eq_some_iff.mp hs.1
            exact after?_eq_none (by decide) _ _
      rw [hnone]
      rfl

/-- A fence is taken off, and what was inside is left as it was. -/
theorem unfenced_around (hs : Braced s) : unfenced (f.around ⟨s⟩) = s := by
  have hblank := f.blank
  simp only [List.forall_mem_append] at hblank
  obtain ⟨⟨⟨-, hopened⟩, hclosed⟩, -⟩ := hblank
  have hopening : withoutOpening (f.inner s) = s ++ (f.closed ++ fence) := by
    rw [withoutOpening, inner, after?_append]
    dsimp only
    rw [f.after?_word hs, stripStart_append hopened]
    exact dropWhile_blank_eq_self (hs.head_not_blank _)
  have hclosing : withoutClosing (s ++ (f.closed ++ fence)) = s := by
    have hreverse : (s ++ (f.closed ++ fence)).reverse = fence ++ (s ++ f.closed).reverse := by
      rw [← List.append_assoc, List.reverse_append]
      rfl
    rw [withoutClosing, hreverse, after?_append]
    dsimp only
    rw [List.reverse_reverse, stripEnd_append hclosed, stripEnd_eq_self hs.last_not_blank]
  rw [unfenced, trim_around, hopening, hclosing]

end Fencing

variable {τ : Type} [Textual τ]

/-- A reply is read alike with a fence and without. -/
theorem Fencing.readReply_around (f : Fencing) {reply : Loose} (hreply : Braced reply.glyphs)
    (tool platform : Datum) (supply : Supply) :
    readReply (τ := τ) (some (f.around reply)) tool platform supply =
      readReply (some reply) tool platform supply := by
  have hfields : fieldsIn (some (f.around reply)) = fieldsIn (some reply) := by
    obtain ⟨glyphs⟩ := reply
    simp only [fieldsIn, f.unfenced_around hreply, hreply.unfenced_eq_self]
  rw [readReply, readReply, hfields]

/-! ## The script target -/

theorem nameInUse_cons {entries : List (Datum × Datum)} {name : String}
    (hname : (Datum.lookup? entries name).isSome) (names : List String) :
    Record.nameInUse entries (name :: names) = name := by
  simp [Record.nameInUse, hname]

/-- The target that was asked for is the one in use, under whatever names there is another. -/
theorem stringField_withTarget (tool platform : String) (default : Option String)
    (entries : List (Datum × Datum)) :
    let asked := withTarget (.text tool) (.text platform) entries
    Record.stringField (τ := τ) asked (Record.nameInUse asked Record.toolNames) default =
        .ok (Textual.ofString tool) ∧
      Record.stringField (τ := τ) asked (Record.nameInUse asked Record.platformNames) default =
        .ok (Textual.ofString platform) := by
  intro asked
  have htool : Datum.lookup? asked "automation_tool" = some (.text tool) := by
    rw [show asked = withTarget _ _ entries from rfl, withTarget, Datum.lookup?_insert,
      if_neg (by decide), Datum.lookup?_insert, if_pos rfl]
  have hplatform : Datum.lookup? asked "target_platform" = some (.text platform) := by
    rw [show asked = withTarget _ _ entries from rfl, withTarget, Datum.lookup?_insert, if_pos rfl]
  constructor
  · rw [Record.toolNames, nameInUse_cons (by rw [htool]; rfl)]
    unfold Record.stringField
    rw [htool]
    rfl
  · rw [Record.platformNames, nameInUse_cons (by rw [hplatform]; rfl)]
    unfold Record.stringField
    rw [hplatform]
    rfl

theorem readReply_eq {reply : Option Loose} {entries : List (Datum × Datum)}
    (hfields : fieldsIn reply = .ok entries) (tool platform : Datum) (supply : Supply) :
    (readReply (τ := τ) reply tool platform supply).1 =
      (Designer.readTest (withTarget tool platform entries) supply).1.mapError .record := by
  rw [readReply, hfields]
  rfl

/-- Every test of a reply has the script target that was asked for. -/
theorem target_of_readReply {reply : Option Loose} {tool platform : String} {supply : Supply}
    {test : Test τ} (h : (readReply reply (.text tool) (.text platform) supply).1 = .ok test) :
    test.tool = Textual.ofString tool ∧ test.platform = Textual.ofString platform := by
  cases hfields : fieldsIn reply with
  | error fault =>
      rw [readReply, hfields] at h
      cases h
  | ok entries =>
      rw [readReply_eq hfields] at h
      cases hread : (Designer.readTest (τ := τ)
          (withTarget (.text tool) (.text platform) entries) supply).1 with
      | error fault =>
          rw [hread] at h
          cases h
      | ok made =>
          rw [hread] at h
          cases h
          obtain ⟨-, htool, hplatform⟩ := Designer.of_readTest hread
          rw [(stringField_withTarget tool platform _ entries).1] at htool
          rw [(stringField_withTarget tool platform _ entries).2] at hplatform
          exact ⟨(Except.ok.inj htool).symm, (Except.ok.inj hplatform).symm⟩

/-! ## Replies at two times -/

/-- A reply that is read twice comes to the same, but for what is drawn from the supply. -/
theorem readReply_redrawn (reply : Option Loose) (tool platform : Datum) (s t : Supply) :
    SameOutcome (fun a b : Test τ => Test.Redrawn s t a b ∧ (s.SameClock t → a.steps = b.steps))
      (readReply reply tool platform s).1 (readReply reply tool platform t).1 := by
  cases hfields : fieldsIn reply with
  | error fault =>
      rw [readReply, readReply, hfields]
      rfl
  | ok entries =>
      rw [readReply_eq hfields, readReply_eq hfields]
      apply SameOutcome.mapError
      rcases (Designer.readTest_redrawn (τ := τ) (withTarget tool platform entries) s t).cases with
        ⟨a, b, ha, hb, hsame⟩ | ⟨fault, ha, hb⟩
      · rw [ha, hb]
        exact ⟨hsame, Designer.steps_eq_of_sameClock ha hb⟩
      · rw [ha, hb]
        rfl

/-- A reply in braces is read alike with a fence around it and without, whatever stands inside: the
same test at the same time, and at another time the same but for what is drawn. A test that a model
makes has the script target that was asked for. -/
theorem parse_around (f : Fencing) {reply : Loose} (hreply : Braced reply.glyphs)
    (plain wrapped : Chat) {model description : String}
    (hplain : plain.reply ⟨model, instructions, description⟩ = some reply)
    (hwrapped : wrapped.reply ⟨model, instructions, description⟩ = some (f.around reply))
    (tool platform : String) (s t : Supply) :
    let parsed := fun (chat : Chat) (supply : Supply) =>
      parse (τ := τ) chat model description (.text tool) (.text platform) supply
    (parsed wrapped s).1 = (parsed plain s).1 ∧ (parsed wrapped s).2.1 = (parsed plain s).2.1 ∧
      SameOutcome (fun a b : Test τ => Test.Redrawn s t a b ∧ (s.SameClock t → a.steps = b.steps))
        (parsed plain s).1 (parsed wrapped t).1 ∧
      ∀ (chat : Chat) (supply : Supply) (test : Test τ), (parsed chat supply).1 = .ok test →
        test.tool = Textual.ofString tool ∧ test.platform = Textual.ofString platform := by
  intro parsed
  have hparsed : ∀ (chat : Chat) (supply : Supply),
      (parsed chat supply).1 = (readReply (τ := τ) (chat.reply ⟨model, instructions, description⟩)
        (.text tool) (.text platform) supply).1 ∧
      (parsed chat supply).2.1 = (readReply (τ := τ) (chat.reply ⟨model, instructions, description⟩)
        (.text tool) (.text platform) supply).2 := fun _ _ => ⟨rfl, rfl⟩
  have hsame := f.readReply_around (τ := τ) hreply (.text tool) (.text platform)
  refine ⟨?_, ?_, ?_, ?_⟩
  · rw [(hparsed wrapped s).1, (hparsed plain s).1, hplain, hwrapped, hsame]
  · rw [(hparsed wrapped s).2, (hparsed plain s).2, hplain, hwrapped, hsame]
  · rw [(hparsed plain s).1, (hparsed wrapped t).1, hplain, hwrapped, hsame]
    exact readReply_redrawn _ _ _ s t
  · intro chat supply test hmade
    rw [(hparsed chat supply).1] at hmade
    exact target_of_readReply hmade

/-- An object with the marks of a fence and three names for a script target in it, in a fence that
names the format. -/
theorem parse_around_marks :
    let reply := "\x7b\"name\": \"a ``` b ```\", \"automation_tool\": \"x\", " ++
      "\"automationTool\": \"y\", \"programmingLanguage\": \"z\", " ++
      "\"steps\": [\x7b\"type\": \"screenshot\"\x7d]\x7d"
    let parsed := fun reply : String => (parse ⟨fun _ => some (.ofString reply), []⟩ "model"
      "a description" (.text "selenium") (.text "python") (Supply.still 7)).1
    parsed (" ```json\n" ++ reply ++ "\n```\n") = parsed reply ∧
      ∃ test, parsed reply = .ok test ∧ test.name = "a ``` b ```" ∧
        test.steps = [⟨"", .screenshot (some "screenshot-7.png")⟩] ∧
        test.tool = "selenium" ∧ test.platform = "python" := by
  intro reply parsed
  let f : Fencing := ⟨[.char ' '], true, [.char '\n'], [.char '\n'], [.char '\n'],
    List.all_eq_true.mp (by decide)⟩
  have hreply : Braced (Loose.ofString reply).glyphs := by
    simp only [reply, Loose.ofString, String.toList_append]
    repeat rw [String.toList_ofList]
    exact ⟨rfl, rfl⟩
  have haround (inside : String) :
      f.around (.ofString inside) = .ofString (" ```json\n" ++ inside ++ "\n```\n") := by
    have hopening : glyphsOf " ```json\n".toList = f.before ++ (fence ++ (f.word ++ f.opened)) := by
      decide
    have hclosing : glyphsOf "\n```\n".toList = f.closed ++ (fence ++ f.after) := by decide
    rw [Loose.ofString, Loose.ofString, String.toList_append, String.toList_append,
      glyphsOf_append, glyphsOf_append, hopening, hclosing]
    simp only [Fencing.around, Fencing.inner, List.append_assoc]
  obtain ⟨hsame, -, -, htarget⟩ := parse_around (τ := String) f hreply
    ⟨fun _ => some (.ofString reply), []⟩ ⟨fun _ => some (f.around (.ofString reply)), []⟩ rfl rfl
    "selenium" "python" (Supply.still 7) (Supply.still 7)
  rw [haround] at hsame
  refine ⟨hsame, ?_⟩
  have hmade : (parsed reply).toOption.map (fun test => (test.name, test.steps)) =
      some ("a ``` b ```", [⟨"", .screenshot (some "screenshot-7.png")⟩]) := by
    decide +kernel
  cases hparsed : parsed reply with
  | error fault =>
      rw [hparsed] at hmade
      cases hmade
  | ok test =>
      rw [hparsed] at hmade
      obtain ⟨hname, hsteps⟩ := Prod.mk.inj (Option.some.inj hmade)
      obtain ⟨htool, hplatform⟩ := htarget _ _ test hparsed
      exact ⟨test, rfl, hname, hsteps, htool, hplatform⟩

end Assistant

end Clickpath
