import Mathlib.Data.List.Induction
import Clickpath.Proofs.Chars.Classes
import Clickpath.Proofs.Script.Layout

/-! # Registered emitters

A catalog answers with the emitter that was registered last under the names that are asked for, in
any spelling of them. For names without an emitter it answers with a comment that holds both as they
were given, so the comment is one line, and nothing of it is code, as long as no line ends in them.
-/

namespace Clickpath.Script

open Dialect

/-! ## Registrations -/

/-- An emitter is registered under a tool and a platform. -/
structure Registration where
  tool : String
  platform : String
  emitter : Emitter

/-- The two names are the same but for letter case and blanks at the ends. -/
def SameName (name other : String) : Prop :=
  Text.lower (Text.trim name) = Text.lower (Text.trim other)

/-- The registration is made under these names, in some spelling. -/
def Registration.IsFor (r : Registration) (tool platform : String) : Prop :=
  SameName r.tool tool ∧ SameName r.platform platform

instance (r : Registration) (tool platform : String) : Decidable (r.IsFor tool platform) :=
  inferInstanceAs (Decidable (Text.lower (Text.trim r.tool) = Text.lower (Text.trim tool) ∧
    Text.lower (Text.trim r.platform) = Text.lower (Text.trim platform)))

/-- The emitter was registered under these names, and no other was after it. -/
def RegisteredLast (registrations : List Registration) (tool platform : String) (e : Emitter) :
    Prop :=
  ∃ earlier r later, registrations = earlier ++ r :: later ∧ r.IsFor tool platform ∧
    r.emitter = e ∧ ∀ other ∈ later, ¬other.IsFor tool platform

/-- What is registered from the start. -/
def builtIn : List Registration :=
  [⟨"selenium", "java", Java.selenium⟩, ⟨"selenium", "python", Python.selenium⟩,
    ⟨"playwright", "javascript", JavaScript.playwright⟩,
    ⟨"playwright", "python", Python.playwright⟩]

namespace Catalog

def registerAll (c : Catalog) (registrations : List Registration) : Catalog :=
  registrations.foldl (fun c r => c.register r.tool r.platform r.emitter) c

theorem standard_eq_registerAll : standard = (Catalog.mk []).registerAll builtIn := rfl

theorem registerAll_append (c : Catalog) (first second : List Registration) :
    c.registerAll (first ++ second) = (c.registerAll first).registerAll second :=
  List.foldl_append

theorem lookup_cons_ite (entry : Target × Emitter) (rest : List (Target × Emitter)) (t : Target) :
    (entry :: rest).lookup t = if t = entry.1 then some entry.2 else rest.lookup t := by
  rw [List.lookup_cons]
  by_cases h : t = entry.1
  · rw [if_pos h, beq_iff_eq.mpr h]
  · rw [if_neg h, beq_eq_false_iff_ne.mpr h]

/-- The emitter that is entered for a target takes the place of the one before, and leaves those of
other targets. -/
theorem lookup_enter (entries : List (Target × Emitter)) (target t : Target) (e : Emitter) :
    (enter entries target e).lookup t = if t = target then some e else entries.lookup t := by
  induction entries with
  | nil => rw [enter, lookup_cons_ite]
  | cons entry rest ih =>
      rw [enter, lookup_cons_ite entry rest]
      split
      next hentry =>
        rw [lookup_cons_ite, hentry]
        split <;> rfl
      next hentry =>
        rw [lookup_cons_ite, ih]
        by_cases h : t = entry.1
        · rw [if_pos h, if_neg fun htarget => hentry (h.symm.trans htarget), if_pos h]
        · rw [if_neg h, if_neg h]

theorem isFor_iff (r : Registration) (tool platform : String) :
    r.IsFor tool platform ↔ Target.ofNames tool platform = .ofNames r.tool r.platform := by
  rw [Target.ofNames, Target.ofNames, Target.mk.injEq, Registration.IsFor, SameName, SameName,
    eq_comm, eq_comm (a := Text.lower (Text.trim r.platform))]

/-- One more registration is found under its own names, and no others are disturbed. -/
theorem lookup_register (c : Catalog) (r : Registration) (tool platform : String) :
    (c.register r.tool r.platform r.emitter).entries.lookup (.ofNames tool platform) =
      if r.IsFor tool platform then some r.emitter
      else c.entries.lookup (.ofNames tool platform) := by
  rw [register, lookup_enter]
  exact if_congr (isFor_iff r tool platform).symm rfl rfl

/-- After registrations in an empty catalog, the emitter that was registered last is found, and none
under names that none was registered under. -/
theorem lookup_registerAll (registrations : List Registration) (tool platform : String) :
    (∃ e, RegisteredLast registrations tool platform e ∧
        ((Catalog.mk []).registerAll registrations).entries.lookup (.ofNames tool platform) =
          some e) ∨
      (∀ r ∈ registrations, ¬r.IsFor tool platform) ∧
        ((Catalog.mk []).registerAll registrations).entries.lookup (.ofNames tool platform) =
          none := by
  induction registrations using List.reverseRecOn with
  | nil => exact .inr ⟨List.forall_mem_nil _, rfl⟩
  | append_singleton earlier r ih =>
      rw [registerAll_append]
      simp only [registerAll, List.foldl_cons, List.foldl_nil] at ih ⊢
      rw [lookup_register]
      by_cases hfor : r.IsFor tool platform
      · rw [if_pos hfor]
        exact .inl ⟨_, ⟨earlier, r, [], rfl, hfor, rfl, List.forall_mem_nil _⟩, rfl⟩
      · rw [if_neg hfor]
        refine ih.imp ?_ ?_
        · rintro ⟨e, ⟨before, last, later, rfl, hlast, he, hlater⟩, hlookup⟩
          refine ⟨e, ⟨before, last, later ++ [r], by simp, hlast, he, ?_⟩, hlookup⟩
          simpa [or_imp, forall_and] using ⟨hlater, hfor⟩
        · rintro ⟨hnone, hlookup⟩
          refine ⟨?_, hlookup⟩
          simpa [or_imp, forall_and] using ⟨hnone, hfor⟩

end Catalog

/-! ## Comments without an end -/

/-- Nothing is left of a comment exactly if no line ends in it. -/
theorem erase_comment_eq_nil_iff {mark out : List Nat} :
    erase mark .comment out = [] ↔ lineEnd ∉ out := by
  induction out with
  | nil => simp [erase]
  | cons code out ih =>
      rw [erase, List.mem_cons, not_or]
      by_cases hcode : code = lineEnd
      · simp [hcode]
      · rw [if_neg (by rwa [beq_iff_eq]), ih, and_iff_right (Ne.symm hcode)]

/-- Behind the mark of a comment everything is taken away up to the end of a line. -/
theorem skeleton_mark_append (l : Dialect) (text : List Char) :
    l.skeleton (l.mark ++ text) = erase l.markCodes .comment (l.read text) := by
  have hread : l.read (l.mark ++ text) = l.markCodes ++ l.read text := by
    have hcodes : l.mark.flatMap l.codes = l.markCodes := by cases l <;> rfl
    rw [settled_of_notMem l (by cases l <;> decide), hcodes]
  rw [skeleton, hread]
  cases l <;> rfl

/-- Nothing is left of a comment exactly if no line ends in it, as the language reads it. -/
theorem skeleton_mark_append_eq_nil_iff (l : Dialect) (text : List Char) :
    l.skeleton (l.mark ++ text) = [] ↔ lineEnd ∉ l.read text := by
  rw [skeleton_mark_append, erase_comment_eq_nil_iff]

theorem lineEnd_notMem_read {l : Dialect} {text : List Char} (hend : '\n' ∉ text)
    (hbackslash : '\\' ∉ text) : lineEnd ∉ l.read text := by
  have hread := settled_of_notMem l hbackslash []
  rw [List.append_nil] at hread
  rw [hread, List.mem_append, not_or]
  refine ⟨fun hmem => ?_, by cases l <;> exact List.not_mem_nil⟩
  obtain ⟨c, hc, hcode⟩ := List.mem_flatMap.mp hmem
  exact ne_of_mem_codes hcode (by decide) (ne_of_mem_of_not_mem hc hend) rfl

/-! ## The answer without an emitter -/

/-- What stands behind the mark of the comment that names a tool and a platform. -/
def notice (tool platform : String) : List Char :=
  ' ' :: (Unsupported.mk tool platform).message.toList

/-- What becomes of a comment that names a tool and a platform as they were given. -/
structure IsNotice (tool platform line : String) : Prop where
  text : line.toList = "//".toList ++ notice tool platform
  holdsTool : tool.toList <:+: line.toList
  holdsPlatform : platform.toList <:+: line.toList
  /-- The comment is one line exactly if no line ends in the names. -/
  inLine : Chars.lines line.toList = [line.toList] ↔
    ∀ c ∈ tool.toList ++ platform.toList, Chars.isLineEnd c = false
  /-- Then it does not read like the comment on a step. -/
  silent : (∀ c ∈ tool.toList ++ platform.toList, Chars.isLineEnd c = false) →
    ∀ part ∈ Chars.lines line.toList, announces part = false
  /-- In a language with such comments, nothing of it is code exactly if the language finds no end
  of a line behind the mark. -/
  comment : ∀ l : Dialect, l.mark = ['/', '/'] →
    (l.skeleton line.toList = [] ↔ lineEnd ∉ l.read (notice tool platform))
  /-- It finds none if no line ends in the names and no letter code can stand there. -/
  contained : (∀ c ∈ tool.toList ++ platform.toList, Chars.isLineEnd c = false ∧ c ≠ '\\') →
    ∀ l : Dialect, l.mark = ['/', '/'] → l.skeleton line.toList = []

/-- What holds of all that stands around two texts holds of the whole exactly if it holds of
them. -/
theorem forall_mem_around {motive : Char → Prop} {before s between t after : List Char}
    (hbefore : ∀ c ∈ before, motive c) (hbetween : ∀ c ∈ between, motive c)
    (hafter : ∀ c ∈ after, motive c) :
    (∀ c ∈ before ++ s ++ between ++ t ++ after, motive c) ↔ ∀ c ∈ s ++ t, motive c := by
  simp only [List.forall_mem_append, and_iff_right hbefore, and_iff_left hbetween,
    and_iff_left hafter]

theorem toList_message (tool platform : String) : (Unsupported.mk tool platform).message.toList =
    "Script generation for ".toList ++ tool.toList ++ " with ".toList ++ platform.toList ++
      " is not implemented yet.".toList := by
  unfold Unsupported.message
  rw [String.toList_append, String.toList_append, String.toList_append, String.toList_append]

/-- What holds of the fixed characters holds of the whole notice exactly if it holds of the
names. -/
theorem forall_mem_notice {motive : Char → Prop} (tool platform : String)
    (hfixed : ∀ c ∈ (' ' :: "Script generation for ".toList) ++ " with ".toList ++
      " is not implemented yet.".toList, motive c) :
    (∀ c ∈ notice tool platform, motive c) ↔ ∀ c ∈ tool.toList ++ platform.toList, motive c := by
  rw [List.forall_mem_append, List.forall_mem_append] at hfixed
  obtain ⟨⟨hbefore, hbetween⟩, hafter⟩ := hfixed
  rw [notice, toList_message]
  exact forall_mem_around hbefore hbetween hafter

/-- A comment on a tool and a platform names both as they were given. It is a single line exactly if
neither has a line end. -/
theorem isNotice (tool platform : String) :
    IsNotice tool platform ("// " ++ (Unsupported.mk tool platform).message) := by
  have htext : ("// " ++ (Unsupported.mk tool platform).message).toList =
      "//".toList ++ notice tool platform := String.toList_append
  have hmessage := toList_message tool platform
  generalize hline : "// " ++ (Unsupported.mk tool platform).message = line at htext
  have hinLine : Chars.lines line.toList = [line.toList] ↔
      ∀ c ∈ tool.toList ++ platform.toList, Chars.isLineEnd c = false := by
    rw [Chars.lines_eq_singleton_iff (by rw [htext]; exact List.cons_ne_nil _ _), htext,
      List.forall_mem_append, and_iff_right (Chars.not_isLineEnd_of_any (by decide))]
    exact forall_mem_notice tool platform (Chars.not_isLineEnd_of_any (by decide))
  have hcomment : ∀ l : Dialect, l.mark = ['/', '/'] →
      (l.skeleton line.toList = [] ↔ lineEnd ∉ l.read (notice tool platform)) := by
    intro l hmark
    rw [htext, ← skeleton_mark_append_eq_nil_iff, hmark]
    rfl
  refine ⟨htext, ?_, ?_, hinLine, ?_, hcomment, ?_⟩
  · rw [← hline, String.toList_append, hmessage]
    refine ⟨"// ".toList ++ "Script generation for ".toList,
      " with ".toList ++ platform.toList ++ " is not implemented yet.".toList, ?_⟩
    simp only [List.append_assoc]
  · rw [← hline, String.toList_append, hmessage]
    refine ⟨"// ".toList ++ "Script generation for ".toList ++ tool.toList ++ " with ".toList,
      " is not implemented yet.".toList, ?_⟩
    simp only [List.append_assoc]
  · intro hends part hpart
    rw [hinLine.mpr hends, List.mem_singleton] at hpart
    obtain ⟨rest, hrest⟩ : ∃ rest, line.toList = "// Sc".toList ++ rest := by
      rw [htext, notice, hmessage]
      exact ⟨_, rfl⟩
    rw [hpart, hrest]
    rfl
  · intro hnames l hmark
    rw [hcomment l hmark]
    have hends := (forall_mem_notice tool platform (Chars.not_isLineEnd_of_any (by decide))).mpr
      fun c hc => (hnames c hc).1
    have hplain := (forall_mem_notice tool platform
      fun c hc => ne_of_mem_of_not_mem hc (by decide : '\\' ∉ _)).mpr fun c hc => (hnames c hc).2
    apply lineEnd_notMem_read
    · exact fun hmem => absurd (hends _ hmem) (by decide)
    · exact fun hmem => hplain _ hmem rfl

/-! ## Answers -/

/-- The name that is asked for. One that is not given, or that is empty, is the test's own. -/
def asked (given : Option String) (own : String) : String := (given.bind Text.nonempty?).getD own

/-- Whatever was registered, the script is that of the emitter that was registered last under the
names that are asked for, in any spelling. If there is none, the answer is a comment that names
them: one line, and nothing but a comment, as long as no line ends in the names. -/
theorem Catalog.compile_answers (calls : List Registration) (test : Test)
    (tool platform : Option String) :
    (∃ e, RegisteredLast (builtIn ++ calls) (asked tool test.tool)
          (asked platform test.platform) e ∧
        (standard.registerAll calls).compile test tool platform = e.emit test) ∨
      (∀ r ∈ builtIn ++ calls, ¬r.IsFor (asked tool test.tool) (asked platform test.platform)) ∧
        IsNotice (asked tool test.tool) (asked platform test.platform)
          ((standard.registerAll calls).compile test tool platform) := by
  have hcompile : (standard.registerAll calls).compile test tool platform =
      (((Catalog.mk []).registerAll (builtIn ++ calls)).entries.lookup
        (.ofNames (asked tool test.tool) (asked platform test.platform))).elim
        ("// " ++ (Unsupported.mk (asked tool test.tool) (asked platform test.platform)).message)
        (·.emit test) := by
    rw [registerAll_append, ← standard_eq_registerAll, compile, emitterFor]
    unfold asked
    cases (registerAll standard calls).entries.lookup _ <;> rfl
  rw [hcompile]
  rcases lookup_registerAll (builtIn ++ calls) (asked tool test.tool) (asked platform test.platform)
    with ⟨e, hlast, hlookup⟩ | ⟨hnone, hlookup⟩
  · exact .inl ⟨e, hlast, by rw [hlookup]; rfl⟩
  · exact .inr ⟨hnone, by rw [hlookup]; exact isNotice _ _⟩

def brokenTool : Test where
  id := "1"
  name := "open"
  steps := []
  tool := "cypress\n// Step 1: open\n"
  platform := "JavaScript"
  created := ⟨2024, 3, 1, 8, 0, 0, 0, none, by decide⟩

/-- The name of the tool makes lines of its own in the answer. One of them reads like the comment on
a step, and what follows it is code. -/
theorem compile_answers_brokenTool :
    let line := (Catalog.standard.registerAll []).compile brokenTool none none
    IsNotice brokenTool.tool brokenTool.platform line ∧ Chars.lines line.toList ≠ [line.toList] ∧
      (∃ part ∈ Chars.lines line.toList, announces part = true) ∧
      javaScript.skeleton line.toList ≠ [] := by
  have hnone : ∀ r ∈ builtIn ++ [], ¬r.IsFor brokenTool.tool brokenTool.platform := by
    decide +kernel
  rcases Catalog.compile_answers [] brokenTool none none with ⟨_, hlast, _⟩ | ⟨_, hline⟩
  · obtain ⟨earlier, r, later, hsplit, hfor, _⟩ := hlast
    exact absurd hfor (hnone r (hsplit ▸ by simp))
  · refine ⟨hline, ?_, ?_, ?_⟩
    · exact mt hline.inLine.mp fun hends => absurd (hends '\n' (by decide)) (by decide)
    · decide +kernel
    · decide +kernel

end Clickpath.Script
