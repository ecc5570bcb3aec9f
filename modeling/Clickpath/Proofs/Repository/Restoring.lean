import Clickpath.Proofs.Repository.Finding
import Clickpath.Proofs.Yaml.Pieces

/-! # Texts in test files

What is loaded from the file to which a test was written. Every text in it is read back as its style
says, so the test comes back exactly if none of its texts loses a next-line control between single
marks, and no value of its steps is blank.
-/

namespace Clickpath

/-! ## Restored tests -/

/-- A text as it is read from the file to which it was written. -/
def Text.restored (s : String) : String := String.ofList (Yaml.readBack s.toList)

theorem Text.restored_eq_self_iff (s : String) : restored s = s ↔ Yaml.Kept s.toList := by
  rw [← Yaml.readBack_eq_self_iff, restored, ← String.toList_inj, String.toList_ofList]

theorem Yaml.folded_ne_nil (first : Char) (more : List Char) : folded first more ≠ [] := by
  unfold folded
  split
  · exact List.cons_ne_nil _ _
  · split
    next => exact List.cons_ne_nil _ _
    next h => simpa using h

/-- What is read of a part of a text is never nothing. -/
theorem Yaml.Run.read_ne_nil {run : Run} {rest : List Run} (h : WellParted (run :: rest)) :
    run.read ≠ [] := by
  cases run with
  | spaces count =>
      rw [read, ne_eq, List.replicate_eq_nil_iff]
      exact Nat.ne_of_gt h.1
  | breaks ends =>
      obtain ⟨first, more, hwritten⟩ := List.exists_cons_of_ne_nil (writtenEnds_ne_nil h.1)
      rw [read, hwritten]
      exact folded_ne_nil _ _
  | word text => exact h.1

/-- Something is read back of a text that is not empty. -/
theorem Yaml.readBack_ne_nil {s : List Char} (hs : s ≠ []) : readBack s ≠ [] := by
  unfold readBack
  split
  next hstyle =>
    obtain ⟨hescapes, hindented⟩ := needsNoDouble_of_styleOf (by rw [hstyle]; exact nofun)
    have hparted := wellParted_runsOf hescapes hindented
    have htext := text_runsOf s
    cases hruns : runsOf s with
    | nil =>
        rw [hruns] at htext
        exact absurd htext.symm hs
    | cons run rest =>
        rw [hruns] at hparted
        rw [List.flatMap_cons]
        exact List.append_ne_nil_of_left_ne_nil (Run.read_ne_nil hparted) _
  next => exact hs

def Selector.restored (s : Selector) : Selector where
  kind := s.kind
  raw := Text.restored s.raw
  raw_ne_empty := by
    intro hempty
    have hraw : s.raw.toList ≠ [] := by simpa using s.raw_ne_empty
    exact Yaml.readBack_ne_nil hraw (String.ofList_eq_empty_iff.mp hempty)

def Action.restored : Action → Action
  | .navigate url => .navigate (Text.restored url)
  | .click target => .click target.restored
  | .typeText target text => .typeText target.restored (Text.restored text)
  | .assertText target expected => .assertText target.restored (Text.restored expected)
  | .screenshot file => .screenshot (file.map Text.restored)

def Step.restored (s : Step) : Step := ⟨Text.restored s.name, s.action.restored⟩

def Test.restored (t : Test) : Test where
  id := Text.restored t.id
  name := Text.restored t.name
  steps := t.steps.map Step.restored
  tool := Text.restored t.tool
  platform := Text.restored t.platform
  created := t.created

def Action.texts : Action → List String
  | .navigate url => [url]
  | .click target => [target.raw]
  | .typeText target text => [target.raw, text]
  | .assertText target expected => [target.raw, expected]
  | .screenshot file => file.toList

def Step.texts (s : Step) : List String := s.name :: s.action.texts

def Test.texts (t : Test) : List String :=
  t.id :: t.name :: t.tool :: t.platform :: t.steps.flatMap Step.texts

/-- A text is read back from a file as it was. -/
def Text.Kept (s : String) : Prop := Yaml.Kept s.toList

theorem Selector.restored_eq_self_iff (s : Selector) : s.restored = s ↔ Text.Kept s.raw := by
  obtain ⟨kind, raw, hraw⟩ := s
  simp [restored, Text.restored_eq_self_iff, Text.Kept]

theorem Action.restored_eq_self_iff (action : Action) :
    action.restored = action ↔ ∀ text ∈ action.texts, Text.Kept text := by
  cases action with
  | screenshot file =>
      cases file <;> simp [restored, texts, Text.restored_eq_self_iff, Text.Kept]
  | _ => simp [restored, texts, Selector.restored_eq_self_iff, Text.restored_eq_self_iff, Text.Kept]

theorem Step.restored_eq_self_iff (s : Step) :
    s.restored = s ↔ ∀ text ∈ s.texts, Text.Kept text := by
  obtain ⟨name, action⟩ := s
  simp [restored, texts, Action.restored_eq_self_iff, Text.restored_eq_self_iff, Text.Kept]

/-- A test whose texts all come back comes back itself. -/
theorem Test.restored_eq_self_of_kept {t : Test} (h : ∀ text ∈ t.texts, Text.Kept text) :
    t.restored = t := by
  simp only [texts, List.forall_mem_cons, List.mem_flatMap] at h
  obtain ⟨hid, hname, htool, hplatform, hsteps⟩ := h
  have hself : t.steps.map Step.restored = t.steps.map fun s => s :=
    List.map_congr_left fun s hs =>
      s.restored_eq_self_iff.mpr fun text htext => hsteps text ⟨s, hs, htext⟩
  rw [restored, hself, List.map_id', (Text.restored_eq_self_iff t.id).mpr hid,
    (Text.restored_eq_self_iff t.name).mpr hname, (Text.restored_eq_self_iff t.tool).mpr htool,
    (Text.restored_eq_self_iff t.platform).mpr hplatform]

/-! ## Stored forms as blocks -/

def textField {indent depth : Nat} (name value : String) (hname : Yaml.isKey name.toList = true)
    (hindent : indent + 3 ≤ Yaml.pageWidth) : Yaml.Field indent depth :=
  ⟨name, .text value hindent, hname⟩

def Selector.block (s : Selector) : Yaml.Block 4 0 where
  first := ⟨"kind", match s.kind with
    | none => .null
    | some kind => .text kind.label (by decide), by decide⟩
  more := [textField "raw" s.raw (by decide) (by decide)]
  distinct := show ["kind", "raw"].Nodup by decide

theorem Selector.block_written (s : Selector) : s.block.written = s.toDatum := by
  obtain ⟨kind, raw, hraw⟩ := s
  cases kind <;> rfl

theorem SelectorKind.restored_label (kind : SelectorKind) :
    Text.restored kind.label = kind.label := by
  rw [Text.restored_eq_self_iff]
  intro _
  cases kind <;> decide

theorem Selector.block_read (s : Selector) : s.block.read = s.restored.toDatum := by
  obtain ⟨kind, raw, hraw⟩ := s
  cases kind with
  | none => rfl
  | some kind =>
      change Datum.map [(.text "kind", .text (Text.restored kind.label)), (.text "raw", _)] = _
      rw [kind.restored_label]
      rfl

def Action.fields : Action → List (Yaml.Field 2 1)
  | .navigate url => [textField "value" url (by decide) (by decide)]
  | .click target => [⟨"selector", .block target.block, by decide⟩]
  | .typeText target text =>
    [⟨"selector", .block target.block, by decide⟩, textField "value" text (by decide) (by decide)]
  | .assertText target expected =>
    [⟨"selector", .block target.block, by decide⟩,
      textField "value" expected (by decide) (by decide)]
  | .screenshot none => [⟨"value", .null, by decide⟩]
  | .screenshot (some file) => [textField "value" file (by decide) (by decide)]

theorem Action.nodup_fields (action : Action) :
    ("name" :: "kind" :: action.fields.map (·.name)).Nodup := by
  have hnames : action.fields.map (·.name) ∈ [["value"], ["selector"], ["selector", "value"]] := by
    cases action with
    | screenshot file => cases file <;> simp [fields, textField]
    | _ => simp [fields, textField]
  have hall : ∀ names ∈ [["value"], ["selector"], ["selector", "value"]],
      ("name" :: "kind" :: names).Nodup := by decide
  exact hall _ hnames

def Step.block (s : Step) : Yaml.Block 2 1 where
  first := textField "name" s.name (by decide) (by decide)
  more := textField "kind" s.kind.label (by decide) (by decide) :: s.action.fields
  distinct := s.action.nodup_fields

/-- The stored form of a step is written as its block. -/
theorem Step.block_written (s : Step) : s.block.written = s.toDatum := by
  obtain ⟨name, action⟩ := s
  cases action with
  | navigate url => rfl
  | click target =>
      change Datum.map [_, _, (.text "selector", target.block.written)] = _
      rw [target.block_written]
      rfl
  | typeText target text | assertText target text =>
      change Datum.map [_, _, (.text "selector", target.block.written), _] = _
      rw [target.block_written]
      rfl
  | screenshot file => cases file <;> rfl

theorem StepKind.restored_label (kind : StepKind) : Text.restored kind.label = kind.label := by
  rw [Text.restored_eq_self_iff]
  intro _
  cases kind <;> decide

theorem Step.kind_restored (s : Step) : s.restored.kind = s.kind := by
  obtain ⟨name, action⟩ := s
  cases action <;> rfl

/-- The block of a step is read as the stored form of the step with its texts read back. -/
theorem Step.block_read (s : Step) : s.block.read = s.restored.toDatum := by
  have hkind : Text.restored s.kind.label = s.restored.kind.label := by
    rw [s.kind_restored, StepKind.restored_label]
  obtain ⟨name, action⟩ := s
  cases action with
  | navigate url =>
      change Datum.map [_, (.text "kind", .text (Text.restored _)), _] = _
      rw [hkind]
      rfl
  | click target =>
      change Datum.map [_, (.text "kind", .text (Text.restored _)),
        (.text "selector", target.block.read)] = _
      rw [hkind, target.block_read]
      rfl
  | typeText target text | assertText target text =>
      change Datum.map [_, (.text "kind", .text (Text.restored _)),
        (.text "selector", target.block.read), _] = _
      rw [hkind, target.block_read]
      rfl
  | screenshot file =>
      cases file <;>
        · change Datum.map [_, (.text "kind", .text (Text.restored _)), _] = _
          rw [hkind]
          rfl

def Test.stepsPiece : List Step → Yaml.Piece 0 3
  | [] => .nothing
  | s :: steps => .sequence s.block (steps.map Step.block)

theorem Test.stepsPiece_written (steps : List Step) :
    (stepsPiece steps).written = .list (steps.map Step.toDatum) := by
  cases steps with
  | nil => rfl
  | cons s steps =>
      have hblocks : ((s :: steps).map Step.block).map Yaml.Block.written =
          (s :: steps).map Step.toDatum := by
        rw [List.map_map]
        exact List.map_congr_left fun s _ => s.block_written
      exact congrArg Datum.list hblocks

theorem Test.stepsPiece_read (steps : List Step) :
    (stepsPiece steps).read = .list ((steps.map Step.restored).map Step.toDatum) := by
  cases steps with
  | nil => rfl
  | cons s steps =>
      have hblocks : ((s :: steps).map Step.block).map Yaml.Block.read =
          ((s :: steps).map Step.restored).map Step.toDatum := by
        rw [List.map_map, List.map_map]
        exact List.map_congr_left fun s _ => s.block_read
      exact congrArg Datum.list hblocks

def Test.block (t : Test) : Yaml.Block 0 3 where
  first := textField "id" t.id (by decide) (by decide)
  more := [textField "name" t.name (by decide) (by decide),
    ⟨"steps", stepsPiece t.steps, by decide⟩,
    textField "automation_tool" t.tool (by decide) (by decide),
    textField "target_platform" t.platform (by decide) (by decide),
    textField "created_at" t.created.stored (by decide) (by decide)]
  distinct := show ["id", "name", "steps", "automation_tool", "target_platform",
    "created_at"].Nodup by decide

theorem Test.block_written (t : Test) : t.block.written = t.toDatum := by
  change Datum.map [_, _, (.text "steps", (stepsPiece t.steps).written), _, _, _] = _
  rw [stepsPiece_written]
  rfl

/-- A written moment holds digits and a few marks. -/
theorem Moment.nextLine_notMem_stored (m : Moment) : Yaml.nextLine ∉ m.stored.toList := by
  have hdigits : ∀ width n, Yaml.nextLine ∉ Binary64.padded width n := by
    intro width n hmem
    have hdigit := List.all_eq_true.mp (Binary64.all_isAsciiDigit_padded width n) _ hmem
    exact absurd hdigit (by decide)
  have htwo : ∀ n, Yaml.nextLine ∉ two n := hdigits 2
  have hmark : ∀ mark ∈ "-:.TZ+".toList, Yaml.nextLine ≠ mark := by
    rintro mark hmem rfl
    revert hmem
    decide
  have hminus := hmark '-' (by decide)
  have hcolon := hmark ':' (by decide)
  have hdate : Yaml.nextLine ∉ m.writeDate := by simp [writeDate, hdigits, htwo, hminus]
  have htime : Yaml.nextLine ∉ m.writeTime := by
    unfold writeTime
    split <;> simp [hdigits, htwo, hcolon, hmark '.' (by decide)]
  have hoffset : ∀ minutes, Yaml.nextLine ∉ writeOffset minutes := by
    intro minutes
    unfold writeOffset
    split <;> simp [htwo, hcolon, hminus, hmark '+' (by decide)]
  rw [stored, String.toList_ofList, write, List.mem_append, List.mem_append, List.mem_cons]
  rintro ((h | h | h) | h)
  · exact hdate h
  · exact hmark 'T' (by decide) h
  · exact htime h
  · split at h
    · cases h
    · split at h
      · exact hmark 'Z' (by decide) (List.mem_singleton.mp h)
      · exact hoffset _ h

theorem Moment.restored_stored (m : Moment) : Text.restored m.stored = m.stored := by
  rw [Text.restored_eq_self_iff]
  exact fun _ => m.nextLine_notMem_stored

theorem Test.block_read (t : Test) : t.block.read = t.restored.toDatum := by
  change Datum.map [_, _, (.text "steps", (stepsPiece t.steps).read), _, _,
    (.text "created_at", .text (Text.restored t.created.stored))] = _
  rw [stepsPiece_read, t.created.restored_stored]
  rfl

/-! ## Loading what was written -/

/-- A step comes back exactly if its value is not blank and all its texts come back. -/
theorem Step.reread_restored_iff (s : Step) :
    s.restored.reread = .ok s ↔ s.Filled ∧ ∀ text ∈ s.texts, Text.Kept text := by
  rw [← s.restored_eq_self_iff]
  constructor
  · intro hread
    have hrestored : s.restored = s := by
      by_cases hfilled : s.restored.Filled
      · rw [reread, if_pos hfilled] at hread
        exact Except.ok.inj hread
      · -- A screenshot that lost its value is not the step, as the value was there before.
        rw [reread, if_neg hfilled] at hread
        obtain ⟨name, action⟩ := s
        cases action with
        | screenshot file =>
            cases file with
            | none => exact absurd (fun _ h => nomatch h) hfilled
            | some file => cases congrArg Step.action (Except.ok.inj hread)
        | _ => cases hread
    rw [hrestored] at hread
    exact ⟨s.reread_eq_self_iff.mp hread, hrestored⟩
  · rintro ⟨hfilled, hrestored⟩
    rw [hrestored]
    exact s.reread_eq_self_iff.mpr hfilled

/-- Steps come back exactly if each of them does. -/
theorem Test.mapM_reread_restored_iff (steps : List Step) :
    (steps.map Step.restored).mapM Step.reread = .ok steps ↔
      ∀ s ∈ steps, s.restored.reread = .ok s := by
  induction steps with
  | nil => exact iff_of_true rfl (List.forall_mem_nil _)
  | cons s steps ih =>
      rw [List.map_cons, List.mapM_cons, List.forall_mem_cons, ← ih]
      cases s.restored.reread with
      | error fault => exact ⟨nofun, fun h => nomatch h.1⟩
      | ok step =>
          cases (steps.map Step.restored).mapM Step.reread with
          | error fault => exact ⟨nofun, fun h => nomatch h.2⟩
          | ok others => simp [Bind.bind, Except.bind, Pure.pure, Except.pure]

/-- A test comes back exactly if its steps do and all its texts come back. -/
theorem Test.reread_restored_iff (t : Test) :
    t.restored.reread = .ok t ↔
      (∀ s ∈ t.steps, s.Filled) ∧ ∀ text ∈ t.texts, Text.Kept text := by
  have hsteps : t.restored.reread = .ok t ↔
      (Text.Kept t.id ∧ Text.Kept t.name ∧ Text.Kept t.tool ∧ Text.Kept t.platform) ∧
        (t.steps.map Step.restored).mapM Step.reread = .ok t.steps := by
    obtain ⟨id, name, steps, tool, platform, created⟩ := t
    unfold reread restored
    simp only
    cases (steps.map Step.restored).mapM Step.reread with
    | error fault => exact iff_of_false nofun fun h => nomatch h.2
    | ok others =>
        simp only [Except.map, Except.ok.injEq, Test.mk.injEq, Text.restored_eq_self_iff, Text.Kept]
        tauto
  rw [hsteps, mapM_reread_restored_iff]
  simp only [Step.reread_restored_iff, texts, List.forall_mem_cons, List.mem_flatMap]
  constructor
  · rintro ⟨⟨hid, hname, htool, hplatform⟩, hall⟩
    refine ⟨fun s hs => (hall s hs).1, hid, hname, htool, hplatform, ?_⟩
    rintro text ⟨s, hs, htext⟩
    exact (hall s hs).2 text htext
  · rintro ⟨hfilled, hid, hname, htool, hplatform, hall⟩
    exact ⟨⟨hid, hname, htool, hplatform⟩, fun s hs =>
      ⟨hfilled s hs, fun text htext => hall text ⟨s, hs, htext⟩⟩⟩

/-- What is read of a written test. -/
theorem Test.read_written (t : Test) :
    Yaml.read (Chars.unifyLineEnds (Yaml.write t.toDatum)) = .ok t.restored.toDatum := by
  have hread := Yaml.read_write t.block (by decide)
  rwa [t.block_written, t.block_read] at hread

namespace Repository

/-- The format restores the stored form of a test whose texts are kept. -/
theorem Format.restores_of_kept {t : Test} (h : ∀ text ∈ t.texts, Text.Kept text) :
    Format.yaml.Restores t.toDatum := by
  have hread := t.read_written
  rwa [Test.restored_eq_self_of_kept h] at hread

theorem Directory.file_of_save {r : Directory} {disk : Disk} {test : Test} {during : Supply}
    (hsaved : (r.save disk test during).1.result = .ok test) :
    ∃ tests, (r.scan disk during).result = .ok tests ∧
      (r.save disk test during).2.file (r.pathFor tests test.id) =
        .ok (written r.format test disk.present) := by
  rcases save_cases r disk test during with
    ⟨_, fault, hfault⟩ | ⟨tests, place, hscan, hlocate, hplace, hwritten⟩
  · cases hsaved.symm.trans hfault
  · rw [hwritten]
    exact ⟨tests, hscan, file_withTest hplace hlocate⟩

/-- The file to which a test was saved gives this very test exactly if every value in its steps is
more than blanks, and no text that is written between single marks holds the next-line control. -/
theorem Directory.saved_loads_iff (r : Directory) (disk : Disk) (test : Test)
    (during after : Supply) (hyaml : r.format = .yaml)
    (hsaved : (r.save disk test during).1.result = .ok test) :
    ∃ tests, (r.scan disk during).result = .ok tests ∧
      (loadFile r.format (r.save disk test during).2 (r.pathFor tests test.id) after =
          (.ok test, after) ↔
        (∀ s ∈ test.steps, s.Filled) ∧
          ∀ text ∈ test.texts,
            Yaml.styleOf text.toList = .single → Yaml.nextLine ∉ text.toList) := by
  obtain ⟨tests, hscan, hfile⟩ := file_of_save hsaved
  refine ⟨tests, hscan, ?_⟩
  rw [hyaml] at hfile ⊢
  rw [loadFile_of_read test.read_written hfile after]
  rw [Prod.mk.injEq, and_iff_left rfl]
  refine Iff.trans ?_ test.reread_restored_iff
  cases test.restored.reread with
  | error fault => exact iff_of_false nofun nofun
  | ok again => simp [mapError_ok]

def Directory.emptyTests : Disk := ⟨[(["tests"], .directory)], [], 1⟩

/-- A test with the next-line control in its name. -/
def Directory.controlled : Test := { login with name := "a\u0085b" }

theorem Directory.scan_emptyTests :
    (yamlTests.scan emptyTests (.still 0)).result = .ok [] := by
  have hmatching : patterns.flatMap (fun pattern => emptyTests.matching "tests" pattern) = [] := by
    decide
  have hfiles : yamlTests.files emptyTests = [] := by
    unfold files
    rw [show yamlTests.path = "tests" from rfl, hmatching]
    exact List.mergeSort_nil
  rw [scan, hfiles]
  rfl

theorem Directory.save_emptyTests {test : Test} (hid : test.id = "login") :
    (yamlTests.save emptyTests test (.still 0)).1.result = .ok test := by
  have hpath : yamlTests.pathFor [] test.id = "tests/login.yaml" := by
    rw [hid]
    decide
  have hplace : emptyTests.locateForWriting "tests/login.yaml" = .ok ["tests", "login.yaml"] := rfl
  simp [save, scan_emptyTests, Except.bind, store, hpath, Disk.write, hplace, mapError_ok]

/-- The plain test comes back from its file, and the one with the control does not. -/
theorem Directory.saved_loads_iff_controlled :
    (∃ tests, (yamlTests.scan emptyTests (.still 0)).result = .ok tests ∧
      loadFile .yaml (yamlTests.save emptyTests login (.still 0)).2
        (yamlTests.pathFor tests login.id) (.still 0) = (.ok login, .still 0)) ∧
    ∃ tests, (yamlTests.scan emptyTests (.still 0)).result = .ok tests ∧
      loadFile .yaml (yamlTests.save emptyTests controlled (.still 0)).2
        (yamlTests.pathFor tests controlled.id) (.still 0) ≠ (.ok controlled, .still 0) := by
  constructor
  · obtain ⟨tests, hscan, hload⟩ := saved_loads_iff yamlTests emptyTests login (.still 0) (.still 0)
      rfl (save_emptyTests rfl)
    refine ⟨tests, hscan, hload.mpr ⟨by decide, ?_⟩⟩
    decide
  · obtain ⟨tests, hscan, hload⟩ := saved_loads_iff yamlTests emptyTests controlled (.still 0)
      (.still 0) rfl (save_emptyTests rfl)
    refine ⟨tests, hscan, fun hsame => ?_⟩
    have hkept := (hload.mp hsame).2 "a\u0085b" (by decide) (by decide)
    exact hkept (by decide)

end Repository

end Clickpath
