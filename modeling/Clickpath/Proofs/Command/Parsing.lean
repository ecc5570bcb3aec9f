import Clickpath.Command.Execution
import Clickpath.Proofs.Assistant.Fencing
import Clickpath.Proofs.Disk.Making
import Clickpath.Proofs.Record.Misfits
import Clickpath.Proofs.Repository.Storing
import Clickpath.Proofs.Run.Agreement
import Clickpath.Proofs.Scenario.LineByLine

/-! # Parsing on the command line

A scenario or a description that is at fault is reported, and the command ends with a status. Some
faults of the input are of no kind that is reported, and these end the program. Whenever no test was
stored, no file was changed either.
-/

namespace Clickpath

open Record

/-! ## Replies -/

namespace Assistant

/-- A fault of a reply that breaks a rule of records. -/
def Fault.IsRefusal : Fault → Prop
  | .record cause => cause.IsRefusal
  | _ => False

/-- A reply that holds no fields, or a misfit among them. -/
inductive Unfit (reply : Option Loose) : Prop
  | noFields {fault : Fault} (hfields : fieldsIn reply = .error fault)
  | misfit {entries : List (Datum × Datum)} (hfields : fieldsIn reply = .ok entries)
      (hmisfit : Designer.HasMisfit entries)

/-- A reply in which no fields are found is none that breaks a rule of records. -/
theorem not_isRefusal_of_fieldsIn {reply : Option Loose} {fault : Fault}
    (h : fieldsIn reply = .error fault) : ¬fault.IsRefusal := by
  cases reply with
  | none =>
      cases h
      exact id
  | some text =>
      rw [fieldsIn.eq_def] at h
      dsimp only at h
      cases hread : Json.read (unfenced text) with
      | error cause =>
          rw [hread] at h
          cases h
          exact id
      | ok d =>
          rw [hread] at h
          cases d <;> cases h <;> exact id

/-- The script target is no step. -/
theorem part?_steps_withTarget (tool platform : Datum) (entries : List (Datum × Datum)) :
    Designer.part? (withTarget tool platform entries) "steps" = Designer.part? entries "steps" := by
  unfold Designer.part? withTarget
  rw [Datum.lookup?_insert, if_neg (by decide), Datum.lookup?_insert, if_neg (by decide)]

/-- A reply that makes no test is refused for a rule of records, unless it is unfit. -/
theorem readReply_unfit_iff (reply : Option Loose) (tool platform : Datum) (supply : Supply) :
    (∃ fault, (readReply (τ := Loose) reply tool platform supply).1 = .error fault ∧
        ¬fault.IsRefusal) ↔ Unfit reply := by
  cases hfields : fieldsIn reply with
  | error fault =>
      refine iff_of_true ⟨fault, ?_, not_isRefusal_of_fieldsIn hfields⟩ (.noFields hfields)
      rw [readReply, hfields]
  | ok entries =>
      have hunfit : Unfit reply ↔ Designer.HasMisfit entries := by
        constructor
        · intro h
          cases h with
          | noFields h => cases hfields.symm.trans h
          | misfit h hmisfit =>
              cases hfields.symm.trans h
              exact hmisfit
        · exact .misfit hfields
      rw [hunfit, ← Designer.hasMisfit_congr (part?_steps_withTarget tool platform entries),
        ← Designer.derails_readTest_iff _ supply, readReply_eq hfields]
      cases (Designer.readTest (τ := Loose) (withTarget tool platform entries) supply).1 with
      | ok test =>
          apply iff_of_false
          · rintro ⟨_, ⟨⟩, -⟩
          · rintro ⟨_, ⟨⟩, -⟩
      | error cause =>
          rw [Designer.derails_error_iff]
          constructor
          · rintro ⟨_, ⟨⟩, hrefusal⟩
            exact hrefusal
          · exact fun hrefusal => ⟨.record cause, rfl, hrefusal⟩

end Assistant

/-- Opening a directory for tests changes no file, whether or not it must be made. -/
theorem Repository.Directory.sameFiles_ofPath (format : Format) (path : String) (disk : Disk) :
    disk.SameFiles (ofPath format path disk).2 := by
  unfold ofPath
  split
  next => exact .refl disk
  next => exact Disk.sameFiles_makeWith true path.length disk path

/-! ## Parts of the command -/

namespace Command

variable {σ τ : Type}

theorem bind_apply (m : Task σ τ α) (f : α → Task σ τ β) (w : World σ τ) :
    (m >>= f) w = match m w with
      | (.ok a, later) => f a later
      | (.error failure, later) => (.error failure, later) := by
  show ExceptT.bindCont f (m w).1 (m w).2 = _
  rcases m w with ⟨_ | _, later⟩ <;> rfl

section

variable {services : Services σ τ} {r : ParseRequest} {w : World σ τ}

/-- The output takes a text, as it takes every whole text. -/
def Printable (services : Services σ τ) (text : Loose) : Prop :=
  ∀ torn : Torn, torn.val = text → (services.shows torn).isSome

/-- Printing a text adds to the output alone, and it fails if the output does not take the text. -/
theorem printLoosely_cases (services : Services σ τ) (text : Loose) (w : World σ τ) :
    (Printable services text ∧
        ∃ output, printLoosely services text w = (.ok (), { w with output := output })) ∨
      (¬Printable services text ∧ printLoosely services text w = (.error .unprintable, w)) := by
  unfold printLoosely
  split
  next hwhole =>
    refine .inl ⟨?_, _, rfl⟩
    rintro torn rfl
    cases torn.property.symm.trans hwhole
  next htorn =>
    cases hshown : services.shows ⟨text, Loose.torn_of_not_whole htorn⟩ with
    | some shown =>
        refine .inl ⟨?_, _, rfl⟩
        rintro torn rfl
        exact Option.isSome_of_eq_some hshown
    | none =>
        refine .inr ⟨fun hprintable => ?_, rfl⟩
        have hsome := hprintable ⟨text, Loose.torn_of_not_whole htorn⟩ rfl
        rw [hshown] at hsome
        cases hsome

def replyTo (services : Services σ τ) (w : World σ τ) (description : String) : Option Loose :=
  w.chat.reply ⟨services.settings.model, Assistant.instructions, description⟩

theorem readText_of_file {path : String} {file : File} (hfile : w.disk.file path = .ok file) :
    readText path w = (file.content.read.mapError .notText, w) := by
  rw [readText, hfile]

/-- With a language model the test is made of its reply, under the name that was asked for. No file
is touched. -/
theorem parseText_of_model (hmodel : r.withModel = true)
    (hkey : services.settings.usableKey?.isSome) (w : World σ τ) (text : String) :
    (parseText services r text w).1 =
        ((Assistant.readReply (replyTo services w text) (.text r.tool) (.text r.platform)
            w.supply).1.map fun test =>
          { test with name := (r.name.map Loose.ofString).getD test.name }).mapError .assistant ∧
      (parseText services r text w).2.disk = w.disk := by
  have hsome : services.settings.usableKey?.isNone = false := by
    rw [Option.isNone_eq_false_iff]
    exact hkey
  have hset : requireKey services.settings w = (.ok (), w) := by
    rw [requireKey, hsome]
    rfl
  unfold parseText askModel
  rw [hmodel, if_pos rfl, bind_apply, hset]
  dsimp only
  rw [bind_apply]
  unfold Assistant.parse Chat.ask replyTo
  dsimp only
  cases (Assistant.readReply (τ := Loose)
      (w.chat.reply ⟨services.settings.model, Assistant.instructions, text⟩)
      (.text r.tool) (.text r.platform) w.supply).1 with
  | ok test => exact ⟨rfl, rfl⟩
  | error fault => exact ⟨rfl, rfl⟩

theorem parseText_of_scenario (hmodel : r.withModel = false) (services : Services σ τ)
    (w : World σ τ) (text : String) :
    (parseText services r text w).1 =
        ((Scenario.toTest text (r.name.getD "Untitled Test") r.tool r.platform
          w.supply).1.2.map (·.map Loose.ofString)).mapError .record ∧
      (parseText services r text w).2.disk = w.disk := by
  unfold parseText
  rw [hmodel, if_neg Bool.false_ne_true]
  exact ⟨rfl, rfl⟩

theorem writeOrPrint_of_place {output : Option String}
    (houtput : ∀ path ∈ output, ∃ place, w.disk.locateForWriting path = .ok place) (text : String) :
    (writeOrPrint text output w).1 = .ok () := by
  cases output with
  | none => rfl
  | some path =>
      obtain ⟨place, hplace⟩ := houtput path rfl
      rw [writeOrPrint, bind_apply, writeText, Disk.write, hplace]
      rfl

theorem openDirectory_of_ok {path : String} {directory : Repository.Directory} {opened : Disk}
    (hopened : Repository.Directory.ofPath .yaml path w.disk = (.ok directory, opened)) :
    openDirectory path w = (.ok directory, w.withDisk opened) := by
  rw [openDirectory, hopened]
  rfl

/-- After a scan a test is saved in a directory as it is stored there. -/
theorem saveTo_of_scan {directory : Repository.Directory}
    {found : List (Repository.Found Loose)}
    (hscan : (directory.scan w.disk w.supply).result = .ok found) (test : Test Loose) :
    (saveTo directory test w).1 =
        ((directory.store w.disk found test).map fun _ => ()).mapError .repository ∧
      (saveTo directory test w).2.disk =
        (directory.store w.disk found test).toOption.getD w.disk := by
  obtain ⟨hresult, hdisk⟩ := Repository.Directory.save_of_scan hscan test
  unfold saveTo
  dsimp only
  rw [hresult]
  refine ⟨?_, hdisk⟩
  cases directory.store w.disk found test <;> rfl

end

/-! ## Endings -/

/-- A failure that has to do neither with the key for the language model nor with a session. -/
def Failure.IsPlain : Failure → Prop
  | .missingKey | .session _ => False
  | _ => True

/-- A plain failure is reported if it is expected, and else it ends the program. -/
theorem exit_conclude_error (level : Nat) {failure : Failure} (h : failure.IsPlain) :
    (conclude level (.error failure)).exit =
      if failure.isExpected then .status 2 else .failure failure := by
  cases failure with
  | missingKey | session => cases h
  | _ =>
      unfold conclude Failure.isInterrupt
      dsimp only
      rw [if_neg Bool.false_ne_true]
      split <;> rfl

theorem isExpected_record_iff (cause : Record.Fault) :
    (Failure.record cause).isExpected = true ↔ cause.IsRefusal := by
  cases cause <;> simp [Failure.isExpected, Repository.Fault.isOfOneTest, Record.Fault.IsRefusal]

theorem isExpected_assistant_iff (cause : Assistant.Fault) :
    (Failure.assistant cause).isExpected = true ↔ cause.IsRefusal := by
  cases cause with
  | record cause => exact isExpected_record_iff cause
  | _ => exact iff_of_false nofun id

theorem isExpected_unwritten_iff (fault : Disk.Fault) :
    (Failure.repository (.disk fault)).isExpected = true ↔ fault.cause ≠ .zeroInPath := by
  simp [Failure.isExpected, Repository.Fault.message?, Repository.Fault.isOfOneTest]

/-- A result, or a plain failure, which is not expected just if `escapes` holds. -/
inductive Ends (escapes : Prop) : Except Failure α → Prop
  | ok (a : α) (h : ¬escapes) : Ends escapes (.ok a)
  | error {failure : Failure} (hplain : failure.IsPlain)
      (h : failure.isExpected = true ↔ ¬escapes) : Ends escapes (.error failure)

/-- What is not expected ends in a failure that escapes. -/
theorem Ends.escape {p : Prop} {failure : Failure} (hplain : failure.IsPlain)
    (hother : failure.isExpected = false) (h : p) : Ends p (.error failure : Except Failure α) :=
  .error hplain (iff_of_false (Bool.eq_false_iff.mp hother) (not_not_intro h))

/-! ## Parsing -/

section

variable {services : Services σ τ} {r : ParseRequest} {w : World σ τ}

/-- Parsing fails unreported exactly if the language model gives an unfit reply. -/
theorem ends_parseText (hkey : r.withModel = true → services.settings.usableKey?.isSome)
    (w : World σ τ) (text : String) :
    Ends (r.withModel = true ∧ Assistant.Unfit (replyTo services w text))
        (parseText services r text w).1 ∧
      (parseText services r text w).2.disk = w.disk := by
  cases hmodel : r.withModel with
  | true =>
      obtain ⟨hresult, hdisk⟩ := parseText_of_model hmodel (hkey hmodel) w text
      refine ⟨?_, hdisk⟩
      rw [hresult, and_iff_right rfl, ← Assistant.readReply_unfit_iff _ (.text r.tool)
        (.text r.platform) w.supply]
      cases (Assistant.readReply (τ := Loose) (replyTo services w text) (.text r.tool)
          (.text r.platform) w.supply).1 with
      | ok test => exact .ok _ nofun
      | error fault =>
          refine .error trivial ((isExpected_assistant_iff fault).trans ?_)
          constructor
          · rintro hrefusal ⟨_, ⟨⟩, hother⟩
            exact hother hrefusal
          · exact fun h => by_contra fun hother => h ⟨fault, rfl, hother⟩
  | false =>
      obtain ⟨hresult, hdisk⟩ := parseText_of_scenario hmodel services w text
      refine ⟨?_, hdisk⟩
      rw [hresult]
      have hrefuses := Scenario.refuses_toTest text (r.name.getD "Untitled Test") r.tool r.platform
        w.supply
      cases hmade : (Scenario.toTest text (r.name.getD "Untitled Test") r.tool r.platform
          w.supply).1.2 with
      | ok test => exact .ok _ nofun
      | error fault =>
          refine .error trivial ?_
          exact iff_of_true ((isExpected_record_iff fault).mpr (hrefuses fault hmade)) nofun

/-- The test can be put where it is asked for: the directory can be opened and its tests scanned, or
a file can be written to. -/
def Placed (r : ParseRequest) (w : World σ τ) : Prop :=
  match r.directory with
  | some path => ∃ directory opened, ∃ found : List (Repository.Found Loose),
      Repository.Directory.ofPath .yaml path w.disk = (.ok directory, opened) ∧
        (directory.scan opened w.supply).result = .ok found
  | none => ∀ path ∈ r.output, ∃ place, w.disk.locateForWriting path = .ok place

/-- The test is to go to a file in the directory that cannot be named after it. -/
def Misplaced (r : ParseRequest) (disk : Disk) (test : Test Loose) : Prop :=
  ∃ path directory opened, r.directory = some path ∧
    Repository.Directory.ofPath .yaml path disk = (.ok directory, opened) ∧
      directory.Misplaces opened test.id

/-- The test is saved in the directory, and the output does not take the line that says so. -/
def Unannounced (services : Services σ τ) (r : ParseRequest) (w : World σ τ) (test : Test Loose) :
    Prop :=
  ∃ path directory opened, r.directory = some path ∧
    Repository.Directory.ofPath .yaml path w.disk = (.ok directory, opened) ∧
      (directory.save opened test w.supply).1.result = .ok test ∧
        ¬Printable services (savedLine test path)

/-- Reading the text does nothing to the disk, so a test can be put there as before. -/
theorem Placed.of_disk {later : World σ τ} (h : Placed r w) (hdisk : later.disk = w.disk) :
    Placed r later := by
  unfold Placed at h ⊢
  rw [hdisk]
  cases hpath : r.directory with
  | none =>
      rw [hpath] at h
      exact h
  | some path =>
      rw [hpath] at h
      obtain ⟨directory, opened, found, hopened, hscan⟩ := h
      obtain ⟨others, hagain⟩ := Repository.Directory.scan_again hscan later.supply
      exact ⟨directory, opened, others, hopened, hagain⟩

section

variable {path : String} (hpath : r.directory = some path) {directory : Repository.Directory}
  {opened : Disk}
  (hopened : Repository.Directory.ofPath .yaml path w.disk = (.ok directory, opened))

include hpath hopened

/-- A test that is to go to a directory is misplaced as its identifier is. -/
theorem misplaced_iff (test : Test Loose) :
    Misplaced r w.disk test ↔ directory.Misplaces opened test.id := by
  constructor
  · rintro ⟨other, _, _, hother, hagain, h⟩
    cases hpath.symm.trans hother
    cases hopened.symm.trans hagain
    exact h
  · exact fun h => ⟨path, directory, opened, hpath, hopened, h⟩

theorem unannounced_iff (test : Test Loose) :
    Unannounced services r w test ↔
      (directory.save opened test w.supply).1.result = .ok test ∧
        ¬Printable services (savedLine test path) := by
  constructor
  · rintro ⟨other, _, _, hother, hagain, h⟩
    cases hpath.symm.trans hother
    cases hopened.symm.trans hagain
    exact h
  · exact fun h => ⟨path, directory, opened, hpath, hopened, h⟩

/-- In a directory that can be scanned a test is stored and the output told of it, unless it is
misplaced or the output does not take its identifier. -/
theorem ends_keepTest_of_directory {found : List (Repository.Found Loose)}
    (hscan : (directory.scan opened w.supply).result = .ok found) (test : Test Loose)
    (output : Option String) :
    Ends (Misplaced r w.disk test ∨ Unannounced services r w test)
        (keepTest services test (some path) output w).1 ∧
      ∀ failure, (keepTest services test (some path) output w).1 = .error failure →
        Unannounced services r w test ∨
          w.disk.SameFiles (keepTest services test (some path) output w).2.disk := by
  have hfiles : w.disk.SameFiles opened := by
    have h := Repository.Directory.sameFiles_ofPath .yaml path w.disk
    rwa [hopened] at h
  obtain ⟨hsaved, hdisk⟩ : (saveTo directory test (w.withDisk opened)).1 =
        ((directory.store opened found test).map fun _ => ()).mapError .repository ∧
      (saveTo directory test (w.withDisk opened)).2.disk =
        (directory.store opened found test).toOption.getD opened :=
    saveTo_of_scan (w := w.withDisk opened) hscan test
  rw [misplaced_iff hpath hopened, unannounced_iff hpath hopened,
    (Repository.Directory.save_of_scan hscan test).1]
  unfold keepTest
  dsimp only
  rw [bind_apply, openDirectory_of_ok hopened]
  dsimp only
  rw [bind_apply]
  generalize saveTo directory test (w.withDisk opened) = done at hsaved hdisk ⊢
  obtain ⟨saved, later⟩ := done
  obtain rfl : saved = _ := hsaved
  rcases Repository.Directory.store_cases hscan test with
    ⟨after, hstored, hnamed⟩ | ⟨hstored, hmisplaces⟩ | ⟨fault, hstored, hmisplaces⟩ <;>
    rw [hstored] at hdisk ⊢ <;> dsimp only [Except.map, Except.mapError]
  · rcases printLoosely_cases services (savedLine test path) later with
      ⟨hprintable, output, hprinted⟩ | ⟨hprintable, hprinted⟩ <;> rw [hprinted]
    · refine ⟨.ok () ?_, nofun⟩
      rintro (hmisplaces | ⟨-, hunprintable⟩)
      · exact hnamed hmisplaces
      · exact hunprintable hprintable
    · exact ⟨.escape trivial rfl (.inr ⟨rfl, hprintable⟩), fun _ _ => .inl ⟨rfl, hprintable⟩⟩
  · exact ⟨.escape trivial rfl (.inl hmisplaces), fun _ _ => .inr (hdisk ▸ hfiles)⟩
  · refine ⟨.error trivial ?_, fun _ _ => .inr (hdisk ▸ hfiles)⟩
    rw [isExpected_unwritten_iff, ne_eq, hmisplaces]
    refine not_congr (or_iff_left ?_).symm
    rintro ⟨⟨⟩, -⟩

end

variable (services) in
/-- A test is kept unless it is misplaced or the output does not take the line for it. If it is not
kept, the files are as they were. -/
theorem ends_keepTest (hplaced : Placed r w) (test : Test Loose) :
    Ends (Misplaced r w.disk test ∨ Unannounced services r w test)
        (keepTest services test r.directory r.output w).1 ∧
      ∀ failure, (keepTest services test r.directory r.output w).1 = .error failure →
        Unannounced services r w test ∨
          w.disk.SameFiles (keepTest services test r.directory r.output w).2.disk := by
  unfold Placed at hplaced
  cases hpath : r.directory with
  | none =>
      rw [hpath] at hplaced
      unfold keepTest
      dsimp only
      rw [writeOrPrint_of_place hplaced]
      refine ⟨.ok () ?_, nofun⟩
      rintro (⟨path, directory, opened, hsome, -⟩ | ⟨path, directory, opened, hsome, -⟩) <;>
        cases hpath.symm.trans hsome
  | some path =>
      rw [hpath] at hplaced
      obtain ⟨directory, opened, found, hopened, hscan⟩ := hplaced
      exact ends_keepTest_of_directory hpath hopened hscan test r.output

/-- The file makes a test, and it is saved without an announcement, since the output does not take
its identifier. -/
def SavesSilently (services : Services σ τ) (r : ParseRequest) (w : World σ τ) (file : File) :
    Prop :=
  ∃ text test later, file.content.read = .ok text ∧
    parseText services r text w = (.ok test, later) ∧ Printable services (parsedLine test) ∧
      Unannounced services r later test

/-- A fault of the input that is of no reported kind: the file holds no text, the language model
gives an unfit reply, the output does not take the name or the identifier of the test, or no file
can be named after its identifier. -/
inductive Escapes (services : Services σ τ) (r : ParseRequest) (w : World σ τ) (file : File) : Prop
  | notText {fault : Utf8.Fault} (hread : file.content.read = .error fault)
  | unfit {text : String} (hread : file.content.read = .ok text) (hmodel : r.withModel = true)
      (hreply : Assistant.Unfit (replyTo services w text))
  | unprintable {text : String} {test : Test Loose} (hread : file.content.read = .ok text)
      (hparsed : (parseText services r text w).1 = .ok test)
      (hline : ¬Printable services (parsedLine test))
  | misplaced {text : String} {test : Test Loose} (hread : file.content.read = .ok text)
      (hparsed : (parseText services r text w).1 = .ok test) (htest : Misplaced r w.disk test)
  | silent (hsaved : SavesSilently services r w file)

/-- A text of which a test is made escapes by what happens to the test. -/
theorem escapes_iff_of_test {file : File} {text : String} (hread : file.content.read = .ok text)
    {test : Test Loose} {later : World σ τ}
    (hparsed : parseText services r text w = (.ok test, later))
    (hfit : ¬(r.withModel = true ∧ Assistant.Unfit (replyTo services w text))) :
    Escapes services r w file ↔ ¬Printable services (parsedLine test) ∨
      Misplaced r w.disk test ∨ Unannounced services r later test := by
  have hresult : (parseText services r text w).1 = .ok test := by rw [hparsed]
  constructor
  · intro h
    cases h with
    | notText h => cases hread.symm.trans h
    | unfit h hmodel hreply =>
        cases hread.symm.trans h
        exact absurd ⟨hmodel, hreply⟩ hfit
    | unprintable h hother hline =>
        cases hread.symm.trans h
        cases hresult.symm.trans hother
        exact .inl hline
    | misplaced h hother htest =>
        cases hread.symm.trans h
        cases hresult.symm.trans hother
        exact .inr (.inl htest)
    | silent hsaved =>
        obtain ⟨_, _, _, h, hother, -, hunannounced⟩ := hsaved
        cases hread.symm.trans h
        cases hparsed.symm.trans hother
        exact .inr (.inr hunannounced)
  · intro h
    by_cases hprintable : Printable services (parsedLine test)
    · rcases h with hline | htest | hunannounced
      · exact absurd hprintable hline
      · exact .misplaced hread hresult htest
      · exact .silent ⟨text, test, later, hread, hparsed, hprintable, hunannounced⟩
    · exact .unprintable hread hresult hprintable

/-- A text of which no test is made escapes by an unfit reply alone. -/
theorem escapes_iff_of_failure {file : File} {text : String} (hread : file.content.read = .ok text)
    {failure : Failure} (hfailed : (parseText services r text w).1 = .error failure) :
    Escapes services r w file ↔
      r.withModel = true ∧ Assistant.Unfit (replyTo services w text) := by
  constructor
  · intro h
    cases h with
    | notText h => cases hread.symm.trans h
    | unfit h hmodel hreply =>
        cases hread.symm.trans h
        exact ⟨hmodel, hreply⟩
    | unprintable h hparsed | misplaced h hparsed =>
        cases hread.symm.trans h
        cases hfailed.symm.trans hparsed
    | silent hsaved =>
        obtain ⟨_, _, _, h, hparsed, -⟩ := hsaved
        cases hread.symm.trans h
        rw [hparsed] at hfailed
        cases hfailed
  · exact fun ⟨hmodel, hreply⟩ => .unfit hread hmodel hreply

/-- How a test ends that was made of a text. -/
theorem ends_parsed {file : File} {text : String} (hread : file.content.read = .ok text)
    {test : Test Loose} {later : World σ τ}
    (hparsed : parseText services r text w = (.ok test, later)) (hdisk : later.disk = w.disk)
    (hplaced : Placed r w)
    (hfit : ¬(r.withModel = true ∧ Assistant.Unfit (replyTo services w text))) :
    let rest : Task σ τ Nat := do
      printLoosely services (parsedLine test)
      keepTest services test r.directory r.output
      return 0
    Ends (Escapes services r w file) (rest later).1 ∧
      (∀ code, (rest later).1 = .ok code → code = 0) ∧
      ∀ failure, (rest later).1 = .error failure →
        SavesSilently services r w file ∨ w.disk.SameFiles (rest later).2.disk := by
  intro rest
  have hescapes := escapes_iff_of_test hread hparsed hfit
  have hrest : rest later = _ := bind_apply _ _ later
  rcases printLoosely_cases services (parsedLine test) later with
    ⟨hprintable, output, hprinted⟩ | ⟨hprintable, hprinted⟩ <;> rw [hrest, hprinted] <;> dsimp only
  · rw [or_iff_right (not_not_intro hprintable), ← hdisk] at hescapes
    have hplaced : Placed r { later with output := output } := hplaced.of_disk hdisk
    obtain ⟨hends, hfiles⟩ := ends_keepTest services hplaced test
    rw [bind_apply]
    rcases hkept : keepTest services test r.directory r.output { later with output := output } with
      ⟨result, last⟩
    rw [hkept] at hends hfiles
    cases hends with
    | ok _ h => exact ⟨.ok 0 (mt hescapes.mp h), fun code h => (Except.ok.inj h).symm, nofun⟩
    | error hplain hexpected =>
        refine ⟨.error hplain (hexpected.trans (not_congr hescapes.symm)), nofun, fun _ _ => ?_⟩
        rcases hfiles _ rfl with hunannounced | hsame
        · exact .inl ⟨text, test, later, hread, hparsed, hprintable, hunannounced⟩
        · exact .inr (hdisk ▸ hsame)
  · refine ⟨.escape trivial rfl (hescapes.mpr (.inl hprintable)), nofun, fun _ _ => .inr ?_⟩
    rw [hdisk]
    exact .refl _

/-- Parsing ends with zero or a reported failure unless the input escapes, and a failure leaves the
files as they were unless the test was saved silently. -/
theorem ends_parseCommand (hkey : r.withModel = true → services.settings.usableKey?.isSome)
    {file : File} (hfile : w.disk.file r.file = .ok file) (hplaced : Placed r w) :
    Ends (Escapes services r w file) (parseCommand services r w).1 ∧
      (∀ code, (parseCommand services r w).1 = .ok code → code = 0) ∧
      ∀ failure, (parseCommand services r w).1 = .error failure →
        SavesSilently services r w file ∨ w.disk.SameFiles (parseCommand services r w).2.disk := by
  unfold parseCommand
  rw [bind_apply, readText_of_file hfile]
  cases hread : file.content.read with
  | error fault =>
      exact ⟨.escape trivial rfl (.notText hread), nofun, fun _ _ => .inr (.refl _)⟩
  | ok text =>
      obtain ⟨hends, hdisk⟩ := ends_parseText hkey w text
      dsimp only [Except.mapError]
      rw [bind_apply]
      rcases hparsed : parseText services r text w with ⟨result, later⟩
      rw [hparsed] at hends hdisk
      cases hends with
      | ok test hfit => exact ends_parsed hread hparsed hdisk hplaced hfit
      | error hplain hexpected =>
          have hfailed : (parseText services r text w).1 = _ := congrArg Prod.fst hparsed
          refine ⟨.error hplain ?_, nofun, fun _ _ => .inr ?_⟩
          · exact hexpected.trans (not_congr (escapes_iff_of_failure hread hfailed).symm)
          · rw [show later.disk = w.disk from hdisk]
            exact .refl _

end

theorem execute_parse (services : Services σ τ) {args : List String} {verbosity : Nat}
    {r : ParseRequest} (hargs : read args = .ok ⟨verbosity, some (.parse r)⟩) (w : World σ τ) :
    execute services args w =
      (conclude (levelFor services.settings verbosity) (parseCommand services r w).1,
        (parseCommand services r w).2) := by
  unfold execute
  rw [hargs]
  rfl

/-- Parsing ends with the status zero or two unless the input has a fault of no reported kind, and
such a fault ends the program. With the status two every file is as it was, and also if such a fault
ends the program, except that a test may have been saved silently. -/
theorem parse_ends_iff (services : Services σ τ) {args : List String} {verbosity : Nat}
    {r : ParseRequest} (hargs : read args = .ok ⟨verbosity, some (.parse r)⟩)
    (hkey : r.withModel = true → services.settings.usableKey?.isSome) (w : World σ τ) {file : File}
    (hfile : w.disk.file r.file = .ok file) (hplaced : Placed r w) :
    let done := execute services args w
    (done.1.exit = .status 0 ∨ done.1.exit = .status 2 ↔ ¬Escapes services r w file) ∧
      ((∃ failure, done.1.exit = .failure failure) ↔ Escapes services r w file) ∧
      (done.1.exit = .status 2 → w.disk.SameFiles done.2.disk) ∧
      (done.1.exit ≠ .status 0 → ¬SavesSilently services r w file →
        w.disk.SameFiles done.2.disk) := by
  intro done
  have hdone : done = _ := execute_parse services hargs w
  obtain ⟨hends, hcode, hfiles⟩ := ends_parseCommand hkey hfile hplaced
  rw [hdone]
  dsimp only
  generalize (parseCommand services r w).1 = result at hends hcode hfiles
  cases hends with
  | ok code hsound =>
      obtain rfl := hcode code rfl
      refine ⟨iff_of_true (.inl rfl) hsound, iff_of_false nofun hsound, nofun, fun h => ?_⟩
      exact absurd rfl h
  | @error failure hplain hexpected =>
      have hexit := exit_conclude_error (levelFor services.settings verbosity) hplain
      rw [hexit]
      cases hreported : failure.isExpected with
      | true =>
          -- What is reported does not escape, so that nothing was saved silently.
          have hsound := hexpected.mp hreported
          have hsame := (hfiles failure rfl).resolve_left fun h => hsound (.silent h)
          exact ⟨iff_of_true (.inr rfl) hsound, iff_of_false nofun hsound, fun _ => hsame,
            fun _ _ => hsame⟩
      | false =>
          have hescapes : Escapes services r w file := by
            by_contra h
            cases hreported.symm.trans (hexpected.mpr h)
          refine ⟨iff_of_false nofun (not_not_intro hescapes), iff_of_true ⟨failure, rfl⟩ hescapes,
            nofun, fun _ => (hfiles failure rfl).resolve_left⟩

def keyedServices : Services Unit Unit where
  settings := { Settings.standard with apiKey := some "key" }
  sessions _ := Run.coveredPage
  driver := Run.obedientDriver
  shows _ := none

/-- A world with one file, and with one reply to every description. -/
def worldWith (bytes : List Nat) (reply : Option Loose) : World Unit Unit :=
  World.withDisk
    { runs := Run.freshSurroundings
      page := ⟨(), []⟩
      web := ⟨fun _ => .unreachable "", []⟩
      chat := ⟨fun _ => reply, []⟩
      output := "" }
    ⟨[(["s.txt"], .file ⟨.ofBytes bytes, 0⟩)], [], 1⟩

/-- A reply without fields ends the program, and no file is written. -/
theorem parse_ends_iff_noFields :
    let w := worldWith [] (some (.ofString "[]"))
    let done := execute keyedServices ["parse", "s.txt", "--llm", "--output", "t.yaml"] w
    (∃ failure, done.1.exit = .failure failure) ∧ w.disk.SameFiles done.2.disk := by
  intro w
  let r : ParseRequest := ⟨"s.txt", none, "playwright", "javascript", true, none, some "t.yaml"⟩
  have hargs : read ["parse", "s.txt", "--llm", "--output", "t.yaml"] = .ok ⟨0, some (.parse r)⟩ :=
    Scenario.eq_ok_of_toOption (by decide +kernel)
  have hfile : w.disk.file "s.txt" = .ok ⟨.text "", 0⟩ := rfl
  have hplaced : Placed r w := by
    rintro path ⟨⟩
    exact ⟨["t.yaml"], rfl⟩
  have hescapes : Escapes keyedServices r w ⟨.text "", 0⟩ := by
    have hfields : Assistant.fieldsIn (some (.ofString "[]")) = .error .notFields := rfl
    have hread : (Content.text "").read = .ok "" := rfl
    exact .unfit hread rfl (.noFields hfields)
  have hannounced : ¬SavesSilently keyedServices r w ⟨.text "", 0⟩ := by
    rintro ⟨text, test, later, -, -, -, path, directory, opened, ⟨⟩, -⟩
  obtain ⟨-, hfails, -, hfiles⟩ := parse_ends_iff keyedServices hargs (fun _ => rfl) w hfile hplaced
  obtain ⟨failure, hexit⟩ := hfails.mpr hescapes
  exact ⟨⟨failure, hexit⟩, hfiles (by rw [hexit]; exact nofun) hannounced⟩

end Command

end Clickpath
