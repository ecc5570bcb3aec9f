import Clickpath.Proofs.Yaml.Clean
import Clickpath.Proofs.Yaml.Nodes

/-! # Written data

A written datum together with what is found of it when it is read: its tokens, the node that they
give, and the datum that this node denotes. Data are put together of texts, nulls, blocks and
sequences of blocks as the stored forms of tests are.
-/

namespace Clickpath.Yaml

open Layout

/-- A datum behind the mark of its entry in a block with a given indentation, and what is read of
it. Its blocks stand at most so deep inside each other. -/
structure Piece (indent depth : Nat) where
  written : Datum
  tokens : List Token
  node : Node
  read : Datum
  scans : ∀ (column : Nat) {level : Nat} {outer : List Int} {line : List Char}
    {after : List Token}, indent < column → level ≤ indent → OpensLine line →
    Scans line level indent outer true after →
    Scans (writeValue indent column written ++ '\n' :: (List.replicate level ' ' ++ line)) column
      indent outer false (tokens ++ after)
  gives : Build.Gives .value depth tokens node
  denotes : Denotes depth node read
  clean : ∀ column, (writeValue indent column written).all isClean = true

/-- A datum under a key. -/
structure Field (indent depth : Nat) where
  name : String
  piece : Piece indent depth
  isKey : isKey name.toList = true

/-- Data under different keys. -/
structure Block (indent depth : Nat) where
  first : Field indent depth
  more : List (Field indent depth)
  distinct : ((first :: more).map (·.name)).Nodup

variable {indent depth level column : Nat} {outer : List Int} {line : List Char}
  {after : List Token}

/-! ## Entries -/

namespace Field

/-- The entry as it is written. -/
def entry (field : Field indent depth) : Datum × Datum := (.text field.name, field.piece.written)

def tokens (field : Field indent depth) : List Token :=
  .key :: .scalar (.ofString field.name) true :: .value :: field.piece.tokens

theorem writeEntry_entry (field : Field indent depth) : writeEntry indent field.entry =
    field.name.toList ++ ':' :: writeValue indent (indent + field.name.toList.length + 1)
      field.piece.written := rfl

end Field

/-- Behind the mark of an entry comes a blank or a line end. -/
theorem isBlankOrEnd_writeValue (indent column : Nat) (d : Datum) (rest : List Char) :
    isBlankOrEnd (writeValue indent column d ++ rest).head? = true := by
  cases d with
  | list items => cases items <;> rfl
  | map entries => cases entries <;> rfl
  | _ => rfl

theorem opensLine_writeEntry (field : Field indent depth) (rest : List Char) :
    OpensLine (writeEntry indent field.entry ++ rest) := by
  rw [field.writeEntry_entry, List.append_assoc]
  exact opensLine_key field.isKey _

theorem Field.ofList_name (field : Field indent depth) :
    String.ofList field.name.toList = field.name := String.ofList_toList

/-- Entries behind an entry, and what comes behind them, start on a line of their own. -/
theorem exists_line_entries (fields : List (Field indent depth)) (hlevel : level ≤ indent)
    (hline : OpensLine line) (h : Scans line level indent outer true after) :
    ∃ (first : Nat) (rest : List Char),
      writeEntries indent (fields.map Field.entry) ++ '\n' :: (List.replicate level ' ' ++ line) =
        '\n' :: (List.replicate first ' ' ++ rest) ∧ first ≤ indent ∧ OpensLine rest ∧
      Scans rest first indent outer true (fields.flatMap Field.tokens ++ after) := by
  induction fields with
  | nil => exact ⟨level, line, rfl, hlevel, hline, h⟩
  | cons field fields ih =>
      obtain ⟨first, rest, htext, hfirst, hrest, hscans⟩ := ih
      refine ⟨indent, writeEntry indent field.entry ++ ('\n' :: (List.replicate first ' ' ++ rest)),
        ?_, Nat.le_refl _, opensLine_writeEntry field _, ?_⟩
      · rw [List.map_cons, writeEntries, ← htext]
        simp [newLine, List.append_assoc]
      · have hvalue := field.piece.scans (indent + field.name.toList.length + 1) (by omega) hfirst
          hrest hscans
        have hkey := hvalue.nextKey field.isKey (isBlankOrEnd_writeValue _ _ _ _)
        rw [field.ofList_name] at hkey
        rw [field.writeEntry_entry, List.append_assoc, List.cons_append, List.flatMap_cons,
          List.append_assoc]
        exact hkey

/-! ## Blocks -/

namespace Block

def fields (block : Block indent depth) : List (Field indent depth) := block.first :: block.more

def written (block : Block indent depth) : Datum := .map (block.fields.map Field.entry)

def read (block : Block indent depth) : Datum :=
  .map (block.fields.map fun field => (.text field.name, field.piece.read))

def node (block : Block indent depth) : Node :=
  .mapping .map (block.fields.map fun field =>
    (.scalar .str (.ofString field.name), field.piece.node))

def tokens (block : Block indent depth) : List Token :=
  .blockMappingStart :: (block.fields.flatMap Field.tokens ++ [.blockEnd])

def text (block : Block indent depth) : List Char :=
  writeEntry indent block.first.entry ++ writeEntries indent (block.more.map Field.entry)

/-- A block that starts deeper than the innermost one, up to the line at which it ends. -/
theorem scans (block : Block indent depth) (parent : Int) (hparent : parent < indent)
    (hlevel : level ≤ indent) (hline : OpensLine line)
    (h : Scans line level indent (parent :: outer) true (.blockEnd :: after)) :
    Scans (block.text ++ '\n' :: (List.replicate level ' ' ++ line)) indent parent outer true
      (block.tokens ++ after) := by
  obtain ⟨first, rest, htext, hfirst, hrest, hscans⟩ :=
    exists_line_entries block.more hlevel hline h
  have hvalue := block.first.piece.scans (indent + block.first.name.toList.length + 1) (by omega)
    hfirst hrest hscans
  have hkey := hvalue.firstKey block.first.isKey (isBlankOrEnd_writeValue _ _ _ _) hparent
  rw [block.first.ofList_name] at hkey
  have htokens : block.tokens ++ after = .blockMappingStart :: .key ::
      .scalar (.ofString block.first.name) true :: .value :: (block.first.piece.tokens ++
        (block.more.flatMap Field.tokens ++ .blockEnd :: after)) := by
    simp [tokens, fields, Field.tokens, List.append_assoc]
  rw [text, List.append_assoc, htext, htokens, block.first.writeEntry_entry, List.append_assoc,
    List.cons_append]
  exact hkey

theorem opensLine (block : Block indent depth) (rest : List Char) :
    OpensLine (block.text ++ rest) := by
  rw [text, List.append_assoc]
  exact opensLine_writeEntry block.first _

/-- The tokens of a block give its node. -/
theorem gives (block : Block indent depth) (setting : Build.Setting) (hsetting : setting ≠ .flow) :
    Build.Gives setting (depth + 1) block.tokens block.node := by
  have hentries : ∀ fields : List (Field indent depth), Build.GivesEntries depth
      (fields.flatMap Field.tokens ++ [.blockEnd])
      (fields.map fun field => (.scalar .str (.ofString field.name), field.piece.node)) := by
    intro fields
    induction fields with
    | nil => exact Build.givesEntries_nil depth
    | cons field fields ih =>
        have hname : Tag.ofPlain field.name.toList = .str := by
          have hname := field.isKey
          simp only [Yaml.isKey, Bool.and_eq_true, beq_iff_eq] at hname
          exact hname.2
        rw [List.flatMap_cons, List.append_assoc]
        exact ih.cons hname field.piece.gives
  exact (hentries block.fields).block hsetting

theorem denotes (block : Block indent depth) : Denotes (depth + 1) block.node block.read :=
  denotes_mapping block.distinct fun field _ => field.piece.denotes

/-- A block is written in characters that a text may hold. -/
theorem clean (block : Block indent depth) : block.text.all isClean = true := by
  have hentry : ∀ field : Field indent depth,
      (writeEntry indent field.entry).all isClean = true := by
    intro field
    have hword := plainWord_of_isKey field.isKey
    simp [field.writeEntry_entry, clean_word hword.2.1, field.piece.clean,
      show isClean ':' = true by decide]
  have hentries : ∀ fields : List (Field indent depth),
      (writeEntries indent (fields.map Field.entry)).all isClean = true := by
    intro fields
    induction fields with
    | nil => rfl
    | cons field fields ih => simp [writeEntries, clean_newLine, hentry, ih]
  rw [text, List.all_append, hentry, hentries]
  rfl

end Block

/-! ## Items -/

/-- The items of a sequence, each behind a hyphen. -/
def itemTokens (blocks : List (Block indent depth)) : List Token :=
  blocks.flatMap fun block => .blockEntry :: block.tokens

theorem writeItem_written (block : Block (indent + 2) depth) :
    writeItem indent block.written = '-' :: ' ' :: block.text := rfl

/-- An item at the indentation of its key, in front of a line that is indented no deeper. -/
theorem Block.scans_item (block : Block (indent + 2) depth) (hlevel : level ≤ indent)
    (hline : OpensLine line) (h : Scans line level indent outer true after) :
    Scans (writeItem indent block.written ++ '\n' :: (List.replicate level ' ' ++ line)) indent
      indent outer true (.blockEntry :: (block.tokens ++ after)) := by
  have hread := block.scans indent (by omega) (by omega) hline (h.close (by omega) hline.noFiller)
  exact (hread.spaces 1 (block.opensLine _).noFiller).item

/-- Items behind an item, and what comes behind them, start on a line of their own. -/
theorem exists_line_items (blocks : List (Block (indent + 2) depth)) (hlevel : level ≤ indent)
    (hline : OpensLine line) (h : Scans line level indent outer true after) :
    ∃ (first : Nat) (rest : List Char),
      writeItems indent (blocks.map Block.written) ++ '\n' :: (List.replicate level ' ' ++ line) =
        '\n' :: (List.replicate first ' ' ++ rest) ∧ first ≤ indent ∧ OpensLine rest ∧
      Scans rest first indent outer true (itemTokens blocks ++ after) := by
  induction blocks with
  | nil => exact ⟨level, line, rfl, hlevel, hline, h⟩
  | cons block blocks ih =>
      obtain ⟨first, rest, htext, hfirst, hrest, hscans⟩ := ih
      refine ⟨indent, writeItem indent block.written ++
        ('\n' :: (List.replicate first ' ' ++ rest)), ?_, Nat.le_refl _, trivial, ?_⟩
      · rw [List.map_cons, writeItems, ← htext]
        simp [newLine, List.append_assoc]
      · have hitem := block.scans_item hfirst hrest hscans
        simpa [itemTokens] using hitem

theorem gives_items (blocks : List (Block indent depth)) :
    Build.GivesItems (depth + 1) (itemTokens blocks) (blocks.map Block.node) := by
  induction blocks with
  | nil => exact Build.givesItems_nil (depth + 1)
  | cons block blocks ih => exact ih.cons rfl (block.gives .block nofun)

/-! ## Values -/

/-- A written text is no filler. -/
theorem noFiller_writeText (s : List Char) (indent column : Nat) (rest : List Char) :
    NoFiller (writeText indent column s ++ rest) := by
  unfold writeText
  split
  next hstyle =>
    obtain ⟨c, more, hmore, hword, hleading, _⟩ :=
      plainFirst_writePlain hstyle indent column rest
    rw [hmore]
    refine noFiller_cons ⟨hword, ?_⟩
    rintro rfl
    exact absurd hleading (by decide)
  next => exact noFiller_cons (by decide)
  next => exact noFiller_cons (by decide)

/-- Every written text is read as a text. -/
theorem scalarTag_textToken (s : List Char) :
    Build.scalarTag none (.ofString (String.ofList (readBack s))) (decide (styleOf s = .plain)) =
      .str := by
  rw [Build.scalarTag_ofString, String.toList_ofList]
  by_cases hstyle : styleOf s = .plain
  · have hsame : readBack s = s := if_neg (by rw [hstyle]; exact nofun)
    rw [hsame, decide_eq_true hstyle, if_pos rfl]
    exact (of_styleOf_plain hstyle).1
  · rw [decide_eq_false hstyle, if_neg Bool.false_ne_true]

namespace Piece

def text (s : String) (hindent : indent + 3 ≤ pageWidth) : Piece indent depth where
  written := .text s
  tokens := [textToken s.toList]
  node := .scalar .str (.ofString (String.ofList (readBack s.toList)))
  read := .text (String.ofList (readBack s.toList))
  scans := by
    intro column level outer line after hcolumn hlevel hline h
    have hread :=
      Scans.text s.toList (column + 1) hindent (Nat.lt_succ_of_lt hcolumn) hlevel hline h
    exact hread.spaces 1 (noFiller_writeText _ _ _ _)
  gives := by
    have hscalar := Build.gives_scalar .value depth (.ofString (String.ofList (readBack s.toList)))
      (decide (styleOf s.toList = .plain))
    rwa [scalarTag_textToken] at hscalar
  denotes := denotes_text depth _
  clean := by
    intro column
    simp [writeValue, clean_writeText]

def null : Piece indent depth where
  written := .null
  tokens := [.scalar (.ofString "null") true]
  node := .scalar .null (.ofString "null")
  read := .null
  scans := by
    intro column level outer line after hcolumn hlevel hline h
    have hread := Scans.null (Nat.lt_succ_of_lt hcolumn) hlevel hline h
    exact hread.spaces 1 (noFiller_cons (by decide))
  gives := Build.gives_scalar .value depth (.ofString "null") true
  denotes := denotes_scalar depth rfl
  clean := fun _ => show " null".toList.all isClean = true by decide

def nothing : Piece indent (depth + 1) where
  written := .list []
  tokens := [.flowSequenceStart, .flowSequenceEnd]
  node := .sequence .seq []
  read := .list []
  scans := by
    intro column level outer line after hcolumn hlevel hline h
    have hread := Scans.brackets (Nat.lt_succ_of_lt hcolumn) fun behind =>
      h.line level behind false hline.noFiller
    exact hread.spaces 1 (noFiller_cons (by decide))
  gives := Build.gives_brackets .value depth
  denotes := denotes_sequence (fun _ : Datum => .empty) id (List.forall_mem_nil _)
  clean := fun _ => show " []".toList.all isClean = true by decide

/-- A block on the lines behind its key. -/
def block (block : Block (indent + 2) depth) : Piece indent (depth + 1) where
  written := block.written
  tokens := block.tokens
  node := block.node
  read := block.read
  scans := by
    intro column level outer line after hcolumn hlevel hline h
    have hread := block.scans indent (by omega) (by omega) hline
      (h.close (by omega) hline.noFiller)
    have hvalue := hread.line (indent + 2) column false (block.opensLine _).noFiller
    simpa [writeValue, Block.written, Block.fields, Block.text, newLine] using hvalue
  gives := block.gives .value nofun
  denotes := block.denotes
  clean := fun _ => by
    have hclean := block.clean
    rw [Block.text, List.all_append, Bool.and_eq_true] at hclean
    simp [writeValue, Block.written, Block.fields, clean_newLine, hclean]

/-- Items on the lines behind their key. -/
def sequence (first : Block (indent + 2) depth) (more : List (Block (indent + 2) depth)) :
    Piece indent (depth + 2) where
  written := .list ((first :: more).map Block.written)
  tokens := itemTokens (first :: more)
  node := .sequence .seq ((first :: more).map Block.node)
  read := .list ((first :: more).map Block.read)
  scans := by
    intro column level outer line after hcolumn hlevel hline h
    obtain ⟨next, rest, htext, hnext, hrest, hscans⟩ := exists_line_items more hlevel hline h
    have hitem := (first.scans_item hnext hrest hscans).line indent column false
      (noFiller_cons (by decide))
    rw [← htext] at hitem
    simpa [writeValue, writeItem_written, Block.text, itemTokens, newLine] using hitem
  gives := (gives_items (first :: more)).sequence rfl
  denotes := denotes_sequence Block.node Block.read fun block _ => block.denotes
  clean := fun _ => by
    have hitem : ∀ block : Block (indent + 2) depth,
        (writeItem indent block.written).all isClean = true := by
      intro block
      simp [writeItem_written, block.clean, show isClean '-' = true by decide]
    have hitems : ∀ blocks : List (Block (indent + 2) depth),
        (writeItems indent (blocks.map Block.written)).all isClean = true := by
      intro blocks
      induction blocks with
      | nil => rfl
      | cons block blocks ih => simp [writeItems, clean_newLine, hitem, ih]
    simp [writeValue, clean_newLine, hitem, hitems]

end Piece

/-! ## Whole texts -/

theorem write_written (block : Block 0 depth) : write block.written = block.text ++ ['\n'] := rfl

theorem length_write (block : Block 0 depth) : 4 ≤ (write block.written).length := by
  have hname := List.length_pos_iff.mpr (plainWord_of_isKey block.first.isKey).1
  have hvalue : 0 < (writeValue 0 (0 + block.first.name.toList.length + 1)
      block.first.piece.written).length := by
    apply List.length_pos_iff.mpr
    intro hnil
    have hblank := isBlankOrEnd_writeValue 0 (0 + block.first.name.toList.length + 1)
      block.first.piece.written ['a']
    rw [hnil] at hblank
    exact absurd hblank (by decide)
  rw [write_written, Block.text, Field.writeEntry_entry]
  simp only [List.length_append, List.length_cons, List.length_nil]
  omega

/-- The tokens of a written block. -/
theorem tokens_write (block : Block 0 depth) :
    Yaml.tokens (write block.written) = ⟨block.tokens, none⟩ := by
  have hclean : (write block.written).all isClean = true := by
    rw [write_written, List.all_append, block.clean]
    decide
  have hends : OpensLine [] := trivial
  have hscans := block.scans (-1) (by omega) (Nat.le_refl 0) hends .atEnd
  have hread := hscans (.start (write block.written)) [] ((write block.written).length + 2) rfl rfl
    (by simp [write_written])
  rw [tokens, if_pos (readable_of_clean hclean).1]
  rw [List.append_nil] at hread
  exact hread

/-- The node of a written block. -/
theorem nodeOf?_write (block : Block 0 depth) (hdepth : depth + 1 ≤ nestingLimit) :
    nodeOf? (write block.written) = .ok (some block.node) := by
  have hread := (block.gives .block nofun).reads (4 * block.tokens.length + 8) [] []
    Build.standardHandles nestingLimit (by omega) hdepth nofun
  rw [List.append_nil] at hread
  have hpeek : Build.peek ⟨block.tokens, none, [], [], nestingLimit⟩ =
      .ok (some .blockMappingStart, ⟨block.tokens, none, [], [], nestingLimit⟩) := rfl
  have hends : ∀ fuel, Build.dropEnds fuel ⟨[], none, [], Build.standardHandles, nestingLimit⟩ =
      .ok ((), ⟨[], none, [], Build.standardHandles, nestingLimit⟩) := by
    intro fuel
    cases fuel with
    | zero => rfl
    | succ fuel => rfl
  have hdocument : Build.document (4 * block.tokens.length + 8)
      ⟨block.tokens, none, [], [], nestingLimit⟩ =
        .ok (some block.node, ⟨[], none, [], Build.standardHandles, nestingLimit⟩) := by
    rw [Build.document, Build.run_bind hpeek, if_neg (by decide),
      Build.run_bind (x := modify _) rfl, Build.run_bind hread, pure_bind]
    exact Build.run_bind (hends _)
  unfold nodeOf?
  rw [tokens_write block]
  change (Build.document _ _ >>= _) = _
  rw [hdocument]
  rfl

/-- A written block is read as its parts are. -/
theorem read_write (block : Block 0 depth) (hdepth : depth ≤ 4) :
    read (Chars.unifyLineEnds (write block.written)) = .ok block.read := by
  have hclean : (write block.written).all isClean = true := by
    rw [write_written, List.all_append, block.clean]
    decide
  have hlength := length_write block
  have hdenotes := block.denotes ((write block.written).length + block.node.depth + 2) 0
    (by omega)
  rw [(readable_of_clean hclean).2, read, nodeOf?_write block (by unfold nestingLimit; omega)]
  change Except.mapError _ (dataOf _ _ _) = _
  rw [hdenotes]
  rfl

end Clickpath.Yaml
