import Clickpath.Datum.Textual
import Clickpath.Proofs.Yaml.Blocks
import Clickpath.Yaml.Value

/-! # Nodes of blocks

Which node is built of the tokens of a block, whatever tokens follow, and which datum this node
denotes.
-/

namespace Clickpath

/-! ## Entries with different names -/

/-- An entry with a new key goes to the end. -/
theorem Datum.insert_of_notMem {entries : List (String × Datum)} {name : String} {d : Datum}
    (hname : name ∉ entries.map (·.1)) :
    insert (entries.map fun entry => (.text entry.1, entry.2)) (.text name) d =
      (entries ++ [(name, d)]).map fun entry => (.text entry.1, entry.2) := by
  induction entries with
  | nil => rfl
  | cons entry entries ih =>
      rw [List.map_cons, List.mem_cons, not_or] at hname
      have hkey : (Datum.text entry.1).sameKey (.text name) = false := by
        simp [sameKey, Ne.symm hname.1]
      rw [List.map_cons, insert, hkey, ih hname.2]
      rfl

/-- Entries with different names stay as they are. -/
theorem Datum.ofEntries_of_nodup {entries : List (String × Datum)} (h : (entries.map (·.1)).Nodup) :
    ofEntries (entries.map fun entry => (.text entry.1, entry.2)) =
      entries.map fun entry => (.text entry.1, entry.2) := by
  have hfold : ∀ more done : List (String × Datum), ((done ++ more).map (·.1)).Nodup →
      (more.map fun entry => (Datum.text entry.1, entry.2)).foldl
        (fun found entry => insert found entry.1 entry.2)
        (done.map fun entry => (.text entry.1, entry.2)) =
      (done ++ more).map fun entry => (.text entry.1, entry.2) := by
    intro more
    induction more with
    | nil =>
        intro done _
        rw [List.append_nil]
        rfl
    | cons entry more ih =>
        intro done hnodup
        have hname : entry.1 ∉ done.map (·.1) := by
          rw [List.map_append, List.map_cons, List.nodup_append] at hnodup
          intro hmem
          exact hnodup.2.2 _ hmem _ List.mem_cons_self rfl
        rw [List.map_cons, List.foldl_cons, insert_of_notMem hname,
          ih (done ++ [entry]) (by rwa [List.append_assoc]), List.append_assoc]
        rfl
  exact hfold entries [] h

namespace Yaml

namespace Build

/-! ## Reading tokens -/

section

variable {α β : Type} {token : Token} {rest : List Token} {anchors : List (String × Node)}
  {handles : List (String × String)} {room : Nat}

theorem run_bind {x : Build α} {f : α → Build β} {p q : Pending} {a : α} (h : x p = .ok (a, q)) :
    (x >>= f) p = f a q := by
  change (x p >>= fun r => f r.1 r.2) = _
  rw [h]
  rfl

theorem peek_cons : peek ⟨token :: rest, none, anchors, handles, room⟩ =
    .ok (some token, ⟨token :: rest, none, anchors, handles, room⟩) := rfl

theorem drop_cons : drop ⟨token :: rest, none, anchors, handles, room⟩ =
    .ok ((), ⟨rest, none, anchors, handles, room⟩) := rfl

theorem peek_eq (tokens : List Token) : peek ⟨tokens, none, anchors, handles, room⟩ =
    .ok (tokens.head?, ⟨tokens, none, anchors, handles, room⟩) := by
  cases tokens <;> rfl

theorem drop?_cons_self : drop? token ⟨token :: rest, none, anchors, handles, room⟩ =
    .ok (true, ⟨rest, none, anchors, handles, room⟩) := by
  rw [drop?, run_bind peek_cons, if_pos rfl]
  rfl

theorem drop?_of_ne {tokens : List Token} (h : tokens.head? ≠ some token) :
    drop? token ⟨tokens, none, anchors, handles, room⟩ =
      .ok (false, ⟨tokens, none, anchors, handles, room⟩) := by
  rw [drop?, run_bind (peek_eq tokens), if_neg h]
  rfl

theorem expect_cons : expect token ⟨token :: rest, none, anchors, handles, room⟩ =
    .ok ((), ⟨rest, none, anchors, handles, room⟩) := by
  rw [expect, run_bind drop?_cons_self]
  rfl

theorem enter_none : enter none ⟨rest, none, anchors, handles, room + 1⟩ =
    .ok ((), ⟨rest, none, anchors, handles, room⟩) := rfl

theorem leave_none (node : Node) : leave none node ⟨rest, none, anchors, handles, room⟩ =
    .ok (node, ⟨rest, none, anchors, handles, room + 1⟩) := rfl

theorem checkName_none (p : Pending) : checkName none p = .ok ((), p) := rfl

def isProperty : Token → Bool
  | .alias _ | .anchor _ | .tag _ _ => true
  | _ => false

/-- A token that belongs to the node itself has no name and no tag in front of it. -/
theorem properties_cons (htoken : isProperty token = false) :
    properties ⟨token :: rest, none, anchors, handles, room⟩ =
      .ok (⟨none, none⟩, ⟨token :: rest, none, anchors, handles, room⟩) := by
  have hanchor? : anchor? ⟨token :: rest, none, anchors, handles, room⟩ =
      .ok (none, ⟨token :: rest, none, anchors, handles, room⟩) := by
    rw [anchor?, run_bind peek_cons]
    cases token with
    | anchor name => cases htoken
    | _ => rfl
  have htag? : tag? ⟨token :: rest, none, anchors, handles, room⟩ =
      .ok (none, ⟨token :: rest, none, anchors, handles, room⟩) := by
    rw [tag?, run_bind peek_cons]
    cases token with
    | tag handle suffix => cases htoken
    | _ => rfl
  rw [properties, run_bind hanchor?, run_bind htag?]
  rfl

end

/-! ## Nodes -/

def startsNode : Option Token → Bool
  | some (.scalar _ _) | some .flowSequenceStart | some .blockMappingStart
  | some .blockEntry => true
  | _ => false

/-- The tokens give a node and leave what is behind them. Items that stand at the indentation of
their key go on as long as there are hyphens. -/
structure Gives (setting : Setting) (depth : Nat) (tokens : List Token) (found : Node) : Prop where
  starts : startsNode tokens.head? = true
  reads : ∀ (fuel : Nat) (after : List Token) (anchors : List (String × Node))
    (handles : List (String × String)) (room : Nat), 3 * tokens.length + 2 ≤ fuel → depth ≤ room →
    (setting = .value → after.head? ≠ some .blockEntry) →
    node fuel setting ⟨tokens ++ after, none, anchors, handles, room⟩ =
      .ok (found, ⟨after, none, anchors, handles, room⟩)

/-- The tokens give the entries of a block, up to its end. -/
structure GivesEntries (depth : Nat) (tokens : List Token) (found : List (Node × Node)) :
    Prop where
  starts : tokens.head? = some .key ∨ tokens.head? = some .blockEnd
  reads : ∀ (fuel : Nat) (after : List Token) (anchors : List (String × Node))
    (handles : List (String × String)) (room : Nat), 3 * tokens.length ≤ fuel → depth ≤ room →
    blockEntries fuel ⟨tokens ++ after, none, anchors, handles, room⟩ =
      .ok (found, ⟨after, none, anchors, handles, room⟩)

/-- The tokens give items, up to what is no hyphen. -/
def GivesItems (depth : Nat) (tokens : List Token) (found : List Node) : Prop :=
  ∀ (fuel : Nat) (after : List Token) (anchors : List (String × Node))
    (handles : List (String × String)) (room : Nat), 3 * tokens.length + 1 ≤ fuel → depth ≤ room →
    after.head? ≠ some .blockEntry →
    bareItems fuel ⟨tokens ++ after, none, anchors, handles, room⟩ =
      .ok (found, ⟨after, none, anchors, handles, room⟩)

theorem scalarTag_ofString (text : String) (plain : Bool) :
    scalarTag none (.ofString text) plain = if plain then .ofPlain text.toList else .str := by
  rw [scalarTag, Loose.shown_ofString]

/-- The token of a scalar gives the scalar. -/
theorem gives_scalar (setting : Setting) (depth : Nat) (text : Loose) (plain : Bool) :
    Gives setting depth [.scalar text plain] (.scalar (scalarTag none text plain) text) where
  starts := rfl
  reads := by
    intro fuel after anchors handles room hfuel _ _
    obtain ⟨fuel, rfl⟩ : ∃ n, fuel = n + 1 := ⟨fuel - 1, by omega⟩
    rw [List.singleton_append, node, run_bind peek_cons]
    dsimp only
    rw [run_bind (properties_cons rfl), run_bind peek_cons, run_bind (checkName_none _)]
    rfl

/-- Brackets with nothing between them give an empty sequence. -/
theorem gives_brackets (setting : Setting) (depth : Nat) :
    Gives setting (depth + 1) [.flowSequenceStart, .flowSequenceEnd] (.sequence .seq []) where
  starts := rfl
  reads := by
    intro fuel after anchors handles room hfuel hroom _
    obtain ⟨fuel, rfl⟩ : ∃ n, fuel = n + 2 := ⟨fuel - 2, by omega⟩
    obtain ⟨room, rfl⟩ : ∃ n, room = n + 1 := ⟨room - 1, by omega⟩
    have hitems :
        flowItems (fuel + 1) true ⟨.flowSequenceEnd :: after, none, anchors, handles, room⟩ =
        .ok ([], ⟨after, none, anchors, handles, room⟩) := by
      rw [flowItems, run_bind drop?_cons_self]
      rfl
    rw [List.cons_append, List.singleton_append, node, run_bind peek_cons]
    dsimp only
    rw [run_bind (properties_cons rfl), run_bind peek_cons, run_bind (checkName_none _)]
    cases setting <;> dsimp only <;>
      rw [run_bind drop_cons, run_bind enter_none, run_bind hitems, leave_none] <;> rfl

section

variable {setting : Setting} {depth fuel room : Nat} {tokens after more : List Token}
  {found : Node} {anchors : List (String × Node)} {handles : List (String × String)}
  {stops : List Token}

/-- A node that may be missing is not, where its tokens are. -/
theorem Gives.nodeUnless (h : Gives setting depth tokens found)
    (hstops : isOneOf stops tokens.head? = false) (hfuel : 3 * tokens.length + 2 ≤ fuel)
    (hroom : depth ≤ room) (hafter : setting = .value → after.head? ≠ some .blockEntry) :
    nodeUnless (fuel + 1) setting stops ⟨tokens ++ after, none, anchors, handles, room⟩ =
      .ok (found, ⟨after, none, anchors, handles, room⟩) := by
  have hreads := h.reads fuel after anchors handles room hfuel hroom hafter
  cases tokens with
  | nil => exact absurd h.starts Bool.false_ne_true
  | cons token tokens =>
      have hstop : isOneOf stops (some token) = false := hstops
      rw [List.cons_append] at hreads ⊢
      rw [Build.nodeUnless, run_bind peek_cons, hstop]
      exact hreads

theorem isOneOf_of_startsNode {token : Option Token} (h : startsNode token = true) :
    isOneOf [.key, .value, .blockEnd] token = false := by
  cases token with
  | none => rfl
  | some token => cases token <;> first | rfl | cases h

theorem givesEntries_nil (depth : Nat) : GivesEntries depth [.blockEnd] [] where
  starts := .inr rfl
  reads := by
    intro fuel after anchors handles room hfuel _
    obtain ⟨fuel, rfl⟩ : ∃ n, fuel = n + 1 := ⟨fuel - 1, by simp at hfuel; omega⟩
    rw [List.singleton_append, blockEntries, run_bind (drop?_of_ne (by simp))]
    simp only [Bool.false_eq_true, if_false]
    rw [run_bind expect_cons]
    rfl

/-- An entry in front of others. -/
theorem GivesEntries.cons {name : String} {entries : List (Node × Node)}
    (hname : Tag.ofPlain name.toList = .str) (hvalue : Gives .value depth tokens found)
    (hmore : GivesEntries depth more entries) :
    GivesEntries depth (.key :: .scalar (.ofString name) true :: .value :: (tokens ++ more))
      ((.scalar .str (.ofString name), found) :: entries) where
  starts := .inl rfl
  reads := by
    intro fuel after anchors handles room hfuel hroom
    simp only [List.length_cons, List.length_append] at hfuel
    obtain ⟨fuel, rfl⟩ : ∃ n, fuel = n + 3 := ⟨fuel - 3, by omega⟩
    have hscalar := gives_scalar .value depth (.ofString name) true
    rw [scalarTag_ofString, if_pos rfl, hname] at hscalar
    have hkey : nodeUnless (fuel + 2) .value [.key, .value, .blockEnd]
        ⟨.scalar (.ofString name) true :: .value :: (tokens ++ more ++ after), none, anchors,
          handles, room⟩ =
        .ok (.scalar .str (.ofString name),
          ⟨.value :: (tokens ++ more ++ after), none, anchors, handles, room⟩) :=
      hscalar.nodeUnless rfl (by simp; omega) hroom fun _ => nofun
    have hnext : (more ++ after).head? ≠ some .blockEntry := by
      rcases hmore.starts with h | h <;> rw [List.head?_append, h] <;> exact nofun
    have hread : Build.nodeUnless (fuel + 1) .value [.key, .value, .blockEnd]
        ⟨tokens ++ (more ++ after), none, anchors, handles, room⟩ =
          .ok (found, ⟨more ++ after, none, anchors, handles, room⟩) :=
      hvalue.nodeUnless (isOneOf_of_startsNode hvalue.starts) (by omega) hroom fun _ => hnext
    have hblockValue : blockValue (fuel + 2)
        ⟨.value :: (tokens ++ more ++ after), none, anchors, handles, room⟩ =
          .ok (found, ⟨more ++ after, none, anchors, handles, room⟩) := by
      rw [blockValue, run_bind drop?_cons_self, List.append_assoc]
      exact hread
    rw [List.cons_append, List.cons_append, List.cons_append, blockEntries,
      run_bind drop?_cons_self]
    simp only [if_true]
    rw [run_bind hkey, run_bind hblockValue,
      run_bind (hmore.reads (fuel + 2) after anchors handles room (by omega) hroom)]
    rfl

/-- A block of entries gives a mapping. -/
theorem GivesEntries.block {entries : List (Node × Node)} (hsetting : setting ≠ .flow)
    (h : GivesEntries depth tokens entries) :
    Gives setting (depth + 1) (.blockMappingStart :: tokens) (.mapping .map entries) where
  starts := rfl
  reads := by
    intro fuel after anchors handles room hfuel hroom _
    rw [List.length_cons] at hfuel
    obtain ⟨fuel, rfl⟩ : ∃ n, fuel = n + 1 := ⟨fuel - 1, by omega⟩
    obtain ⟨room, rfl⟩ : ∃ n, room = n + 1 := ⟨room - 1, by omega⟩
    have hentries := h.reads fuel after anchors handles room (by omega) (by omega)
    rw [List.cons_append, node, run_bind peek_cons]
    dsimp only
    rw [run_bind (properties_cons rfl), run_bind peek_cons, run_bind (checkName_none _)]
    cases setting with
    | flow => exact absurd rfl hsetting
    | block | value =>
        dsimp only
        rw [run_bind drop_cons, run_bind enter_none, run_bind hentries, leave_none]
        rfl

theorem givesItems_nil (depth : Nat) : GivesItems depth [] [] := by
  intro fuel after anchors handles room hfuel _ hafter
  obtain ⟨fuel, rfl⟩ : ∃ n, fuel = n + 1 := ⟨fuel - 1, by omega⟩
  rw [List.nil_append, bareItems, run_bind (drop?_of_ne hafter)]
  rfl

/-- A block behind its hyphen, in front of other items. -/
theorem GivesItems.cons {items : List Node} (hstarts : tokens.head? = some .blockMappingStart)
    (hitem : Gives .block depth tokens found) (hmore : GivesItems depth more items) :
    GivesItems depth (.blockEntry :: (tokens ++ more)) (found :: items) := by
  intro fuel after anchors handles room hfuel hroom hafter
  simp only [List.length_cons, List.length_append] at hfuel
  obtain ⟨fuel, rfl⟩ : ∃ n, fuel = n + 2 := ⟨fuel - 2, by omega⟩
  have hread : Build.nodeUnless (fuel + 1) .block [.blockEntry, .key, .value, .blockEnd]
      ⟨tokens ++ (more ++ after), none, anchors, handles, room⟩ =
        .ok (found, ⟨more ++ after, none, anchors, handles, room⟩) :=
    hitem.nodeUnless (by rw [hstarts]; rfl) (by omega) hroom nofun
  rw [List.cons_append, List.append_assoc, bareItems, run_bind drop?_cons_self]
  simp only [if_true]
  rw [run_bind hread,
    run_bind (hmore (fuel + 1) after anchors handles room (by omega) hroom hafter)]
  rfl

/-- Items at the indentation of their key give a sequence. -/
theorem GivesItems.sequence {items : List Node} (hstarts : tokens.head? = some .blockEntry)
    (h : GivesItems depth tokens items) :
    Gives .value (depth + 1) tokens (.sequence .seq items) where
  starts := by rw [hstarts]; rfl
  reads := by
    intro fuel after anchors handles room hfuel hroom hafter
    obtain ⟨fuel, rfl⟩ : ∃ n, fuel = n + 1 := ⟨fuel - 1, by omega⟩
    obtain ⟨room, rfl⟩ : ∃ n, room = n + 1 := ⟨room - 1, by omega⟩
    have hitems := h fuel after anchors handles room (by omega) (by omega) (hafter rfl)
    cases tokens with
    | nil => cases hstarts
    | cons token tokens =>
        obtain rfl := Option.some.inj hstarts
        rw [List.cons_append] at hitems ⊢
        rw [node, run_bind peek_cons]
        dsimp only
        rw [run_bind (properties_cons rfl), run_bind peek_cons, run_bind (checkName_none _)]
        dsimp only
        rw [run_bind enter_none, run_bind hitems, leave_none]
        rfl

end

end Build

/-! ## Data -/

/-- The node denotes a datum, at any distance from the root. -/
def Denotes (depth : Nat) (node : Node) (d : Datum) : Prop :=
  ∀ (fuel distance : Nat), depth < fuel → dataOf fuel distance node = .ok d

/-- A scalar denotes what it is read as. -/
theorem denotes_scalar (depth : Nat) {tag : Tag} {text : Loose} {d : Datum}
    (h : scalarOf tag text = .ok d) : Denotes depth (.scalar tag text) d := by
  intro fuel distance hfuel
  obtain ⟨fuel, rfl⟩ : ∃ n, fuel = n + 1 := ⟨fuel - 1, by omega⟩
  have hin : at? (distance - 1) (scalarIn (.scalar tag text)) = .ok d := by
    rw [scalarIn, textIn?]
    exact congrArg (at? (distance - 1)) h
  -- No datum that holds others is made of a scalar.
  cases tag <;> first | exact hin | cases h

theorem denotes_text (depth : Nat) (s : String) :
    Denotes depth (.scalar .str (.ofString s)) (.text s) :=
  denotes_scalar depth (congrArg Except.ok (Datum.ofLoose_ofString s))

theorem all_map_ok (f : α → Located β) (g : α → β) {xs : List α}
    (h : ∀ x ∈ xs, f x = .ok (g x)) : all (xs.map f) = .ok (xs.map g) := by
  induction xs with
  | nil => rfl
  | cons x xs ih =>
      obtain ⟨hx, hxs⟩ := List.forall_mem_cons.mp h
      have hrest := ih hxs
      rw [all] at hrest ⊢
      rw [List.map_cons, List.foldr_cons, hrest, hx]
      rfl

/-- Nodes that denote data denote the list of them in a sequence. -/
theorem denotes_sequence {depth : Nat} (item : α → Node) (datum : α → Datum) {items : List α}
    (h : ∀ x ∈ items, Denotes depth (item x) (datum x)) :
    Denotes (depth + 1) (.sequence .seq (items.map item)) (.list (items.map datum)) := by
  intro fuel distance hfuel
  obtain ⟨fuel, rfl⟩ : ∃ n, fuel = n + 1 := ⟨fuel - 1, by omega⟩
  have hall := all_map_ok (fun x => dataOf fuel (distance + 1) (item x)) datum fun x hx =>
    h x hx fuel (distance + 1) (by omega)
  rw [dataOf]
  · rw [List.map_map]
    exact congrArg (Except.map Datum.list) hall
  · rfl

theorem splitEntries_eq {entries : List (Node × Node)} (h : ∀ entry ∈ entries, entry.1.tag = .str) :
    splitEntries entries = .ok ([], entries) := by
  induction entries with
  | nil => rfl
  | cons entry entries ih =>
      obtain ⟨hentry, hentries⟩ := List.forall_mem_cons.mp h
      rw [splitEntries, hentry, ih hentries]
      rfl

/-- Nodes under different names denote a map in a mapping. -/
theorem denotes_mapping {depth : Nat} {name : α → String} {node : α → Node} {datum : α → Datum}
    {fields : List α} (hnames : (fields.map name).Nodup)
    (h : ∀ field ∈ fields, Denotes depth (node field) (datum field)) :
    Denotes (depth + 1) (.mapping .map (fields.map fun field =>
        (.scalar .str (.ofString (name field)), node field)))
      (.map (fields.map fun field => (.text (name field), datum field))) := by
  intro fuel distance hfuel
  obtain ⟨fuel, rfl⟩ : ∃ n, fuel = n + 1 := ⟨fuel - 1, by omega⟩
  let entry (field : α) : Node × Node := (.scalar .str (.ofString (name field)), node field)
  have htags : ∀ e ∈ fields.map entry, e.1.tag = .str := by
    intro e he
    obtain ⟨field, _, rfl⟩ := List.mem_map.mp he
    rfl
  have hentries : entriesOf (.mapping .map (fields.map entry)) = .ok (fields.map entry) := by
    rw [entriesOf, splitEntries_eq htags]
    rfl
  have hentry : ∀ field ∈ fields,
      both (keyOf distance (dataOf fuel (distance + 1)) (.scalar .str (.ofString (name field))))
        (dataOf fuel (distance + 1) (node field)) = .ok (.text (name field), datum field) := by
    intro field hfield
    have hkey :
        dataOf fuel (distance + 1) (.scalar .str (.ofString (name field))) =
          .ok (.text (name field)) :=
      denotes_text depth (name field) fuel (distance + 1) (by omega)
    rw [keyOf, hkey, h field hfield fuel (distance + 1) (by omega)]
    · rfl
    · exact nofun
  have hall := all_map_ok _ (fun field => (Datum.text (name field), datum field)) hentry
  have hnodup : ((fields.map fun field => (name field, datum field)).map (·.1)).Nodup := by
    rw [List.map_map]
    exact hnames
  have hdistinct := Datum.ofEntries_of_nodup hnodup
  rw [List.map_map] at hdistinct
  rw [dataOf]
  · rw [hentries]
    change Except.map _ (all ((fields.map entry).map _)) = _
    rw [List.map_map]
    exact (congrArg (Except.map fun found => Datum.map (Datum.ofEntries found)) hall).trans
      (congrArg (fun entries => Except.ok (Datum.map entries)) hdistinct)
  · rfl

end Yaml

end Clickpath
