import Clickpath.Proofs.Yaml.Escaped
import Clickpath.Proofs.Yaml.Plain
import Clickpath.Yaml.Layout

/-! # Tokens of blocks

Which tokens are found from a place on, given the text that is left there and the blocks that are
open. Each lemma puts one token in front of a text whose tokens are known, so the tokens of a
written datum are found from its end to its start.
-/

namespace Clickpath.Yaml

namespace Layout

/-! ## One token -/

/-- Nothing is left, or a character that is neither filler nor the start of a comment. -/
def NoFiller (s : List Char) : Prop := ∀ c ∈ s.head?, isWordChar c = true ∧ c ≠ '#'

theorem noFiller_cons {c : Char} {rest : List Char} (hc : isWordChar c = true ∧ c ≠ '#') :
    NoFiller (c :: rest) := by
  intro d hd
  obtain rfl := Option.some.inj hd
  exact hc

theorem NoFiller.head?_ne_space {s : List Char} (hs : NoFiller s) : s.head? ≠ some ' ' := by
  intro h
  exact absurd (hs ' ' h).1 (by decide)

theorem skipSpaces_eq {c : Cursor} {count : Nat} {after : List Char}
    (h : c.rest = List.replicate count ' ' ++ after) (hafter : NoFiller after) :
    c.skipSpaces = c.skip count := by
  have htaken := takeWhile_onlySpaces count hafter.head?_ne_space
  rw [Cursor.skipSpaces, Cursor.takeWhile, h, htaken, List.length_replicate]

/-- Spaces are passed over. -/
theorem skipFiller_spaces {l : Layout} {count : Nat} {after : List Char}
    (h : l.cursor.rest = List.replicate count ' ' ++ after) (hafter : NoFiller after)
    (fuel : Nat) : skipFiller (fuel + 1) l = { l with cursor := l.cursor.skip count } := by
  have hskip := skip_spaces h
  have hrest : (l.cursor.skip count).rest = after := by rw [hskip]
  have hcomment : ((l.cursor.skip count).peek == some '#') = false := by
    rw [beq_eq_false_iff_ne, Cursor.peek, hrest]
    intro hnumber
    exact (hafter '#' hnumber).2 rfl
  have hbreak : (l.cursor.skip count).lineBreak? = none := by
    apply Cursor.lineBreak?_eq_none
    rw [hrest]
    exact fun ch hch => (isInk_iff.mp (isInk_of_isWordChar (hafter ch hch).1)).2
  unfold skipFiller
  simp only [skipSpaces_eq h hafter, hcomment, Bool.false_eq_true, if_false, hbreak]

/-- Where there is no mark of an encoding, none is passed over. -/
theorem skipMark_eq {c : Cursor} (hc : ∀ ch ∈ c.rest.head?, isByteOrderMark ch = false) :
    (if c.index == 0 && c.peek.any isByteOrderMark then c.next else c) = c := by
  apply if_neg
  rw [Bool.and_eq_true, not_and]
  rintro -
  rw [Cursor.peek]
  cases hhead : c.rest.head? with
  | none => exact Bool.false_ne_true
  | some ch =>
      have hmark := hc ch hhead
      simp [hmark]

/-- Spaces in front of a token are passed over. -/
theorem toNextToken_spaces {l : Layout} {count : Nat} {after : List Char}
    (h : l.cursor.rest = List.replicate count ' ' ++ after) (hafter : NoFiller after) :
    l.toNextToken = { l with cursor := l.cursor.skip count } := by
  have hmark : ∀ ch ∈ l.cursor.rest.head?, isByteOrderMark ch = false := by
    intro ch hch
    rw [h] at hch
    cases count with
    | zero =>
        have hsteady := isSteady_of_isWordChar (hafter ch hch).1
        simp only [isSteady, Bool.and_eq_true, Bool.not_eq_true'] at hsteady
        exact hsteady.2
    | succ count =>
        obtain rfl := Option.some.inj hch
        decide
  unfold toNextToken
  simp only [skipMark_eq hmark]
  exact skipFiller_spaces h hafter _

theorem toNextToken_eq_self {l : Layout} (h : NoFiller l.cursor.rest) : l.toNextToken = l := by
  have hrest : l.cursor.rest = List.replicate 0 ' ' ++ l.cursor.rest := rfl
  rw [toNextToken_spaces hrest h]
  rfl

/-- Behind a line end a key may start. -/
theorem toNextToken_line {l : Layout} {count : Nat} {after : List Char} (hdepth : l.depth = 0)
    (h : l.cursor.rest = '\n' :: (List.replicate count ' ' ++ after)) (hafter : NoFiller after) :
    l.toNextToken = { l with cursor := l.cursor.next.skip count, keyAllowed := true } := by
  have hmark : ∀ ch ∈ l.cursor.rest.head?, isByteOrderMark ch = false := by
    intro ch hch
    rw [h] at hch
    obtain rfl := Option.some.inj hch
    decide
  have hspaces : l.cursor.skipSpaces = l.cursor := by
    rw [Cursor.skipSpaces, Cursor.takeWhile, h]
    rfl
  have hcomment : (l.cursor.peek == some '#') = false := by
    rw [Cursor.peek, h]
    rfl
  have hnext : l.cursor.next.rest = List.replicate count ' ' ++ after := by
    rw [Cursor.rest_next, h]
    rfl
  have hlength : l.cursor.rest.length = (List.replicate count ' ' ++ after).length + 1 := by
    rw [h, List.length_cons]
  unfold toNextToken
  simp only [skipMark_eq hmark, hlength]
  unfold skipFiller
  simp only [hspaces, hcomment, Bool.false_eq_true, if_false,
    Cursor.lineBreak?_of_isTextBreak h (by decide)]
  rw [skipFiller_spaces hnext hafter]
  simp [inFlow, hdepth]

theorem next_congr {l other : Layout} (h : l.toNextToken = other.toNextToken) :
    l.next = other.next := by
  rw [next, next, h]

/-- Where the same comes next, the same tokens are found, if they are found up to the end. -/
theorem finish_of_next_eq {l other : Layout} (h : l.next = other.next) {fuel : Nat}
    (hfuel : 0 < fuel) {all : List Token} (hall : other.finish fuel = ⟨all, none⟩) :
    l.finish fuel = ⟨all, none⟩ := by
  obtain ⟨fuel, rfl⟩ : ∃ n, fuel = n + 1 := ⟨fuel - 1, by omega⟩
  rw [finish] at hall ⊢
  rw [h]
  cases hnext : other.next with
  | ok outcome =>
      rw [hnext] at hall
      cases outcome with
      | inl later => exact hall
      | inr found => exact hall
  | error fault =>
      rw [hnext] at hall
      cases hall

theorem dropStale_of_keys {l : Layout} (hkeys : l.keys = []) : l.dropStale = .ok l := by
  obtain ⟨_, _, _, _, _, _, _, keys⟩ := l
  obtain rfl : keys = [] := hkeys
  rfl

theorem unwind_eq_self {l : Layout} {column : Int} (h : l.inFlow = true ∨ l.indent ≤ column) :
    l.unwind column = l := by
  have hstays : (l.inFlow || decide (l.indent ≤ column)) = true := by simpa using h
  rw [unwind, closeBlocks, if_pos hstays]

/-- At a token nothing is passed over and no block ends. -/
theorem finish_token {l later : Layout} {ch : Char} {rest : List Char}
    (h : l.cursor.rest = ch :: rest) (hfirst : isWordChar ch = true ∧ ch ≠ '#')
    (hkeys : l.dropStale = .ok l) (hindent : l.inFlow = true ∨ l.indent ≤ l.cursor.column)
    (htoken : l.token ch = .ok later) (fuel : Nat) : l.finish (fuel + 1) = later.finish fuel := by
  have hnext : l.toNextToken = l := by
    apply toNextToken_eq_self
    rw [h]
    exact noFiller_cons hfirst
  have hpeek : l.cursor.peek = some ch := by rw [Cursor.peek, h]; rfl
  rw [finish, next, hnext, hkeys]
  simp only [Bind.bind, Except.bind, unwind_eq_self hindent, hpeek, htoken]

theorem not_isLeadingMark {c : Char} (hc : isLeadingMark c = false) {mark : Char}
    (hmark : isLeadingMark mark = true) : c ≠ mark := by
  rintro rfl
  rw [hc] at hmark
  cases hmark

theorem peekAt_one {c : Cursor} {ch : Char} {rest : List Char} (h : c.rest = ch :: rest) :
    c.peekAt 1 = rest.head? := by
  rw [Cursor.peekAt, h]
  cases rest <;> rfl

section

variable {l : Layout} {ch : Char} {rest : List Char} (h : l.cursor.rest = ch :: rest)
  (hleading : isLeadingMark ch = false)
  (hnext : (ch == '?' || ch == ':' || ch == '-') = true → isBlankOrEnd rest.head? = false)

include h hleading hnext

theorem startsPlain_of_first (hdepth : l.depth = 0) (hword : isWordChar ch = true) :
    l.startsPlain ch = true := by
  unfold startsPlain
  rw [isBlankOrEnd_of_isWordChar hword, peekAt_one h, inFlow, hdepth]
  by_cases hmark : (ch == '?' || ch == ':' || ch == '-') = true
  · rw [hnext hmark]
    simp only [Bool.or_eq_true, beq_iff_eq] at hmark
    rcases hmark with (rfl | rfl) | rfl <;> decide
  · have hchar : isMarkChar ch = false := by
      rw [isMarkChar, ← Bool.not_eq_true, List.contains_iff_mem]
      intro hmem
      have hall : "-?:,[]\x7b\x7d#&*!|>'\x22%@`".toList.all (fun mark => isLeadingMark mark ||
          (mark == '?' || mark == ':' || mark == '-')) = true := by decide
      rcases Bool.or_eq_true_iff.mp (List.all_eq_true.mp hall ch hmem) with hleads | hmarks
      · rw [hleading] at hleads
        cases hleads
      · exact hmark hmarks
    simp [hchar]

/-- What starts as a plain text is taken for one. -/
theorem token_plain (hdepth : l.depth = 0) (hword : isWordChar ch = true)
    (hborder : l.cursor.column = 0 → l.cursor.atBorder = false) : l.token ch = l.plain := by
  have hne : ∀ mark ∈ "#,[]\x7b\x7d&*!|>'\x22%@`".toList, (ch == mark) = false := by
    intro mark hmark
    rw [beq_eq_false_iff_ne]
    exact not_isLeadingMark hleading (List.contains_iff_mem.mpr hmark)
  have halone : ∀ mark, mark = '?' ∨ mark = ':' ∨ mark = '-' →
      (ch == mark && isBlankOrEnd (l.cursor.peekAt 1)) = false := by
    intro mark hmark
    rw [Bool.and_eq_false_iff, peekAt_one h]
    by_cases hch : ch = mark
    · subst hch
      exact .inr (hnext (by rcases hmark with h | h | h <;> simp [h]))
    · exact .inl (beq_eq_false_iff_ne.mpr hch)
  have hatBorder : (l.cursor.column == 0 && l.cursor.atBorder) = false := by
    by_cases hcolumn : l.cursor.column = 0
    · rw [hborder hcolumn, Bool.and_false]
    · simp [hcolumn]
  have hflow : l.inFlow = false := by simp [inFlow, hdepth]
  have hplain := startsPlain_of_first h hleading hnext hdepth hword
  unfold token
  simp only [hne '%' (by decide), hatBorder, hne '[' (by decide), hne '\x7b' (by decide),
    hne ']' (by decide), hne '\x7d' (by decide), hne ',' (by decide), halone '-' (by decide),
    hflow, Bool.false_or, halone '?' (by decide), halone ':' (by decide), hne '*' (by decide),
    hne '&' (by decide), hne '!' (by decide), hne '|' (by decide), hne '>' (by decide),
    hne '\'' (by decide), hne '\x22' (by decide), Bool.false_and, Bool.false_eq_true, if_false,
    hplain, if_true]

end

/-- At what starts as a plain text a plain text is found. -/
theorem finish_plain {l later : Layout} (hdepth : l.depth = 0) (hfirst : PlainFirst l.cursor.rest)
    (hborder : l.cursor.column = 0 → l.cursor.atBorder = false) (hkeys : l.keys = [])
    (hindent : l.indent ≤ l.cursor.column) (hplain : l.plain = .ok later) (fuel : Nat) :
    l.finish (fuel + 1) = later.finish fuel := by
  have hnumber := hfirst.peek_ne
  obtain ⟨ch, rest, h, hword, hleading, hnext⟩ := hfirst
  rw [Cursor.peek, h] at hnumber
  exact finish_token h ⟨hword, fun hch => hnumber (congrArg some hch)⟩ (dropStale_of_keys hkeys)
    (.inr hindent) ((token_plain h hleading hnext hdepth hword hborder).trans hplain) fuel

/-- A colon in front of a blank. -/
theorem token_colon {l : Layout} {rest : List Char} (hcolumn : l.cursor.column ≠ 0)
    (h : l.cursor.rest = ':' :: rest) (hblank : isBlankOrEnd rest.head? = true) :
    l.token ':' = l.value := by
  unfold token
  simp [hcolumn, peekAt_one h, hblank]

/-- A hyphen in front of a space, also at the start of a line. -/
theorem token_hyphen {l : Layout} {rest : List Char} (h : l.cursor.rest = '-' :: ' ' :: rest) :
    l.token '-' = l.blockEntry := by
  have hborder : l.cursor.atBorder = false :=
    OpensLine.not_atBorder (by rw [h]; trivial)
  unfold token
  simp [hborder, peekAt_one h, isBlankOrEnd, isSpaceOrEnd]

theorem token_mark {l : Layout} (hcolumn : l.cursor.column ≠ 0) :
    l.token '[' = l.openFlow .flowSequenceStart ∧ l.token ']' = l.closeFlow .flowSequenceEnd ∧
      l.token '\'' = l.quoted false ∧ l.token '\x22' = l.quoted true := by
  unfold token
  simp [hcolumn]

/-! ## Tokens of the rest of a text -/

/-- The layout at a place outside brackets, where nothing can become a key. -/
def outside (c : Cursor) (found : List Token) (indent : Int) (outer : List Int) (allowed : Bool) :
    Layout :=
  ⟨c, found, found.length, 0, indent, outer, allowed, []⟩

end Layout

open Layout

theorem OpensLine.noFiller {line : List Char} (hline : OpensLine line) : NoFiller line :=
  hline.isWordChar

/-- With some text left from a column on and some blocks open, these are the tokens still found. -/
def Scans (rest : List Char) (column : Nat) (indent : Int) (outer : List Int) (allowed : Bool)
    (tokens : List Token) : Prop :=
  ∀ (c : Cursor) (found : List Token) (fuel : Nat), c.rest = rest → c.column = column →
    rest.length < fuel →
    (outside c found indent outer allowed).finish fuel = ⟨found.reverse ++ tokens, none⟩

namespace Scans

variable {rest after : List Char} {column : Nat} {indent : Int} {outer : List Int}
  {allowed : Bool} {tokens : List Token}

/-- Spaces in front of a token are passed over. -/
theorem spaces (count : Nat) (hafter : NoFiller after)
    (h : Scans after (column + count) indent outer allowed tokens) :
    Scans (List.replicate count ' ' ++ after) column indent outer allowed tokens := by
  intro c found fuel hrest hcolumn hfuel
  have hskip := skip_spaces hrest
  have hbehind : (c.skip count).rest = after := by rw [hskip]
  have htoken : NoFiller (c.skip count).rest := by rwa [hbehind]
  have hnext : (outside c found indent outer allowed).toNextToken =
      (outside (c.skip count) found indent outer allowed).toNextToken := by
    rw [toNextToken_spaces hrest hafter, toNextToken_eq_self htoken]
    rfl
  refine finish_of_next_eq (next_congr hnext) (Nat.zero_lt_of_lt hfuel)
    (h _ found fuel hbehind (by rw [hskip, hcolumn]) ?_)
  rw [List.length_append] at hfuel
  omega

/-- A line end and the spaces behind it are passed over. -/
theorem line (count column : Nat) (allowed : Bool) (hafter : NoFiller after)
    (h : Scans after count indent outer true tokens) :
    Scans ('\n' :: (List.replicate count ' ' ++ after)) column indent outer allowed tokens := by
  intro c found fuel hrest _ hfuel
  have hnextRest : c.next.rest = List.replicate count ' ' ++ after := by
    rw [Cursor.rest_next, hrest]
    rfl
  have hskip := skip_spaces hnextRest
  have hbehind : (c.next.skip count).rest = after := by rw [hskip]
  have htoken : NoFiller (c.next.skip count).rest := by rwa [hbehind]
  have hnext : (outside c found indent outer allowed).toNextToken =
      (outside (c.next.skip count) found indent outer true).toNextToken := by
    rw [toNextToken_line rfl hrest hafter, toNextToken_eq_self htoken]
    rfl
  have hcolumn := Cursor.next_of_isTextBreak hrest (by decide)
  refine finish_of_next_eq (next_congr hnext) (Nat.zero_lt_of_lt hfuel)
    (h _ found fuel hbehind (by rw [hskip, hcolumn, Nat.zero_add]) ?_)
  rw [List.length_cons, List.length_append] at hfuel
  omega

/-- A line that is not indented as deeply as the innermost block ends this block. -/
theorem close {inner : Int} (hinner : (column : Int) < inner) (hrest : NoFiller rest)
    (h : Scans rest column indent outer allowed tokens) :
    Scans rest column inner (indent :: outer) allowed (.blockEnd :: tokens) := by
  intro c found fuel hc hcolumn hfuel
  -- The innermost block is the first to end, and the others are left for the unwinding.
  have hunwind : (outside c found inner (indent :: outer) allowed).unwind
        (outside c found inner (indent :: outer) allowed).cursor.column =
      (outside c (.blockEnd :: found) indent outer allowed).unwind
        (outside c (.blockEnd :: found) indent outer allowed).cursor.column := by
    have hopen : ¬((outside c found inner (indent :: outer) allowed).inFlow ||
        decide (inner ≤ (c.column : Int))) = true := by
      simp [inFlow, outside, hcolumn, hinner]
    unfold unwind
    rw [closeBlocks]
    exact if_neg hopen
  have htoken : NoFiller c.rest := by rwa [hc]
  have hnext : ∀ found indent outer, (outside c found indent outer allowed).toNextToken =
      outside c found indent outer allowed := fun _ _ _ => toNextToken_eq_self htoken
  have hsame : (outside c found inner (indent :: outer) allowed).next =
      (outside c (.blockEnd :: found) indent outer allowed).next := by
    rw [next, next, hnext, hnext, dropStale_of_keys rfl, dropStale_of_keys rfl]
    simp only [Bind.bind, Except.bind]
    rw [hunwind]
  rw [finish_of_next_eq hsame (Nat.zero_lt_of_lt hfuel)
    (h c (.blockEnd :: found) fuel hc hcolumn hfuel)]
  simp

/-- The end of the text ends the block that is open there. -/
theorem atEnd : Scans [] 0 0 [-1] allowed [.blockEnd] := by
  intro c found fuel hc hcolumn hfuel
  obtain ⟨fuel, rfl⟩ : ∃ n, fuel = n + 1 := ⟨fuel - 1, by omega⟩
  obtain ⟨rest, index, line, column⟩ := c
  obtain rfl : rest = [] := hc
  obtain rfl : column = 0 := hcolumn
  have hnext : (outside ⟨[], index, line, 0⟩ found 0 [-1] allowed).toNextToken =
      outside ⟨[], index, line, 0⟩ found 0 [-1] allowed := toNextToken_eq_self nofun
  rw [finish, next, hnext, dropStale_of_keys rfl]
  simp [outside, Bind.bind, Except.bind, unwind, closeBlocks, inFlow, Cursor.peek, forgetKey,
    push]

end Scans

/-! ## Keys -/

/-- A name that can be written as a key: small letters and low lines, no word for another type. -/
def isKey (name : List Char) : Bool :=
  name != [] && name.all isKeyChar && name.length ≤ 1024 && Tag.ofPlain name == .str

theorem plainWord_of_isKey {name : List Char} (hname : isKey name = true) : PlainWord name := by
  simp only [isKey, Bool.and_eq_true, bne_iff_ne, List.all_eq_true] at hname
  obtain ⟨⟨⟨hne, hchars⟩, _⟩, _⟩ := hname
  refine ⟨hne, fun c hc => isWordChar_of_isKeyChar (hchars c hc), fun hcolon => ?_⟩
  exact absurd (hchars ':' (List.mem_of_getLast? hcolon)) (by decide)

theorem exists_cons_of_isKey {name : List Char} (hname : isKey name = true) :
    ∃ c rest, name = c :: rest ∧ isKeyChar c = true := by
  simp only [isKey, Bool.and_eq_true, bne_iff_ne, List.all_eq_true] at hname
  obtain ⟨⟨⟨hne, hchars⟩, _⟩, _⟩ := hname
  obtain ⟨c, rest, rfl⟩ := List.exists_cons_of_ne_nil hne
  exact ⟨c, rest, rfl, hchars c List.mem_cons_self⟩

/-- A key may come on the line behind an entry. -/
theorem opensLine_key {name : List Char} (hname : isKey name = true) (rest : List Char) :
    OpensLine (name ++ rest) := by
  obtain ⟨c, more, rfl, hc⟩ := exists_cons_of_isKey hname
  unfold OpensLine
  split
  next => trivial
  next => trivial
  next h =>
    obtain ⟨rfl, _⟩ := List.cons.inj h
    exact hc

/-- A key starts as a plain text does. -/
theorem plainFirst_key {name : List Char} (hname : isKey name = true) (rest : List Char) :
    PlainFirst (name ++ rest) := by
  obtain ⟨c, more, rfl, hc⟩ := exists_cons_of_isKey hname
  have hne : ∀ mark, isKeyChar mark = false → c ≠ mark := by
    rintro mark hmark rfl
    rw [hc] at hmark
    cases hmark
  refine ⟨c, more ++ rest, rfl, isWordChar_of_isKeyChar hc, ?_, ?_⟩
  · rw [isLeadingMark, ← Bool.not_eq_true, List.contains_iff_mem]
    intro hmem
    have hall : "#,[]\x7b\x7d&*!|>'\x22%@`".toList.all (!isKeyChar ·) = true := by decide
    have hkey := List.all_eq_true.mp hall c hmem
    rw [hc] at hkey
    cases hkey
  · simp [hne '?' (by decide), hne ':' (by decide), hne '-' (by decide)]

namespace Layout

section

variable {c : Cursor} {name rest : List Char} {found : List Token} {indent : Int}
  {outer : List Int}

/-- The layout behind a name that can become a key. -/
def behindName (c : Cursor) (name : List Char) (found : List Token) (indent : Int)
    (outer : List Int) : Layout :=
  ⟨c.skip name.length, .scalar (.ofString (String.ofList name)) true :: found, found.length + 1,
    0, indent, outer, false,
    [(0, ⟨found.length, indent == (c.column : Int), c.index, c.line, c.column⟩)]⟩

theorem plain_name (hname : isKey name = true) (hblank : isBlankOrEnd rest.head? = true)
    (h : c.rest = name ++ ':' :: rest) :
    (outside c found indent outer true).plain = .ok (behindName c name found indent outer) := by
  have hplain : plainScalar false indent c = ⟨name, c.skip name.length, false⟩ :=
    plainScalar_key (plainWord_of_isKey hname) hblank (by rw [h]; exact plainFirst_key hname _) h
  unfold Layout.plain
  simp [outside, rememberKey, forgetKey, Bind.bind, Except.bind, inFlow, hplain, push, behindName]

/-- A name is on the line of its colon and short, so it can still become a key. -/
theorem dropStale_behindName (hname : isKey name = true) (h : c.rest = name ++ ':' :: rest) :
    (behindName c name found indent outer).dropStale =
      .ok (behindName c name found indent outer) := by
  have hskip := (plainWord_of_isKey hname).skip h
  simp only [isKey, Bool.and_eq_true, decide_eq_true_eq] at hname
  obtain ⟨⟨_, hshort⟩, _⟩ := hname
  unfold dropStale
  simp [behindName, isStale, hskip, Nat.not_lt.mpr hshort]

/-- The colon puts the mark of a key in front of the name, and opens a block if the name is indented
deeper than the innermost one. -/
theorem value_behindName : (behindName c name found indent outer).value =
    .ok (if indent < c.column then
      outside (c.skip name.length).next
        (.value :: .scalar (.ofString (String.ofList name)) true :: .key :: .blockMappingStart ::
          found) c.column (indent :: outer) false
    else
      outside (c.skip name.length).next
        (.value :: .scalar (.ofString (String.ofList name)) true :: .key :: found)
        indent outer false) := by
  have hafter : found.length + 1 - found.length = 1 := by omega
  by_cases hopens : indent < c.column
  · simp [Layout.value, behindName, inFlow, opensBlock, hopens, indented, insertAt, mark, push,
      hafter, Cursor.skip, outside]
  · simp [Layout.value, behindName, inFlow, opensBlock, hopens, insertAt, mark, push, hafter,
      Cursor.skip, outside]

/-- A key is found with a mark in front of it, which its colon puts there. -/
theorem finish_key (hname : isKey name = true) (hblank : isBlankOrEnd rest.head? = true)
    (hindent : indent ≤ c.column) (h : c.rest = name ++ ':' :: rest) (found : List Token)
    (outer : List Int) (fuel : Nat) :
    ∃ behind : Cursor, behind.rest = rest ∧ behind.column = c.column + name.length + 1 ∧
      (outside c found indent outer true).finish (fuel + 2) =
        (if indent < c.column then
          outside behind (.value :: .scalar (.ofString (String.ofList name)) true :: .key ::
            .blockMappingStart :: found) c.column (indent :: outer) false
        else
          outside behind
            (.value :: .scalar (.ofString (String.ofList name)) true :: .key :: found) indent
            outer false).finish fuel := by
  have hword := plainWord_of_isKey hname
  have hskip := hword.skip h
  have hpos := List.length_pos_iff.mpr hword.1
  have hcolon : (c.skip name.length).rest = ':' :: rest := by rw [hskip]
  have hcolumn : (c.skip name.length).column = c.column + name.length := by rw [hskip]
  have hborder : c.atBorder = false := by
    apply OpensLine.not_atBorder
    rw [h]
    exact opensLine_key hname _
  refine ⟨(c.skip name.length).next, by rw [Cursor.rest_next, hcolon]; rfl, ?_, ?_⟩
  · rw [Cursor.next_of_isSteady hcolon (by decide), hcolumn]
  · have hfirst : PlainFirst c.rest := by
      rw [h]
      exact plainFirst_key hname _
    have hdeep : indent ≤ ((c.skip name.length).column : Int) := by omega
    have hinner : (c.skip name.length).column ≠ 0 := by omega
    rw [finish_plain rfl hfirst (fun _ => hborder) rfl hindent (plain_name hname hblank h)]
    have hvalue := token_colon (l := behindName c name found indent outer) hinner hcolon hblank
    exact finish_token hcolon (by decide) (dropStale_behindName hname h) (.inr hdeep)
      (hvalue.trans value_behindName) fuel

end

end Layout

/-- The token of a text that is written in its style. -/
def textToken (s : List Char) : Token :=
  .scalar (.ofString (String.ofList (readBack s))) (decide (styleOf s = .plain))

namespace Scans

variable {name rest line : List Char} {column depth parent : Nat} {indent : Int}
  {outer : List Int} {tokens : List Token}

/-- A key that is indented deeper than the innermost block opens a block. -/
theorem firstKey (hname : isKey name = true) (hblank : isBlankOrEnd rest.head? = true)
    (hindent : indent < column)
    (h : Scans rest (column + name.length + 1) column (indent :: outer) false tokens) :
    Scans (name ++ ':' :: rest) column indent outer true
      (.blockMappingStart :: .key :: .scalar (.ofString (String.ofList name)) true ::
        .value :: tokens) := by
  intro c found fuel hc hcolumn hfuel
  rw [List.length_append, List.length_cons] at hfuel
  have hpos := List.length_pos_iff.mpr (plainWord_of_isKey hname).1
  obtain ⟨fuel, rfl⟩ : ∃ n, fuel = n + 2 := ⟨fuel - 2, by omega⟩
  subst hcolumn
  obtain ⟨behind, hbehind, hbehindColumn, hfinish⟩ :=
    finish_key hname hblank (Int.le_of_lt hindent) hc found outer fuel
  rw [hfinish, if_pos hindent, h behind _ fuel hbehind hbehindColumn (by omega)]
  simp

/-- A key at the indentation of the innermost block goes on with it. -/
theorem nextKey (hname : isKey name = true) (hblank : isBlankOrEnd rest.head? = true)
    (h : Scans rest (column + name.length + 1) column outer false tokens) :
    Scans (name ++ ':' :: rest) column column outer true
      (.key :: .scalar (.ofString (String.ofList name)) true :: .value :: tokens) := by
  intro c found fuel hc hcolumn hfuel
  rw [List.length_append, List.length_cons] at hfuel
  have hpos := List.length_pos_iff.mpr (plainWord_of_isKey hname).1
  obtain ⟨fuel, rfl⟩ : ∃ n, fuel = n + 2 := ⟨fuel - 2, by omega⟩
  subst hcolumn
  obtain ⟨behind, hbehind, hbehindColumn, hfinish⟩ :=
    finish_key hname hblank (Int.le_refl _) hc found outer fuel
  rw [hfinish, if_neg (Int.lt_irrefl _), h behind _ fuel hbehind hbehindColumn (by omega)]
  simp

/-! ## Items and values -/

/-- A hyphen at the indentation of the innermost block opens none. -/
theorem item (h : Scans (' ' :: rest) (column + 1) column outer true tokens) :
    Scans ('-' :: ' ' :: rest) column column outer true (.blockEntry :: tokens) := by
  intro c found fuel hc hcolumn hfuel
  rw [List.length_cons] at hfuel
  obtain ⟨fuel, rfl⟩ : ∃ n, fuel = n + 1 := ⟨fuel - 1, by omega⟩
  subst hcolumn
  have hentry : (outside c found c.column outer true).blockEntry =
      .ok (outside c.next (.blockEntry :: found) c.column outer true) := by
    simp [outside, blockEntry, inFlow, openBlock, opensBlock, forgetKey, mark, push, Bind.bind,
      Except.bind, Cursor.skip]
  have hnext := Cursor.next_of_isSteady hc (by decide)
  rw [finish_token hc (by decide) (dropStale_of_keys rfl) (.inr (Int.le_refl _))
    ((token_hyphen hc).trans hentry), h _ _ fuel (by rw [hnext]) (by rw [hnext]) (by omega)]
  simp

/-- A text that was quoted and what is behind it. -/
theorem quoted {double : Bool} {ch : Char} {body after : List Char} {text : List Glyph}
    (hch : isWordChar ch = true ∧ ch ≠ '#')
    (hparent : parent < column)
    (htoken : ∀ l : Layout, l.cursor.column ≠ 0 → l.token ch = l.quoted double)
    (hread : ∀ c : Cursor, c.rest = ch :: body → ∃ behind : Cursor, behind.rest = after ∧
      quotedScalar double c.next = .ok (text, behind))
    (hshorter : after.length < (ch :: body).length)
    (h : ∀ column, Scans after column parent outer false tokens) :
    Scans (ch :: body) column parent outer false (.scalar ⟨text⟩ false :: tokens) := by
  intro c found fuel hc hcolumn hfuel
  obtain ⟨fuel, rfl⟩ : ∃ n, fuel = n + 1 := ⟨fuel - 1, by omega⟩
  obtain ⟨behind, hbehind, hscalar⟩ := hread c hc
  have hquoted : (outside c found parent outer false).quoted double =
      .ok (outside behind (.scalar ⟨text⟩ false :: found) parent outer false) := by
    simp [outside, Layout.quoted, content, rememberKey, hscalar, push, Bind.bind, Except.bind]
  have hdeep : (parent : Int) ≤ c.column := by omega
  have hinner : (outside c found parent outer false).cursor.column ≠ 0 := by
    change c.column ≠ 0
    omega
  rw [finish_token hc hch (dropStale_of_keys rfl) (.inr hdeep) ((htoken _ hinner).trans hquoted),
    h _ behind _ fuel hbehind rfl (by omega)]
  simp

/-- A plain text ends at the line behind it, where a key may start. -/
theorem plain {deeper : Nat} (hdeeper : parent < deeper) (hparent : parent < column)
    (hdepth : depth ≤ parent) (hline : OpensLine line) {runs : List Run} (hruns : Sentence runs)
    {start : Nat}
    (hfirst : PlainFirst (writePlain deeper start runs ++
      '\n' :: (List.replicate depth ' ' ++ line)))
    (h : Scans line depth parent outer true tokens) :
    Scans (writePlain deeper start runs ++ '\n' :: (List.replicate depth ' ' ++ line)) column parent
      outer false (.scalar (.ofString (String.ofList (runs.flatMap Run.text))) true :: tokens) := by
  intro c found fuel hc hcolumn hfuel
  obtain ⟨fuel, rfl⟩ : ∃ n, fuel = n + 1 := ⟨fuel - 1, by omega⟩
  subst hcolumn
  obtain ⟨behind, hbehind, hbehindColumn, hscalar⟩ := plainScalar_writePlain hdeeper hdepth hline
    hruns (by rw [hc]; exact hfirst) hparent hc
  have hplain : (outside c found parent outer false).plain =
      .ok (outside behind
        (.scalar (.ofString (String.ofList (runs.flatMap Run.text))) true :: found)
        parent outer true) := by
    simp [outside, Layout.plain, rememberKey, hscalar, push, Bind.bind, Except.bind, inFlow]
  have hinner : c.column ≠ 0 := by omega
  have hdeep : (parent : Int) ≤ c.column := by omega
  rw [← hc] at hfirst
  rw [finish_plain rfl hfirst (fun hstart => absurd hstart hinner) rfl hdeep hplain,
    h behind _ fuel hbehind hbehindColumn (by
    rw [List.length_append, List.length_cons, List.length_append] at hfuel
    omega)]
  simp

/-- A text in its style is one token. -/
theorem text (s : List Char) (start : Nat) (hnarrow : parent + 3 ≤ pageWidth)
    (hparent : parent < column) (hdepth : depth ≤ parent) (hline : OpensLine line)
    (h : Scans line depth parent outer true tokens) :
    Scans (writeText (parent + 2) start s ++ '\n' :: (List.replicate depth ' ' ++ line)) column
      parent outer false (textToken s :: tokens) := by
  have hbehind : ∀ column, Scans ('\n' :: (List.replicate depth ' ' ++ line)) column parent outer
      false tokens := fun column => .line depth column false hline.noFiller h
  have hshorter {s after : List Char} (hs : s ≠ []) : after.length < (s ++ after).length := by
    have hpos := List.length_pos_iff.mpr hs
    rw [List.length_append]
    omega
  unfold writeText textToken readBack
  cases hstyle : styleOf s with
  | plain =>
      have hdeeper : parent < parent + 2 := by omega
      have hread := plain hdeeper hparent hdepth hline (sentence_of_styleOf hstyle)
        (plainFirst_writePlain hstyle _ start _) h
      rw [text_runsOf] at hread
      exact hread
  | single =>
      obtain ⟨hescapes, hindented⟩ := needsNoDouble_of_styleOf (by rw [hstyle]; exact nofun)
      have hparted := wellParted_runsOf hescapes hindented
      have hread := quoted (by decide) hparent (fun l hl => (token_mark hl).2.2.1)
        (fun c hc => quotedScalar_writeSingle (by omega) hparted (by simp) hc)
        (hshorter (s := writeSingle (parent + 2) start s) (List.cons_ne_nil _ _)) hbehind
      rw [Loose.mk_glyphsOf] at hread
      exact hread
  | double =>
      have hread := quoted (by decide) hparent (fun l hl => (token_mark hl).2.2.2)
        (fun c hc => quotedScalar_writeDouble (by omega) hnarrow hc)
        (hshorter (s := writeDouble (parent + 2) start (glyphsOf s)) (List.cons_ne_nil _ _)) hbehind
      rw [Loose.mk_glyphsOf] at hread
      exact hread

/-- The word for null is a plain text. -/
theorem null (hparent : parent < column) (hdepth : depth ≤ parent) (hline : OpensLine line)
    (h : Scans line depth parent outer true tokens) :
    Scans ("null".toList ++ '\n' :: (List.replicate depth ' ' ++ line)) column parent outer false
      (.scalar (.ofString "null") true :: tokens) := by
  have hchars : "null".toList.all isWordChar = true := by decide
  have hruns : Sentence [.word "null".toList] :=
    ⟨⟨by decide, List.all_eq_true.mp hchars, by decide⟩, trivial⟩
  have hfirst : PlainFirst (writePlain (parent + 1) 0 [.word "null".toList] ++
      '\n' :: (List.replicate depth ' ' ++ line)) :=
    ⟨'n', _, rfl, by decide, by decide, nofun⟩
  exact plain (Nat.lt_succ_self parent) hparent hdepth hline hruns hfirst h

/-- Brackets with nothing between them. -/
theorem brackets {after : List Char} (hparent : parent < column)
    (h : ∀ column, Scans after column parent outer false tokens) :
    Scans ('[' :: ']' :: after) column parent outer false
      (.flowSequenceStart :: .flowSequenceEnd :: tokens) := by
  intro c found fuel hc hcolumn hfuel
  simp only [List.length_cons] at hfuel
  obtain ⟨fuel, rfl⟩ : ∃ n, fuel = n + 2 := ⟨fuel - 2, by omega⟩
  subst hcolumn
  have hnext := Cursor.next_of_isSteady hc (by decide)
  let inside : Layout := ⟨c.next, .flowSequenceStart :: found, found.length + 1, 1, parent, outer,
    true, []⟩
  have hinside : inside.cursor.rest = ']' :: after := by simp only [inside, hnext]
  have hcolumn : inside.cursor.column ≠ 0 := by simp [inside, hnext]
  have hopen : (outside c found parent outer false).openFlow .flowSequenceStart = .ok inside := by
    simp [outside, openFlow, rememberKey, mark, push, Bind.bind, Except.bind, Cursor.skip, inside]
  have hclose : inside.closeFlow .flowSequenceEnd =
      .ok (outside inside.cursor.next (.flowSequenceEnd :: .flowSequenceStart :: found) parent outer
        false) := by
    simp [inside, closeFlow, forgetKey, inFlow, mark, push, Bind.bind, Except.bind, Cursor.skip,
      outside]
  have hdeep : (parent : Int) ≤ c.column := by omega
  have hinner : (outside c found parent outer false).cursor.column ≠ 0 := by
    change c.column ≠ 0
    omega
  rw [finish_token hc (by decide) (dropStale_of_keys rfl) (.inr hdeep)
      ((token_mark hinner).1.trans hopen),
    finish_token hinside (by decide) (dropStale_of_keys rfl) (.inl rfl)
      ((token_mark hcolumn).2.1.trans hclose),
    h _ _ _ fuel (by rw [Cursor.rest_next, hinside]; rfl) rfl (by omega)]
  simp

end Scans

end Clickpath.Yaml
