import Clickpath.Proofs.Chars.Classes
import Clickpath.Proofs.Locator.ChildPath

/-! # Tokens of path expressions

A path expression is a row of literals, numbers, names and symbols, with white space between them
where one likes. Each token is the longest that can be read. A literal ends at the mark with which
it opens, so a text that cannot be cut into tokens is no expression of any kind. Such are all texts
with an odd number of single marks and no double ones.
-/

namespace Clickpath.XPath

open Locator

/-! ## Names and numbers -/

def isPartStart (c : Char) : Bool := c != ':' && ChildPath.isNameStart c

def isPartChar (c : Char) : Bool := c != ':' && ChildPath.isNameChar c

/-- The text is a name without a colon. -/
def isPart : List Char → Bool
  | [] => false
  | c :: rest => isPartStart c && rest.all isPartChar

/-- The text is a name: one part, or two with a colon between them. -/
def isNameText (s : List Char) : Bool :=
  isPart (s.takeWhile (· != ':')) &&
    match s.dropWhile (· != ':') with
    | [] => true
    | _ :: second => isPart second

/-- The name at the front of a text, unless it starts otherwise. -/
def nameText (s : List Char) : List Char :=
  let first := s.takeWhile isPartChar
  match s.dropWhile isPartChar with
  | ':' :: c :: rest =>
    if isPartStart c then first ++ ':' :: c :: rest.takeWhile isPartChar else first
  | _ => first

/-- The number at the front of a text, unless it starts otherwise: digits with a dot among them, in
front of them or behind them. -/
def numberText (s : List Char) : List Char :=
  let whole := s.takeWhile Chars.isAsciiDigit
  match s.dropWhile Chars.isAsciiDigit with
  | '.' :: rest =>
    let part := rest.takeWhile Chars.isAsciiDigit
    if whole.isEmpty && part.isEmpty then [] else whole ++ '.' :: part
  | _ => whole

/-! ## Symbols -/

inductive Symbol where
  | slashes
  | slash
  | dots
  | dot
  | colons
  | colon
  | unequal
  | atMost
  | atLeast
  | less
  | greater
  | equal
  | star
  | plus
  | minus
  | bar
  | comma
  | ofAttribute
  | dollar
  | opening
  | closing
  | openingBracket
  | closingBracket
  deriving DecidableEq, Repr

namespace Symbol

def text : Symbol → List Char
  | slashes => ['/', '/']
  | slash => ['/']
  | dots => ['.', '.']
  | dot => ['.']
  | colons => [':', ':']
  | colon => [':']
  | unequal => ['!', '=']
  | atMost => ['<', '=']
  | atLeast => ['>', '=']
  | less => ['<']
  | greater => ['>']
  | equal => ['=']
  | star => ['*']
  | plus => ['+']
  | minus => ['-']
  | bar => ['|']
  | comma => [',']
  | ofAttribute => ['@']
  | dollar => ['$']
  | opening => ['(']
  | closing => [')']
  | openingBracket => ['[']
  | closingBracket => [']']

/-- All symbols, each behind the longer ones that start with it. -/
def all : List Symbol :=
  [slashes, slash, dots, dot, colons, colon, unequal, atMost, atLeast, less, greater, equal, star,
   plus, minus, bar, comma, ofAttribute, dollar, opening, closing, openingBracket, closingBracket]

def first? (s : List Char) : Option Symbol := all.find? fun symbol => symbol.text.isPrefixOf s

end Symbol

/-! ## Tokens -/

inductive Token where
  | literal (value : List Char)
  | number (text : List Char)
  | name (text : List Char)
  | symbol (symbol : Symbol)
  deriving DecidableEq, Repr

def isSpace (c : Char) : Bool := [' ', '\t', '\n', '\r'].contains c

def isMark (c : Char) : Bool := c == '\'' || c == '\x22'

/-- The token at the front of a text, and its length. -/
def next? : List Char → Option (Token × Nat)
  | [] => none
  | c :: rest =>
    if isMark c then
      if rest.contains c then
        let value := rest.takeWhile (· != c)
        some (.literal value, value.length + 2)
      else none
    else if isPartStart c then some (.name (nameText (c :: rest)), (nameText (c :: rest)).length)
    else if numberText (c :: rest) ≠ [] then
      some (.number (numberText (c :: rest)), (numberText (c :: rest)).length)
    else (Symbol.first? (c :: rest)).map fun symbol => (.symbol symbol, symbol.text.length)

/-- The tokens of a text. It is given how many characters belong to a token that was read. -/
def tokens? : Nat → List Char → Option (List Token)
  | _, [] => some []
  | skip + 1, _ :: rest => tokens? skip rest
  | 0, c :: rest =>
    if isSpace c then tokens? 0 rest
    else match next? (c :: rest) with
      | some (token, length) => (tokens? (length - 1) rest).map (token :: ·)
      | none => none

theorem tokens?_append (text rest : List Char) :
    tokens? text.length (text ++ rest) = tokens? 0 rest := by
  induction text with
  | nil => rfl
  | cons c text ih => exact ih

/-- A text is read as these tokens if what stands behind it may stand there. -/
def Reads (may : List Char → Prop) (text : List Char) (tokens : List Token) : Prop :=
  ∀ rest, may rest → tokens? 0 (text ++ rest) = (tokens? 0 rest).map (tokens ++ ·)

def Anything (_ : List Char) : Prop := True

theorem Reads.append {may may' : List Char → Prop} {text text' : List Char}
    {tokens tokens' : List Token} (hfirst : Reads may text tokens)
    (hsecond : Reads may' text' tokens') (hmay : ∀ rest, may' rest → may (text' ++ rest)) :
    Reads may' (text ++ text') (tokens ++ tokens') := by
  intro rest hrest
  rw [List.append_assoc, hfirst _ (hmay rest hrest), hsecond rest hrest, Option.map_map]
  congr 1
  funext more
  exact (List.append_assoc tokens tokens' more).symm

/-- What can be read in front of anything can be read in front of what is read next. -/
theorem Reads.before {may : List Char → Prop} {text text' : List Char}
    {tokens tokens' : List Token} (hfirst : Reads Anything text tokens)
    (hsecond : Reads may text' tokens') : Reads may (text ++ text') (tokens ++ tokens') :=
  hfirst.append hsecond fun _ _ => trivial

theorem Reads.mono {may may' : List Char → Prop} {text : List Char} {tokens : List Token}
    (hreads : Reads may text tokens) (hmay : ∀ rest, may' rest → may rest) :
    Reads may' text tokens :=
  fun rest hrest => hreads rest (hmay rest hrest)

theorem Reads.tokens?_eq {may : List Char → Prop} {text : List Char} {tokens : List Token}
    (hreads : Reads may text tokens) (hmay : may []) : tokens? 0 text = some tokens := by
  have htokens := hreads [] hmay
  rw [List.append_nil] at htokens
  rw [htokens, tokens?, Option.map_some, List.append_nil]

/-- A token at the front is the first one, and the others are those of what stands behind it. -/
theorem reads_of_next? {may : List Char → Prop} {c : Char} {text : List Char} {token : Token}
    (hspace : isSpace c = false)
    (hnext : ∀ rest, may rest → next? (c :: (text ++ rest)) = some (token, text.length + 1)) :
    Reads may (c :: text) [token] := by
  intro rest hrest
  rw [List.cons_append, tokens?, hspace, if_neg Bool.false_ne_true, hnext rest hrest,
    ← tokens?_append text rest]
  rfl

theorem reads_nil : Reads Anything [] [] := fun _ _ => Option.map_id'.symm

theorem reads_space : Reads Anything [' '] [] := fun rest hrest => reads_nil rest hrest

theorem takeWhile_ne_append {mark : Char} {value : List Char} (hvalue : mark ∉ value)
    (rest : List Char) : (value ++ mark :: rest).takeWhile (· != mark) = value := by
  apply Chars.takeWhile_append_cons
  · rw [List.all_eq_true]
    intro c hc
    exact bne_iff_ne.mpr fun h => hvalue (h ▸ hc)
  · exact bne_self_eq_false mark

/-- A literal takes all characters but its own mark. -/
theorem reads_literal {mark : Char} (hmark : isMark mark = true) {value : List Char}
    (hvalue : mark ∉ value) : Reads Anything (mark :: (value ++ [mark])) [.literal value] := by
  have hspace : isSpace mark = false := by
    rw [isMark, Bool.or_eq_true, beq_iff_eq, beq_iff_eq] at hmark
    rcases hmark with rfl | rfl <;> rfl
  refine reads_of_next? hspace fun rest _ => ?_
  have hcontains : (value ++ mark :: rest).contains mark = true :=
    List.contains_iff_mem.mpr (List.mem_append_right _ List.mem_cons_self)
  rw [List.append_assoc, List.singleton_append, next?, if_pos hmark, if_pos hcontains]
  simp only [takeWhile_ne_append hvalue, List.length_append, List.length_singleton]

/-! ## Reading names -/

theorem isPartChar_of_isPartStart {c : Char} (hc : isPartStart c = true) : isPartChar c = true := by
  rw [isPartStart, Bool.and_eq_true] at hc
  rw [isPartChar, ChildPath.isNameChar, hc.1, hc.2]
  rfl

theorem all_isPartChar_of_isPart {s : List Char} (hs : isPart s = true) :
    s.all isPartChar = true := by
  cases s with
  | nil => rfl
  | cons c rest =>
      rw [isPart, Bool.and_eq_true] at hs
      rw [List.all_cons, isPartChar_of_isPartStart hs.1, hs.2]
      rfl

/-- What ends a name: neither a character of one nor a colon. -/
def EndsName (rest : List Char) : Prop := ∀ c ∈ rest.head?, isPartChar c = false ∧ c ≠ ':'

theorem endsName_cons {c : Char} (hc : isPartChar c = false ∧ c ≠ ':') (rest : List Char) :
    EndsName (c :: rest) := by
  intro d hd
  cases hd
  exact hc

/-- A name is one part, or two parts with a colon between them. -/
theorem parts_of_isNameText {s : List Char} (hs : isNameText s = true) :
    isPart s = true ∨
      ∃ first second, s = first ++ ':' :: second ∧ isPart first = true ∧ isPart second = true := by
  have hsplit := List.takeWhile_append_dropWhile (p := (· != ':')) (l := s)
  rw [isNameText, Bool.and_eq_true] at hs
  obtain ⟨hfirst, hsecond⟩ := hs
  cases hrest : s.dropWhile (· != ':') with
  | nil =>
      rw [hrest, List.append_nil] at hsplit
      exact .inl (hsplit ▸ hfirst)
  | cons c second =>
      have hcolon := List.head?_dropWhile_not (· != ':') s
      rw [hrest] at hcolon hsecond hsplit
      have hc : c = ':' := by simpa using hcolon
      rw [hc] at hsplit
      exact .inr ⟨_, second, hsplit.symm, hfirst, hsecond⟩

theorem exists_cons_of_isNameText {s : List Char} (hs : isNameText s = true) :
    ∃ c text, s = c :: text ∧ isPartStart c = true := by
  rcases parts_of_isNameText hs with hpart | ⟨first, second, rfl, hfirst, _⟩
  · cases s with
    | nil => cases hpart
    | cons c text => exact ⟨c, text, rfl, (Bool.and_eq_true_iff.mp hpart).1⟩
  · cases first with
    | nil => cases hfirst
    | cons c first => exact ⟨c, _, rfl, (Bool.and_eq_true_iff.mp hfirst).1⟩

/-- A name ends where no character of a name follows. -/
theorem nameText_append {s rest : List Char} (hs : isNameText s = true) (hrest : EndsName rest) :
    nameText (s ++ rest) = s := by
  have hends : ∀ c ∈ rest.head?, isPartChar c = false := fun c hc => (hrest c hc).1
  rcases parts_of_isNameText hs with hpart | ⟨first, second, rfl, hfirst, hsecond⟩
  · obtain ⟨htake, hdrop⟩ := Chars.span_append (all_isPartChar_of_isPart hpart) hends
    rw [nameText, htake, hdrop]
    split
    next c more _ => exact absurd rfl (hrest ':' rfl).2
    next => rfl
  · cases second with
    | nil => cases hsecond
    | cons c second =>
        rw [isPart, Bool.and_eq_true] at hsecond
        have hcolon : ∀ d ∈ (':' :: c :: (second ++ rest)).head?, isPartChar d = false := by
          intro d hd
          cases hd
          rfl
        obtain ⟨htake, hdrop⟩ := Chars.span_append (all_isPartChar_of_isPart hfirst) hcolon
        have htail := (Chars.span_append hsecond.2 hends).1
        rw [List.append_assoc, List.cons_append, List.cons_append, nameText, htake, hdrop]
        exact (if_pos hsecond.1).trans (by rw [htail])

/-! ## Reading tokens -/

/-- A class of characters that has neither white space nor marks. -/
theorem opens_of_class {c : Char} (class? : Char → Bool)
    (hclass : [' ', '\t', '\n', '\r', '\'', '\x22'].all (fun c => !class? c) = true)
    (hc : class? c = true) : isSpace c = false ∧ isMark c = false := by
  have hnot (other : Char) (hother : other ∈ [' ', '\t', '\n', '\r', '\'', '\x22']) :
      c ≠ other := by
    rintro rfl
    have := List.all_eq_true.mp hclass c hother
    rw [hc] at this
    cases this
  simp only [List.mem_cons, List.not_mem_nil, or_false, forall_eq_or_imp, forall_eq] at hnot
  simp [isSpace, isMark, hnot]

theorem reads_name {s : List Char} (hs : isNameText s = true) : Reads EndsName s [.name s] := by
  obtain ⟨c, text, rfl, hstart⟩ := exists_cons_of_isNameText hs
  obtain ⟨hspace, hmark⟩ := opens_of_class isPartStart (by decide) hstart
  refine reads_of_next? hspace fun rest hrest => ?_
  rw [next?, hmark, if_neg Bool.false_ne_true, if_pos hstart, ← List.cons_append,
    nameText_append hs hrest, List.length_cons]

theorem not_isPartStart_of_isAsciiDigit {c : Char} (hc : Chars.isAsciiDigit c = true) :
    isPartStart c = false := by
  have hrange : Chars.inRanges [(0x30, 0x39)] c.toNat = true := by
    simp only [Chars.isAsciiDigit, Bool.and_eq_true, decide_eq_true_eq] at hc
    simp only [Chars.inRanges, List.any_cons, List.any_nil, Bool.or_false, Bool.and_eq_true,
      decide_eq_true_eq]
    exact hc
  rw [isPartStart, ChildPath.isNameStart,
    Chars.inRanges_eq_false_of_apart (by decide) hrange, Bool.and_false]

/-- What ends a number: neither a digit nor a dot. -/
def EndsNumber (rest : List Char) : Prop := ∀ c ∈ rest.head?, Chars.isAsciiDigit c = false ∧ c ≠ '.'

/-- A number is read as one token. -/
theorem reads_number (n : Nat) : Reads EndsNumber n.repr.toList [.number n.repr.toList] := by
  have hdigits := Chars.all_isAsciiDigit_repr n
  have hnumber {rest : List Char} (hrest : EndsNumber rest) :
      numberText (n.repr.toList ++ rest) = n.repr.toList := by
    obtain ⟨htake, hdrop⟩ := Chars.span_append hdigits fun c hc => (hrest c hc).1
    rw [numberText, htake, hdrop]
    split
    next => exact absurd rfl (hrest '.' rfl).2
    next => rfl
  cases htext : n.repr.toList with
  | nil => exact absurd htext (Chars.repr_toList_ne_nil n)
  | cons c text =>
      rw [htext] at hdigits hnumber
      have hc : Chars.isAsciiDigit c = true := (Bool.and_eq_true_iff.mp hdigits).1
      obtain ⟨hspace, hmark⟩ := opens_of_class Chars.isAsciiDigit (by decide) hc
      refine reads_of_next? hspace fun rest hrest => ?_
      rw [next?, hmark, if_neg Bool.false_ne_true, not_isPartStart_of_isAsciiDigit hc,
        if_neg Bool.false_ne_true, ← List.cons_append, hnumber hrest,
        if_pos (List.cons_ne_nil c text), List.length_cons]

/-- A symbol that is not the start of a longer one is read whatever stands behind it. -/
theorem reads_symbol (symbol : Symbol)
    (hsymbol : symbol ∉ [.slash, .dot, .colon, .less, .greater]) :
    Reads Anything symbol.text [.symbol symbol] := by
  intro rest _
  cases symbol <;> first | rfl | exact absurd (by decide) hsymbol

/-- A name in front of a symbol that ends it. -/
theorem reads_name_symbol {s : List Char} (symbol : Symbol) (hs : isNameText s = true)
    (hsymbol : symbol ∈ [.opening, .equal, .openingBracket]) :
    Reads Anything (s ++ symbol.text) [.name s, .symbol symbol] := by
  simp only [List.mem_cons, List.not_mem_nil, or_false] at hsymbol
  rcases hsymbol with rfl | rfl | rfl <;>
    exact (reads_name hs).append (reads_symbol _ (by decide))
      fun rest _ => endsName_cons (by decide) rest

/-- A slash is one token unless another one follows. -/
theorem reads_slash : Reads (fun rest => rest.head? ≠ some '/') ['/'] [.symbol .slash] := by
  refine reads_of_next? rfl fun rest hrest => ?_
  cases rest with
  | nil => rfl
  | cons c rest =>
      have hlong : Symbol.slashes.text.isPrefixOf ('/' :: c :: rest) = false := by
        have hc : ('/' == c) = false := beq_eq_false_iff_ne.mpr fun h => hrest (by rw [← h]; rfl)
        rw [Symbol.text, List.isPrefixOf_cons_cons, List.isPrefixOf_cons_cons, hc, Bool.false_and,
          Bool.and_false]
      have hfirst : Symbol.first? ('/' :: c :: rest) = some .slash := by
        rw [Symbol.first?, Symbol.all,
          List.find?_cons_of_neg (by rw [hlong]; exact Bool.false_ne_true)]
        rfl
      -- No other kind of token starts with a slash.
      have hnext : next? ('/' :: c :: rest) = (Symbol.first? ('/' :: c :: rest)).map
          fun symbol => (.symbol symbol, symbol.text.length) := rfl
      rw [List.nil_append, hnext, hfirst]
      rfl

/-- A slash in front of a name. -/
theorem reads_slash_name {s : List Char} (hs : isNameText s = true) :
    Reads EndsName ('/' :: s) [.symbol .slash, .name s] := by
  refine reads_slash.append (reads_name hs) fun rest _ => ?_
  obtain ⟨c, text, rfl, hstart⟩ := exists_cons_of_isNameText hs
  intro hslash
  rw [Option.some.inj hslash] at hstart
  exact absurd hstart (by decide)

/-! ## Texts without tokens -/

theorem notMem_takeWhile {mark : Char} {class? : Char → Bool} (hmark : class? mark = false)
    (s : List Char) : mark ∉ s.takeWhile class? := by
  intro hmem
  rw [List.all_eq_true.mp List.all_takeWhile mark hmem] at hmark
  cases hmark

/-- The name at the front of a text starts with its first part and has no mark in it. -/
theorem nameText_spec (s : List Char) :
    s.takeWhile isPartChar <+: nameText s ∧ nameText s <+: s ∧ '\'' ∉ nameText s := by
  have hfirst : '\'' ∉ s.takeWhile isPartChar := notMem_takeWhile (by decide) s
  have htaken : s.takeWhile isPartChar <+: s := List.takeWhile_prefix _
  have hsplit := List.takeWhile_append_dropWhile (p := isPartChar) (l := s)
  rw [nameText]
  split
  next c rest hrest =>
    split
    next hstart =>
      rw [hrest] at hsplit
      refine ⟨List.prefix_append _ _, ?_, ?_⟩
      · conv => rhs; rw [← hsplit]
        rw [List.prefix_append_right_inj, List.cons_prefix_cons, List.cons_prefix_cons]
        exact ⟨rfl, rfl, by apply List.takeWhile_prefix⟩
      · rw [List.mem_append, List.mem_cons, List.mem_cons]
        rintro (hmem | hmem | hmem | hmem)
        · exact hfirst hmem
        · exact absurd hmem (by decide)
        · rw [← hmem] at hstart
          exact absurd hstart (by decide)
        · exact notMem_takeWhile (by decide) _ hmem
    next => exact ⟨List.prefix_rfl, htaken, hfirst⟩
  next => exact ⟨List.prefix_rfl, htaken, hfirst⟩

/-- What is taken for a number is at the front of a text and has no mark in it. -/
theorem numberText_spec (s : List Char) : numberText s <+: s ∧ '\'' ∉ numberText s := by
  have hfirst : '\'' ∉ s.takeWhile Chars.isAsciiDigit := notMem_takeWhile (by decide) s
  have hsplit := List.takeWhile_append_dropWhile (p := Chars.isAsciiDigit) (l := s)
  rw [numberText]
  split
  next rest hrest =>
    dsimp only
    split
    next => exact ⟨List.nil_prefix, List.not_mem_nil⟩
    next =>
      rw [hrest] at hsplit
      constructor
      · conv => rhs; rw [← hsplit]
        rw [List.prefix_append_right_inj, List.cons_prefix_cons]
        exact ⟨rfl, by apply List.takeWhile_prefix⟩
      · rw [List.mem_append, List.mem_cons]
        rintro (hmem | hmem | hmem)
        · exact hfirst hmem
        · exact absurd hmem (by decide)
        · exact notMem_takeWhile (by decide) _ hmem
  next => exact ⟨by apply List.takeWhile_prefix, hfirst⟩

/-- A symbol is at the front of the text in which it is found, and has no mark in it. -/
theorem Symbol.first?_spec {s : List Char} {symbol : Symbol} (hfirst : first? s = some symbol) :
    symbol.text <+: s ∧ symbol.text ≠ [] ∧ '\'' ∉ symbol.text := by
  have hfront : symbol.text.isPrefixOf s = true := by
    rw [first?] at hfirst
    have hfound := List.find?_some hfirst
    exact hfound
  exact ⟨List.isPrefixOf_iff_prefix.mp hfront, by cases symbol <;> decide,
    by cases symbol <;> decide⟩

/-- The characters of a token other than a literal have no mark among them. -/
theorem even_marks_of_front {c : Char} {token rest : List Char} (hfront : token <+: c :: rest)
    (hne : token ≠ []) (hmark : '\'' ∉ token) :
    ∃ text behind, rest = text ++ behind ∧ token.length = text.length + 1 ∧
      (c :: text).count '\'' % 2 = 0 := by
  obtain ⟨behind, hbehind⟩ := hfront
  cases token with
  | nil => exact absurd rfl hne
  | cons d text =>
      obtain ⟨rfl, hrest⟩ := List.cons.inj hbehind
      exact ⟨text, behind, hrest.symm, rfl, by rw [List.count_eq_zero_of_not_mem hmark]⟩

/-- A token of a text without double marks has an even number of single marks. -/
theorem even_marks_of_next? {c : Char} {rest : List Char} {token : Token} {length : Nat}
    (hdouble : '\x22' ∉ c :: rest) (hnext : next? (c :: rest) = some (token, length)) :
    ∃ text behind, rest = text ++ behind ∧ length = text.length + 1 ∧
      (c :: text).count '\'' % 2 = 0 := by
  rw [next?] at hnext
  split at hnext
  next hmark =>
    split at hnext
    next hcontains =>
      obtain ⟨_, hlength⟩ := Prod.mk.inj (Option.some.inj hnext)
      have hc : c = '\'' := by
        rw [isMark, Bool.or_eq_true, beq_iff_eq, beq_iff_eq] at hmark
        exact hmark.resolve_right fun h => hdouble (by rw [h]; exact List.mem_cons_self)
      subst hc
      obtain ⟨value, behind, rfl, hvalue⟩ :=
        List.eq_append_cons_of_mem (List.contains_iff_mem.mp hcontains)
      rw [takeWhile_ne_append hvalue] at hlength
      refine ⟨value ++ ['\''], behind, by rw [List.append_assoc]; rfl, ?_, ?_⟩
      · rw [← hlength, List.length_append, List.length_singleton]
      · rw [List.count_cons_self, List.count_append, List.count_eq_zero_of_not_mem hvalue]
        rfl
    next => cases hnext
  next =>
  split at hnext
  next hstart =>
    obtain ⟨_, hlength⟩ := Prod.mk.inj (Option.some.inj hnext)
    obtain ⟨hpart, hfront, hmark⟩ := nameText_spec (c :: rest)
    have hne : nameText (c :: rest) ≠ [] := by
      intro hnil
      rw [hnil, List.takeWhile_cons_of_pos (isPartChar_of_isPartStart hstart)] at hpart
      cases List.prefix_nil.mp hpart
    rw [← hlength]
    exact even_marks_of_front hfront hne hmark
  next =>
  split at hnext
  next hne =>
    obtain ⟨_, hlength⟩ := Prod.mk.inj (Option.some.inj hnext)
    obtain ⟨hfront, hmark⟩ := numberText_spec (c :: rest)
    rw [← hlength]
    exact even_marks_of_front hfront hne hmark
  next =>
    obtain ⟨symbol, hfirst, hsymbol⟩ := Option.map_eq_some_iff.mp hnext
    obtain ⟨_, hlength⟩ := Prod.mk.inj hsymbol
    obtain ⟨hfront, hne, hmark⟩ := Symbol.first?_spec hfirst
    rw [← hlength]
    exact even_marks_of_front hfront hne hmark

/-- What is cut into tokens, and has no double marks, has an even number of single ones. -/
theorem even_marks_of_tokens? {skip : Nat} {s : List Char} {tokens : List Token}
    (hdouble : '\x22' ∉ s) (htokens : tokens? skip s = some tokens) :
    (s.drop skip).count '\'' % 2 = 0 := by
  induction s generalizing skip tokens with
  | nil => rw [List.drop_nil, List.count_nil]
  | cons c rest ih =>
      have hrest : '\x22' ∉ rest := fun h => hdouble (List.mem_cons_of_mem c h)
      cases skip with
      | succ skip => exact ih hrest htokens
      | zero =>
          rw [tokens?] at htokens
          split at htokens
          next hspace =>
            have hc : c ≠ '\'' := by
              rintro rfl
              cases hspace
            rw [List.drop_zero, List.count_cons_of_ne hc]
            exact ih hrest htokens
          next =>
            split at htokens
            next token length hnext =>
              obtain ⟨more, hmore, _⟩ := Option.map_eq_some_iff.mp htokens
              obtain ⟨text, behind, rfl, rfl, heven⟩ := even_marks_of_next? hdouble hnext
              have hbehind := ih hrest hmore
              rw [Nat.add_sub_cancel, List.drop_left] at hbehind
              rw [List.drop_zero, ← List.cons_append, List.count_append]
              omega
            next => cases htokens

/-- A text without double marks and with an odd number of single ones is no expression. -/
theorem tokens?_eq_none_of_odd {s : List Char} (hdouble : '\x22' ∉ s)
    (hodd : s.count '\'' % 2 = 1) : tokens? 0 s = none := by
  cases htokens : tokens? 0 s with
  | none => rfl
  | some tokens =>
      have heven := even_marks_of_tokens? hdouble htokens
      rw [List.drop_zero] at heven
      omega

end Clickpath.XPath
