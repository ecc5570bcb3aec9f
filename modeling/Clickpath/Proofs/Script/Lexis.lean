import Clickpath.Chars.Digit

/-! # Code, literals and comments

A script is read as its language reads it: letter codes are resolved first, where the language has
them, and then string literals and comments are told apart from code. What is left when the contents
of literals and all of the comments are taken away is the skeleton of the script.
-/

namespace Clickpath.Script

/-- The languages of scripts. -/
inductive Dialect where
  | java
  | javaScript
  | python
  deriving DecidableEq

namespace Dialect

def mark : Dialect → List Char
  | java | javaScript => ['/', '/']
  | python => ['#']

/-! ## Reading -/

def quote : Nat := '\x22'.toNat

def backslash : Nat := '\\'.toNat

def lineEnd : Nat := '\n'.toNat

def utf16 (c : Char) : List Nat :=
  if c.toNat < 0x10000 then [c.toNat]
  else [0xD800 + (c.toNat - 0x10000) / 0x400, 0xDC00 + (c.toNat - 0x10000) % 0x400]

/-- The codes of a character. Where letter codes are resolved, they stand for UTF-16 code units, so
the text is a sequence of these. -/
def codes : Dialect → Char → List Nat
  | java => utf16
  | javaScript | python => fun c => [c.toNat]

def isLetterU (code : Nat) : Bool := code == 'u'.toNat

/-- The number of codes in a letter code behind its backslash and the code unit that it stands for.
It has one letter or more, and four hexadecimal digits. -/
def letterCode? (behind : List Nat) : Option (Nat × Nat) :=
  let letters := behind.takeWhile isLetterU
  let digits := (behind.drop letters.length).take 4
  let characters := digits.map Char.ofNat
  if !letters.isEmpty && digits.length == 4 && characters.all Chars.isHexDigit then
    some (letters.length + 4, Chars.hexNumber characters)
  else none

/-- A text with its letter codes resolved. It is given how many codes belong to a letter code that
was resolved, and whether an odd number of backslashes stands directly in front: then a backslash
opens nothing. -/
def resolve : Nat → Bool → List Nat → List Nat
  | _, _, [] => []
  | skip + 1, _, _ :: rest => resolve skip false rest
  | 0, odd, c :: rest =>
    if c != backslash || odd then c :: resolve 0 false rest
    else match letterCode? rest with
      | some (length, unit) => unit :: resolve length false rest
      | none => c :: resolve 0 true rest

def read (l : Dialect) (s : List Char) : List Nat :=
  if l = java then resolve 0 false (s.flatMap l.codes) else s.flatMap l.codes

/-! ## Erasing -/

/-- Where a reader is: in code, in a literal, behind a backslash in a literal, or in a comment. -/
inductive Mode where
  | code
  | literal
  | escaped
  | comment

/-- A text without the contents of its literals and without its comments. The quotation marks and
the ends of lines remain. -/
def erase (mark : List Nat) : Mode → List Nat → List Nat
  | _, [] => []
  | .code, c :: rest =>
    if mark.isPrefixOf (c :: rest) then erase mark .comment rest
    else if c == quote then c :: erase mark .literal rest
    else c :: erase mark .code rest
  | .literal, c :: rest =>
    if c == backslash then erase mark .escaped rest
    else if c == quote then c :: erase mark .code rest
    else erase mark .literal rest
  | .escaped, _ :: rest => erase mark .literal rest
  | .comment, c :: rest =>
    if c == lineEnd then c :: erase mark .code rest else erase mark .comment rest

def markCodes (l : Dialect) : List Nat := l.mark.map Char.toNat

/-- What is left of a text without its comments and the contents of its literals. -/
def skeleton (l : Dialect) (s : List Char) : List Nat := erase l.markCodes .code (l.read s)

/-! ## Codes -/

theorem codes_of_lt (l : Dialect) {c : Char} (hc : c.toNat < 0x10000) : l.codes c = [c.toNat] := by
  cases l with
  | java => exact if_pos hc
  | javaScript => rfl
  | python => rfl

/-- The codes of a character are its own or surrogates. -/
theorem mem_codes {l : Dialect} {c : Char} {code : Nat} (hcode : code ∈ l.codes c) :
    code = c.toNat ∨ 0xD800 ≤ code := by
  cases l with
  | java =>
      rw [codes, utf16] at hcode
      split at hcode
      next => exact Or.inl (List.mem_singleton.mp hcode)
      next =>
        rcases List.mem_cons.mp hcode with rfl | hcode
        · exact Or.inr (Nat.le_add_right _ _)
        · rw [List.mem_singleton] at hcode
          omega
  | javaScript => exact Or.inl (List.mem_singleton.mp hcode)
  | python => exact Or.inl (List.mem_singleton.mp hcode)

/-- Small codes are those of the characters themselves. -/
theorem ne_of_mem_codes {l : Dialect} {c other : Char} {code : Nat} (hcode : code ∈ l.codes c)
    (hother : other.toNat < 0xD800) (hne : c ≠ other) : code ≠ other.toNat := by
  rintro rfl
  cases mem_codes hcode with
  | inl hsame => exact hne (Char.toNat_inj.mp hsame.symm)
  | inr hlarge => omega

/-! ## Texts that are read alone -/

def Settled (l : Dialect) (s : List Char) (out : List Nat) : Prop :=
  ∀ rest, l.read (s ++ rest) = out ++ l.read rest

theorem Settled.nil (l : Dialect) : l.Settled [] [] := fun _ => rfl

theorem Settled.append {l : Dialect} {s t : List Char} {out more : List Nat}
    (hs : l.Settled s out) (ht : l.Settled t more) : l.Settled (s ++ t) (out ++ more) := by
  intro rest
  rw [List.append_assoc, hs, ht, List.append_assoc]

theorem read_java (s : List Char) : java.read s = resolve 0 false (s.flatMap java.codes) :=
  if_pos rfl

theorem settled_of_ne_java {l : Dialect} (hl : l ≠ java) (s : List Char) :
    l.Settled s (s.flatMap l.codes) := by
  intro rest
  rw [read, read, if_neg hl, if_neg hl, List.flatMap_append]

theorem resolve_append {s : List Nat} (hs : backslash ∉ s) (rest : List Nat) :
    resolve 0 false (s ++ rest) = s ++ resolve 0 false rest := by
  induction s with
  | nil => rfl
  | cons c s ih =>
      rw [List.mem_cons, not_or] at hs
      have hc : (c != backslash) = true := bne_iff_ne.mpr (Ne.symm hs.1)
      rw [List.cons_append, resolve, hc, Bool.true_or, if_pos rfl, ih hs.2, List.cons_append]

/-- A text without backslashes has no letter codes. -/
theorem settled_of_notMem (l : Dialect) {s : List Char} (hs : '\\' ∉ s) :
    l.Settled s (s.flatMap l.codes) := by
  intro rest
  cases l with
  | java =>
      have hcodes : backslash ∉ s.flatMap java.codes := by
        intro hmem
        obtain ⟨c, hc, hcode⟩ := List.mem_flatMap.mp hmem
        exact ne_of_mem_codes hcode (by decide) (ne_of_mem_of_not_mem hc hs) rfl
      rw [read_java, read_java, List.flatMap_append, resolve_append hcodes]
  | javaScript => exact settled_of_ne_java (by decide) s rest
  | python => exact settled_of_ne_java (by decide) s rest

end Dialect

end Clickpath.Script
