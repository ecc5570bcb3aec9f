import Clickpath.Proofs.XPath.Tokens
import Clickpath.Locator.Inference
import Clickpath.Selector.XPath

/-! # Location paths

A location path leads from a document through steps, each of which goes to children, or to children
at any depth, that pass a test. The paths which are written for elements and texts are of this form.
Each of them is read back here: as the steps for which it was written.
-/

namespace Clickpath.XPath

open Locator

/-! ## Forms of expressions -/

/-- An expression whose value is a text: one literal, or at least two that are put together. -/
inductive StringExpr where
  | literal (value : List Char)
  | concat (first second : List Char) (more : List (List Char))
  deriving DecidableEq, Repr

def StringExpr.value : StringExpr → String
  | literal value => String.ofList value
  | concat first second more => String.ofList (first ++ second ++ more.flatten)

/-- What an element is asked for: its place among those that pass the test of a step, an attribute
with a value, or a text among its nodes. -/
inductive Predicate where
  | position (index : Nat)
  | attribute (name : String) (value : StringExpr)
  | text (value : StringExpr)
  deriving DecidableEq, Repr

/-- A step: whether it goes to any depth, the tag that it asks for unless any will do, and what else
it asks for. -/
structure LocationStep where
  deep : Bool
  tag : Option String
  predicate : Option Predicate
  deriving DecidableEq, Repr

/-! ## Reading -/

/-- The literals up to a closing parenthesis. -/
def literals? : List Token → Option (List (List Char) × List Token)
  | .literal value :: .symbol .closing :: rest => some ([value], rest)
  | .literal value :: .symbol .comma :: rest =>
    (literals? rest).map fun (values, rest) => (value :: values, rest)
  | _ => none

/-- The expression for a text at the front of tokens. -/
def stringExpr? : List Token → Option (StringExpr × List Token)
  | .literal value :: rest => some (.literal value, rest)
  | .name ['c', 'o', 'n', 'c', 'a', 't'] :: .symbol .opening :: rest =>
    match literals? rest with
    | some (first :: second :: more, rest) => some (.concat first second more, rest)
    | _ => none
  | _ => none

/-- The predicate at the front of tokens. -/
def predicate? : List Token → Option (Predicate × List Token)
  | .number digits :: rest =>
    if digits.all Chars.isAsciiDigit then some (.position (Chars.decimalNumber digits), rest)
    else none
  | .symbol .ofAttribute :: .name name :: .symbol .equal :: rest =>
    (stringExpr? rest).map fun (value, rest) => (.attribute (String.ofList name) value, rest)
  | .name ['t', 'e', 'x', 't'] :: .symbol .opening :: .symbol .closing :: .symbol .equal :: rest =>
    (stringExpr? rest).map fun (value, rest) => (.text value, rest)
  | _ => none

/-- The end of a step, behind its tag. -/
def endOfStep? (deep : Bool) (tag : Option String) : List Token → Option (LocationStep × List Token)
  | .symbol .openingBracket :: rest =>
    match predicate? rest with
    | some (predicate, .symbol .closingBracket :: rest) => some (⟨deep, tag, some predicate⟩, rest)
    | _ => none
  | rest => some (⟨deep, tag, none⟩, rest)

/-- A step behind its slashes. -/
def step? (deep : Bool) : List Token → Option (LocationStep × List Token)
  | .symbol .star :: rest => endOfStep? deep none rest
  | .name name :: rest => endOfStep? deep (some (String.ofList name)) rest
  | _ => none

/-- Whether a slash leads to children at any depth. -/
def isDeep? : Token → Option Bool
  | .symbol .slash => some false
  | .symbol .slashes => some true
  | _ => none

/-- The steps of which tokens are made. The fuel is at least the number of steps. -/
def steps? : Nat → List Token → Option (List LocationStep)
  | _, [] => some []
  | 0, _ :: _ => none
  | fuel + 1, token :: tokens => do
      let deep ← isDeep? token
      let (step, rest) ← step? deep tokens
      let steps ← steps? fuel rest
      return step :: steps

/-- The steps of a location path from the document. -/
def read? (text : String) : Option (List LocationStep) :=
  match tokens? 0 text.toList with
  | none | some [] => none
  | some tokens => steps? tokens.length tokens

theorem steps?_of_step? {token : Token} {tokens rest : List Token} {deep : Bool}
    {step : LocationStep} {steps : List LocationStep} {fuel : Nat}
    (hdeep : isDeep? token = some deep) (hstep : step? deep tokens = some (step, rest))
    (hrest : steps? fuel rest = some steps) :
    steps? (fuel + 1) (token :: tokens) = some (step :: steps) := by
  have hread : steps? (fuel + 1) (token :: tokens) = (isDeep? token).bind fun deep =>
      (step? deep tokens).bind fun found =>
        (steps? fuel found.2).bind fun steps => some (found.1 :: steps) := rfl
  rw [hread, hdeep, Option.bind_some, hstep, Option.bind_some, hrest, Option.bind_some]

theorem read?_of_tokens? {text : String} {tokens : List Token} {steps : List LocationStep}
    (htokens : tokens? 0 text.toList = some tokens) (hne : tokens ≠ [])
    (hsteps : steps? tokens.length tokens = some steps) : read? text = some steps := by
  cases tokens with
  | nil => exact absurd rfl hne
  | cons token tokens =>
      rw [read?, htokens]
      exact hsteps

/-! ## Texts -/

/-- The tokens of parts that are joined by marks. -/
def partTokens : List (List Char) → List Token
  | [] => []
  | [part] => [.literal part]
  | part :: parts =>
    .literal part :: .symbol .comma :: .literal ['\''] :: .symbol .comma :: partTokens parts

/-- Parts between marks are read as their tokens. -/
theorem reads_joinParts {parts : List (List Char)} (hparts : ∀ part ∈ parts, '\'' ∉ part) :
    Reads Anything (joinParts parts) (partTokens parts) := by
  have hcomma : Reads Anything ", ".toList [.symbol .comma] :=
    (reads_symbol .comma (by decide)).before reads_space
  have hmark : Reads Anything (inDoubleMarks ['\'']) [.literal ['\'']] :=
    reads_literal rfl (by decide)
  induction parts with
  | nil => exact reads_nil
  | cons part parts ih =>
      have hpart : Reads Anything (inSingleMarks part) [.literal part] :=
        reads_literal rfl (hparts part List.mem_cons_self)
      cases parts with
      | nil => exact hpart
      | cons next parts =>
          have hrest := ih fun part hmem => hparts part (List.mem_cons_of_mem _ hmem)
          exact (((hpart.before hcomma).before hmark).before hcomma).before hrest

/-- The literals of a text are read back with the marks between its parts. -/
theorem literals?_partTokens {parts : List (List Char)} (hne : parts ≠ []) (rest : List Token) :
    literals? (partTokens parts ++ .symbol .closing :: rest) =
      some (parts.intersperse ['\''], rest) := by
  induction parts with
  | nil => exact absurd rfl hne
  | cons part parts ih =>
      cases parts with
      | nil => rfl
      | cons next parts =>
          have hrest := ih (List.cons_ne_nil next parts)
          rw [List.intersperse_cons_cons]
          change ((literals? (partTokens (next :: parts) ++ .symbol .closing :: rest)).map
            fun (values, rest) => (['\''] :: values, rest)).map
              (fun (values, rest) => (part :: values, rest)) = _
          rw [hrest]
          rfl

/-- A separator in a text parts it in two at least. -/
theorem exists_two_parts {separator : Char} {s : List Char} (hs : separator ∈ s) :
    ∃ first second more, Chars.splitOn separator s = first :: second :: more := by
  have hlength := Chars.length_splitOn separator s
  have hcount := List.count_pos_iff.mpr hs
  match hparts : Chars.splitOn separator s with
  | first :: second :: more => exact ⟨first, second, more, rfl⟩
  | [] | [_] =>
      rw [hparts] at hlength
      simp only [List.length_nil, List.length_singleton] at hlength
      omega

/-- The expression that is written for a text is read to its end, and denotes this text. -/
theorem exists_expression (s : List Char) :
    ∃ (expr : StringExpr) (tokens : List Token), Reads Anything (literalChars s) tokens ∧
      (∀ rest, stringExpr? (tokens ++ rest) = some (expr, rest)) ∧
      expr.value = String.ofList s := by
  rw [literalChars]
  split
  next hsingle =>
    have hs : '\'' ∉ s := by simpa using hsingle
    exact ⟨.literal s, _, reads_literal rfl hs, fun _ => rfl, rfl⟩
  next hsingle =>
  split
  next hdouble =>
    have hs : '\x22' ∉ s := by simpa using hdouble
    exact ⟨.literal s, _, reads_literal rfl hs, fun _ => rfl, rfl⟩
  next =>
    have hreads : Reads Anything (joinParts (Chars.splitOn '\'' s)) _ :=
      reads_joinParts fun part hpart => (Chars.of_mem_splitOn hpart).1
    have hopening : Reads Anything "concat(".toList [.name "concat".toList, .symbol .opening] :=
      reads_name_symbol (s := "concat".toList) .opening (by decide) (by decide)
    have hclosing : Reads Anything [')'] [.symbol .closing] := reads_symbol .closing (by decide)
    -- There are two parts at least, so there are three literals: these and the mark between them.
    obtain ⟨first, second, more, hparts⟩ : ∃ first second more,
        Chars.splitOn '\'' s = first :: second :: more := exists_two_parts (by simpa using hsingle)
    have hvalue := Chars.intercalate_splitOn '\'' s
    have hliterals := literals?_partTokens (Chars.splitOn_ne_nil '\'' s)
    rw [hparts, List.intercalate, List.intersperse_cons_cons] at hvalue
    rw [hparts, List.intersperse_cons_cons] at hliterals
    refine ⟨.concat first ['\''] ((second :: more).intersperse ['\'']), _,
      (hopening.before hreads).before hclosing, ?_, ?_⟩
    · intro rest
      rw [hparts, List.append_assoc, List.append_assoc]
      change (match literals?
          (partTokens (first :: second :: more) ++ .symbol .closing :: rest) with
        | some (first :: second :: more, rest) => some (StringExpr.concat first second more, rest)
        | _ => none) = _
      rw [hliterals]
    · rw [← hvalue, StringExpr.value]
      simp

/-! ## Conditions -/

/-- A path to the elements at any depth that meet a condition. -/
theorem read?_anywhere {text : String} {condition : List Char} {tokens : List Token}
    {predicate : Predicate} (htext : text.toList = "//*[".toList ++ condition ++ [']'])
    (hreads : Reads Anything condition tokens)
    (hpredicate : ∀ rest, predicate? (tokens ++ rest) = some (predicate, rest)) :
    read? text = some [⟨true, none, some predicate⟩] := by
  have hopening : Reads Anything "//*[".toList
      [.symbol .slashes, .symbol .star, .symbol .openingBracket] :=
    ((reads_symbol .slashes (by decide)).before (reads_symbol .star (by decide))).before
      (reads_symbol .openingBracket (by decide))
  have hclosing : Reads Anything [']'] [.symbol .closingBracket] :=
    reads_symbol .closingBracket (by decide)
  have hwhole := ((hopening.before hreads).before hclosing).tokens?_eq trivial
  rw [← htext] at hwhole
  refine read?_of_tokens? hwhole (List.cons_ne_nil _ _) ?_
  have hstep : step? true
      (.symbol .star :: .symbol .openingBracket :: (tokens ++ [Token.symbol .closingBracket])) =
        some (⟨true, none, some predicate⟩, []) := by
    rw [step?, endOfStep?, hpredicate]
  exact steps?_of_step? rfl hstep rfl

/-- The path that is written for a text asks for the elements with this text. -/
theorem read?_withText (s : String) :
    ∃ expr : StringExpr, read? (withText s) = some [⟨true, none, some (.text expr)⟩] ∧
      expr.value = s := by
  obtain ⟨expr, tokens, hreads, hexpr, hvalue⟩ := exists_expression s.toList
  have hname : Reads Anything "text(".toList [.name "text".toList, .symbol .opening] :=
    reads_name_symbol (s := "text".toList) .opening (by decide) (by decide)
  have hcondition := ((hname.before (reads_symbol .closing (by decide))).before
    (reads_symbol .equal (by decide))).before hreads
  have htext : (withText s).toList = "//*[".toList ++
      ("text(".toList ++ Symbol.closing.text ++ Symbol.equal.text ++ literalChars s.toList) ++
        [']'] := by
    rw [withText, literal]
    simp [Symbol.text]
  have hpredicate (rest : List Token) : predicate? (.name "text".toList :: .symbol .opening ::
      .symbol .closing :: .symbol .equal :: (tokens ++ rest)) = some (.text expr, rest) := by
    change (stringExpr? (tokens ++ rest)).map _ = _
    rw [hexpr]
    rfl
  exact ⟨expr, read?_anywhere htext hcondition hpredicate, by rw [hvalue, String.ofList_toList]⟩

/-- The path that is written for an identifier asks for the elements with it, unless there is a mark
in it. -/
theorem read?_withId {id : String} (hid : '\'' ∉ id.toList) :
    read? ("//*[@id='" ++ id ++ "']") =
      some [⟨true, none, some (.attribute "id" (.literal id.toList))⟩] := by
  have hname : Reads Anything "id=".toList [.name "id".toList, .symbol .equal] :=
    reads_name_symbol (s := "id".toList) .equal (by decide) (by decide)
  have hcondition := ((reads_symbol .ofAttribute (by decide)).before hname).before
    (reads_literal rfl hid)
  refine read?_anywhere ?_ hcondition fun rest => rfl
  simp [Symbol.text]

/-! ## Child steps -/

def LocationStep.named (tag : String) : LocationStep := ⟨false, some tag, none⟩

def LocationStep.child (s : ChildStep) : LocationStep :=
  ⟨false, some s.tag, some (.position s.index)⟩

def isName (tag : String) : Bool := isNameText tag.toList

/-- The tokens of the step that is written for a part of a path. -/
def stepTokens (n : PathNode) : List Token :=
  [.symbol .slash, .name n.tag.toList, .symbol .openingBracket, .number n.siblingIndex.repr.toList,
   .symbol .closingBracket]

theorem toList_xpathStep (n : PathNode) :
    (xpathStep n).toList =
      '/' :: n.tag.toList ++ ['['] ++ (n.siblingIndex.repr.toList ++ [']']) := by
  simp [xpathStep]

/-- A step that was written is cut into its tokens. -/
theorem reads_xpathStep {n : PathNode} (htag : isName n.tag = true) :
    Reads Anything (xpathStep n).toList (stepTokens n) := by
  have hindex : Reads Anything (n.siblingIndex.repr.toList ++ [']'])
      [.number n.siblingIndex.repr.toList, .symbol .closingBracket] := by
    refine (reads_number n.siblingIndex).append (reads_symbol .closingBracket (by decide)) ?_
    intro rest _ c hc
    cases hc
    decide
  have hopening : Reads Anything ['['] [.symbol .openingBracket] :=
    reads_symbol .openingBracket (by decide)
  have hstep := ((reads_slash_name htag).append hopening
    fun rest _ => endsName_cons (by decide) rest).before hindex
  rw [toList_xpathStep]
  exact hstep

theorem reads_join {nodes : List PathNode} (htags : ∀ n ∈ nodes, isName n.tag = true) :
    Reads Anything (String.join (nodes.map xpathStep)).toList (nodes.flatMap stepTokens) := by
  induction nodes with
  | nil => exact reads_nil
  | cons n nodes ih =>
      rw [List.map_cons, String.join_cons, String.toList_append, List.flatMap_cons]
      exact (reads_xpathStep (htags n List.mem_cons_self)).before
        (ih fun m hm => htags m (List.mem_cons_of_mem _ hm))

theorem step?_stepTokens (n : PathNode) (rest : List Token) :
    step? false (.name n.tag.toList :: .symbol .openingBracket ::
        .number n.siblingIndex.repr.toList :: .symbol .closingBracket :: rest) =
      some (.child (ChildPath.stepOf n), rest) := by
  rw [step?, endOfStep?, predicate?, if_pos (Chars.all_isAsciiDigit_repr _),
    Chars.decimalNumber_repr, String.ofList_toList]
  rfl

theorem steps?_join {nodes : List PathNode} {fuel : Nat} (hfuel : nodes.length ≤ fuel) :
    steps? fuel (nodes.flatMap stepTokens) =
      some ((nodes.map ChildPath.stepOf).map .child) := by
  induction nodes generalizing fuel with
  | nil => cases fuel <;> rfl
  | cons n nodes ih =>
      cases fuel with
      | zero => exact absurd hfuel (Nat.not_succ_le_zero _)
      | succ fuel =>
          exact steps?_of_step? rfl (step?_stepTokens n _) (ih (Nat.le_of_succ_le_succ hfuel))

theorem length_le_length_flatMap (nodes : List PathNode) :
    nodes.length ≤ (nodes.flatMap stepTokens).length := by
  induction nodes with
  | nil => exact Nat.zero_le _
  | cons n nodes ih =>
      rw [List.flatMap_cons, List.length_append, List.length_cons, Nat.add_comm]
      exact Nat.add_le_add (Nat.le_add_left 1 4) ih

/-- The path that is written from the root is read step by step. -/
theorem read?_join {nodes : List PathNode} (hne : nodes ≠ [])
    (htags : ∀ n ∈ nodes, isName n.tag = true) :
    read? (String.join (nodes.map xpathStep)) =
      some ((nodes.map ChildPath.stepOf).map .child) := by
  refine read?_of_tokens? ((reads_join htags).tokens?_eq trivial) ?_
    (steps?_join (length_le_length_flatMap nodes))
  intro hnil
  cases nodes with
  | nil => exact hne rfl
  | cons n nodes => cases hnil

/-- The path that is written from the body is read as the steps to the body and those behind it. -/
theorem read?_belowBody {nodes : List PathNode} (htags : ∀ n ∈ nodes, isName n.tag = true) :
    read? ("/html/body" ++ String.join (nodes.map xpathStep)) =
      some (.named "html" :: .named "body" :: (nodes.map ChildPath.stepOf).map .child) := by
  have hstart : Reads EndsName "/html/body".toList
      [.symbol .slash, .name "html".toList, .symbol .slash, .name "body".toList] :=
    (reads_slash_name (s := "html".toList) (by decide)).append
      (reads_slash_name (s := "body".toList) (by decide))
      fun rest _ => endsName_cons (by decide) _
  have hends : ∀ rest, EndsName rest →
      EndsName ((String.join (nodes.map xpathStep)).toList ++ rest) := by
    intro rest hrest
    cases nodes with
    | nil => exact hrest
    | cons n nodes =>
        rw [List.map_cons, String.join_cons, String.toList_append, toList_xpathStep]
        exact endsName_cons (by decide) _
  have hreads := hstart.append ((reads_join htags).mono fun _ _ => trivial) hends
  rw [← String.toList_append] at hreads
  refine read?_of_tokens? (hreads.tokens?_eq ?_) (List.cons_ne_nil _ _) ?_
  · intro c hc
    cases hc
  · have hbehind : steps? ((nodes.flatMap stepTokens).length + 2) (nodes.flatMap stepTokens) = _ :=
      steps?_join (Nat.le_trans (length_le_length_flatMap nodes) (Nat.le_add_right _ 2))
    have hbody : step? false (.name "body".toList :: nodes.flatMap stepTokens) =
        some (.named "body", nodes.flatMap stepTokens) := by
      cases nodes <;> rfl
    exact steps?_of_step? rfl rfl (steps?_of_step? rfl hbody hbehind)

example : read? "/html/body/p[2]" = some [.named "html", .named "body", .child ⟨"p", 2⟩] := rfl

end Clickpath.XPath
