import Clickpath.Text

/-! # Command line arguments

The words of a command line are options and operands. An option begins with hyphens and may be cut
down to any beginning that fits no other; its value is the next word or stands behind an equals
sign. Two hyphens alone make everything behind them operands. A negative number is an operand, and
so is what begins with a hyphen and holds a space.
-/

namespace Clickpath.Arguments

/-- Why a command line is not carried out. -/
inductive Refusal where
  /-- It asks for help. -/
  | help
  | wrong
  deriving DecidableEq, Repr

/-- An option: its name with hyphens, whether a value follows, which values it accepts, and the
options that cannot be given with it. -/
structure Spec where
  name : String
  takesValue : Bool
  accepts : String → Bool
  excludes : List String

/-- An option that any value follows. -/
def Spec.value (name : String) : Spec := ⟨name, true, fun _ => true, []⟩

/-- An option that stands alone. -/
def Spec.flag (name : String) : Spec := ⟨name, false, fun _ => true, []⟩

def helpNames : List String := ["-h", "--help"]

def helpSpecs : List Spec := helpNames.map Spec.flag

/-- The word for what an argument is. -/
inductive Word where
  | operand (text : String)
  | option (name : String) (attached : Option String)
  /-- It looks like an option, but there is none of that name. -/
  | unknown
  | separator
  deriving DecidableEq, Repr

/-- A negative number, written without exponent. -/
def isNegativeNumber (s : List Char) : Bool :=
  let isDigit (c : Char) : Bool := (Chars.decimalValue? c).isSome
  match s with
  | '-' :: rest =>
    let rest := if rest.getLast? == some '\n' then rest.dropLast else rest
    match rest.dropWhile isDigit with
    | [] => !rest.isEmpty
    | '.' :: places => !places.isEmpty && places.all isDigit
    | _ => false
  | _ => false

/-- The text before the first equals sign and the text behind it. -/
def splitAssignment? (s : List Char) : Option (String × String) :=
  (Chars.breakOn? ['='] s).map fun (name, value) => (String.ofList name, String.ofList value)

def shortCandidates (names : List String) (arg : List Char) : List Word :=
  names.filterMap fun name =>
    if name.toList == arg.take 2 then some (.option name (some (String.ofList (arg.drop 2))))
    else if arg.isPrefixOf name.toList then some (.option name none)
    else none

def longCandidates (names : List String) (arg : List Char) : List Word :=
  let (start, attached) := match splitAssignment? arg with
    | some (start, value) => (start.toList, some value)
    | none => (arg, none)
  (names.filter fun name => start.isPrefixOf name.toList).map fun name => .option name attached

def candidates (names : List String) (arg : List Char) : List Word :=
  match arg with
  | '-' :: '-' :: _ => longCandidates names arg
  | _ => shortCandidates names arg

def fullOption? (names : List String) (arg : List Char) : Option Word :=
  if names.contains (String.ofList arg) then some (.option (String.ofList arg) none)
  else match splitAssignment? arg with
    | some (name, value) => if names.contains name then some (.option name (some value)) else none
    | none => none

def hyphened (names : List String) (arg : List Char) : Except Refusal Word :=
  match fullOption? names arg, candidates names arg with
  | some word, _ => .ok word
  | none, [word] => .ok word
  | none, _ :: _ :: _ => .error .wrong
  | none, [] =>
    if isNegativeNumber arg || arg.contains ' ' then .ok (.operand (String.ofList arg))
    else .ok .unknown

def wordOf (names : List String) (arg : String) : Except Refusal Word :=
  match arg.toList with
  | '-' :: c :: rest => hyphened names ('-' :: c :: rest)
  | _ => .ok (.operand arg)

def wordsOf (names : List String) : List String → Except Refusal (List Word)
  | [] => .ok []
  | "--" :: rest => .ok (.separator :: rest.map .operand)
  | arg :: rest => do
    let word ← wordOf names arg
    let words ← wordsOf names rest
    .ok (word :: words)

/-- What was given: the operand, the options with their values in order, and whether there was more
than there should be. -/
structure Given where
  operand : Option String
  options : List (String × String)
  surplus : Bool

namespace Given

def nothing : Given := ⟨none, [], false⟩

def has (g : Given) (name : String) : Bool := g.options.any (·.1 == name)

def value? (g : Given) (name : String) : Option String :=
  (g.options.reverse.find? (·.1 == name)).map (·.2)

def withSurplus (g : Given) : Given := { g with surplus := true }

end Given

def take (spec : Spec) (value : String) (g : Given) : Except Refusal Given :=
  if !spec.accepts value || spec.excludes.any g.has then .error .wrong
  else if helpNames.contains spec.name then .error .help
  else .ok { g with options := g.options ++ [(spec.name, value)] }

def specOf? (specs : List Spec) (name : String) : Option Spec := specs.find? (·.name == name)

/-- The options that the letters behind a single hyphen stand for; none of them takes a value. -/
def letterOptions (specs : List Spec) (letters : List Char) : Except Refusal (List Spec) :=
  letters.mapM fun c =>
    match specOf? specs (String.ofList ['-', c]) with
    | some spec => if spec.takesValue then .error .wrong else .ok spec
    | none => .error .wrong

def flagsOf (specs : List Spec) (spec : Spec) (attached : Option String) :
    Except Refusal (List Spec) :=
  match attached with
  | none => .ok [spec]
  | some letters =>
    if letters.isEmpty || "--".toList.isPrefixOf spec.name.toList then .error .wrong
    else (letterOptions specs letters.toList).map (spec :: ·)

def takeFlags (specs : List Spec) (g : Given) : Except Refusal Given :=
  specs.foldlM (fun g spec => take spec "" g) g

/-- The options of a command, whether it has an operand, and options of which it needs one. -/
structure Grammar where
  specs : List Spec
  hasOperand : Bool
  oneOf : List String

/-- Takes words in order. A separator may stand before the operand and directly behind it. -/
def takeWords (grammar : Grammar) : Bool → Given → List Word → Except Refusal Given
  | _, g, [] => .ok g
  | behindOperand, g, .separator :: rest =>
    let atOperand := behindOperand || (grammar.hasOperand && g.operand.isNone && !rest.isEmpty)
    takeWords grammar false (if atOperand then g else g.withSurplus) rest
  | _, g, .operand text :: rest =>
    if grammar.hasOperand && g.operand.isNone then
      takeWords grammar true { g with operand := some text } rest
    else takeWords grammar false g.withSurplus rest
  | _, g, .unknown :: rest => takeWords grammar false g.withSurplus rest
  | _, g, .option name attached :: rest =>
    match specOf? grammar.specs name with
    | none => .error .wrong
    | some spec =>
      if spec.takesValue then
        match attached, rest with
        | some value, rest => (take spec value g).bind fun g => takeWords grammar false g rest
        | none, .operand value :: rest =>
          (take spec value g).bind fun g => takeWords grammar false g rest
        | none, _ => .error .wrong
      else do
        let flags ← flagsOf grammar.specs spec attached
        let g ← takeFlags flags g
        takeWords grammar false g rest

def isComplete (grammar : Grammar) (g : Given) : Bool :=
  (!grammar.hasOperand || g.operand.isSome) && (grammar.oneOf.isEmpty || grammar.oneOf.any g.has)

/-- Reads the arguments of a command. Surplus ones are left for the caller to refuse. -/
def read (grammar : Grammar) (args : List String) : Except Refusal Given := do
  let words ← wordsOf (grammar.specs.map (·.name)) args
  let g ← takeWords grammar false .nothing words
  if isComplete grammar g then .ok g else .error .wrong

/-- Takes words up to the first operand, which names a command, and gives the number of words before
it too. -/
def takeLeading (specs : List Spec) : Nat → Given → List Word → Except Refusal (Given × Option Nat)
  | _, g, [] => .ok (g, none)
  | count, g, .operand _ :: _ => .ok (g, some count)
  | _, _, .separator :: _ => .error .wrong
  | count, g, .unknown :: rest => takeLeading specs (count + 1) g.withSurplus rest
  | count, g, .option name attached :: rest =>
    match specOf? specs name with
    | none => .error .wrong
    | some spec => do
      let flags ← flagsOf specs spec attached
      let g ← takeFlags flags g
      takeLeading specs (count + 1) g rest

/-- Reads the options, none of which takes a value, in front of a command, and gives the arguments
from the command on. -/
def readLeading (specs : List Spec) (args : List String) :
    Except Refusal (Given × List String) := do
  let words ← wordsOf (specs.map (·.name)) args
  let (g, count) ← takeLeading specs 0 .nothing words
  .ok (g, match count with
    | some count => args.drop count
    | none => [])

end Clickpath.Arguments
