import Clickpath.Text.Loose

/-! # Tokens of YAML texts

The tokens are the marks of the text and its scalars, together with tokens for what indentation
opens and closes. A simple key is preceded by the token that a question mark gives.
-/

namespace Clickpath.Yaml

/-- A directive in front of a document. -/
inductive Directive where
  | version (major minor : Nat)
  | tagHandle (handle uri : String)
  | other
  deriving DecidableEq, Repr

inductive Token where
  | directive (directive : Directive)
  | documentStart
  | documentEnd
  | blockSequenceStart
  | blockMappingStart
  | blockEnd
  | flowSequenceStart
  | flowSequenceEnd
  | flowMappingStart
  | flowMappingEnd
  | blockEntry
  | flowEntry
  | key
  | value
  | alias (name : String)
  | anchor (name : String)
  | tag (handle : Option String) (suffix : String)
  | scalar (text : Loose) (plain : Bool)
  deriving DecidableEq, Repr

end Clickpath.Yaml
