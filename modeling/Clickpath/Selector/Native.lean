import Clickpath.Json.Literal
import Clickpath.Selector

/-! # Selectors in the driver's own language

A browser driver takes a selector as one text. A strategy is written in front of its value or as a
condition that holds the value as a string literal.
-/

namespace Clickpath.Selector

def native (s : Selector) : String :=
  match s.kind with
  | none => s.raw
  | some .id => "id=" ++ s.raw
  | some .name => "[name=" ++ Json.literal true s.raw ++ "]"
  | some .linkText => "a:text-is(" ++ Json.literal true s.raw ++ ")"
  | some .partialLinkText => "a:has-text(" ++ Json.literal true s.raw ++ ")"
  | some .css => "css=" ++ s.raw
  | some .xpath => "xpath=" ++ s.raw
  | some .text => "text=" ++ Json.literal true s.raw

def strategyName (s : Selector) : String := (s.kind.map (·.label)).getD "native"

end Clickpath.Selector
