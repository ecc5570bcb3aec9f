/-! # Element trees

A markup tree holds texts and elements, and an element holds its content in order. The elements in
the content are its children.
-/

namespace Clickpath.Markup

/-- A text, or an element with its attributes and content. -/
inductive Node where
  | text (data : String)
  | element (tag : String) (attributes : List (String × String)) (content : List Node)

namespace Node

def tag? : Node → Option String
  | text _ => none
  | element tag _ _ => some tag

def isElement (n : Node) : Bool := n.tag?.isSome

/-- The tags of the elements among nodes, in order. -/
def tags (nodes : List Node) : List String := nodes.filterMap tag?

mutual

def allText : Node → String
  | text data => data
  | element _ _ content => allTextOf content

def allTextOf : List Node → String
  | [] => ""
  | node :: rest => allText node ++ allTextOf rest

end

end Node

end Clickpath.Markup
