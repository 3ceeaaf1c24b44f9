import Mdx.Order
import Mdx.Tag
import Mdx.Tree

/-!
# Rendered children

Which children of an element are rendered, and under which names they see each other. White space
that holds a line feed only lays the blocks out and is skipped, except where white space is content.
-/

namespace Mdx.Rendered

/-- White space with a line feed in it. -/
def isLayout : Tree → Bool
  | .text value => value.toList.contains '\n' && Text.allBlank value
  | _ => false

/-- In these elements white space is content. -/
def isPreformatted (mark name : String) : Bool :=
  let tag := Tag.bare mark name
  tag == "pre" || tag == "code"

/-- The child is left out. -/
def skips (preformatted : Bool) (t : Tree) : Bool :=
  !preformatted && isLayout t

/-- The name of a child among its siblings; a text has none. -/
def siblingName (mark : String) : Tree → Option String
  | .element name _ _ => some (Tag.bare mark name)
  | .fragment _ => some fragmentName
  | .text _ => none

/-- The positions of the children that are rendered. -/
def orders (mark : String) (preformatted : Bool) (children : List Tree) : List Order :=
  Order.ofNames ((children.filter fun t => !skips preformatted t).map (siblingName mark))

end Mdx.Rendered
