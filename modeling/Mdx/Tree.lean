import Mdx.Dict
import Mdx.Json.Basic
import Mdx.Text.Blank
import Mdx.Text.Search

/-!
# Element trees

The tree that passes edit and lowering reads: elements with props, text, and fragments, which
group children without an element of their own.
-/

namespace Mdx

/-- The value of a prop. -/
inductive PropValue where
  /-- A literal JSON value. -/
  | literal (value : Json)
  /-- An attribute expression that is no JSON literal, as written. -/
  | expression (source : String)
  /-- A file beside the document, to be loaded when the module is built. -/
  | localAsset (path : String)

namespace PropValue

def string (s : String) : PropValue := .literal (.str s)

def bool (b : Bool) : PropValue := .literal (.bool b)

/-- The text of a string literal. -/
def str? : PropValue → Option String
  | .literal (.str s) => some s
  | _ => none

end PropValue

/-- The props of an element. -/
abbrev Props := Dict PropValue

/-- A node of an element tree. -/
inductive Tree where
  | element (name : String) (props : List (String × PropValue)) (children : List Tree)
  | text (value : String)
  | fragment (children : List Tree)

/-- The root of an element tree. -/
structure Element where
  name : String
  props : Props := []
  children : List Tree := []

/-- The name under which a fragment appears among named siblings. -/
def fragmentName : String := "Fragment"

namespace Tree

instance : Inhabited Tree := ⟨.text ""⟩

/-- An element without props. -/
def plain (name : String) (children : List Tree) : Tree :=
  .element name [] children

/-- A text of white space only, the empty text included. -/
def isBlankText : Tree → Bool
  | .text value => Text.allBlank value
  | _ => false

/-- An element of the given name. -/
def isNamed (name : String) : Tree → Bool
  | .element n _ _ => n == name
  | _ => false

mutual

/-- The texts of a tree, joined. -/
def content : Tree → String
  | .element _ _ cs => contents cs
  | .text value => value
  | .fragment cs => contents cs

/-- The texts of a row of trees, joined. -/
def contents : List Tree → String
  | [] => ""
  | t :: ts => content t ++ contents ts

end

mutual

/-- The names of the elements of a tree, parents first. -/
def names : Tree → List String
  | .element name _ cs => name :: rowNames cs
  | .text _ => []
  | .fragment cs => rowNames cs

/-- The names of the elements of a row of trees, parents first. -/
def rowNames : List Tree → List String
  | [] => []
  | t :: ts => names t ++ rowNames ts

end

end Tree

/-- An edit of every element by itself, told from the name the element has before it: a new
name, new props, and which of its children stay. -/
structure Edit where
  rename : String → String := id
  props : String → Props → Props := fun _ props => props
  keep : String → Tree → Bool := fun _ _ => true

namespace Edit

mutual

/-- Edits every element of a tree. -/
def tree (e : Edit) : Tree → Tree
  | .element name props cs => .element (e.rename name) (e.props name props) (row e (e.keep name) cs)
  | .text value => .text value
  | .fragment cs => .fragment (row e (fun _ => true) cs)

/-- Edits the kept ones of a row of trees. -/
def row (e : Edit) (keep : Tree → Bool) : List Tree → List Tree
  | [] => []
  | t :: ts => if keep t then tree e t :: row e keep ts else row e keep ts

end

/-- Edits a root and everything below it. -/
def root (e : Edit) (r : Element) : Element :=
  { name := e.rename r.name
    props := e.props r.name r.props
    children := row e (e.keep r.name) r.children }

end Edit

namespace Element

/-- The root as a node. -/
def toTree (r : Element) : Tree :=
  .element r.name r.props r.children

/-- The names of all elements, the root first. -/
def names (r : Element) : List String :=
  r.toTree.names

end Element

end Mdx
