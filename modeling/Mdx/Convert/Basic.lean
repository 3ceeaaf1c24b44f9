import Mdx.Json.Spelling
import Mdx.Log
import Mdx.Markdown.Node
import Mdx.Tree

/-!
# The elements of document nodes

The shapes of single elements: what a list item, a table, a piece of code or an image becomes once
its content has been converted. Blocks stand on lines of their own, so line feeds are put between
them as texts.
-/

namespace Mdx.Convert

open Markdown (Align AttributeValue ReferenceKind)

/-- The line feed between blocks. -/
def newline : Tree := .text "\n"

/-- Puts line feeds between nodes. -/
def joinLines : List Tree → List Tree
  | [] => []
  | [t] => [t]
  | t :: ts => t :: newline :: joinLines ts

/-- Puts line feeds between nodes, before the first and after the last. -/
def onLines (ts : List Tree) : List Tree :=
  newline :: (joinLines ts ++ if ts.isEmpty then [] else [newline])

/-- The value of an attribute: a bare one is true, an expression that is a JSON literal is that
literal, and any other expression keeps its source. -/
def attributeValue : Option AttributeValue → PropValue
  | none => .bool true
  | some (.literal text) => .string text
  | some (.expression source) =>
    match Json.read? (Text.trimmed source) with
    | some value => .literal value
    | none => .expression source

/-- Code ends with a line feed unless it is empty. -/
def codeText (value : String) : Tree :=
  .text (if value.isEmpty then "" else value ++ "\n")

/-- A block of code with the classes of its language. -/
def codeBlock (className : Option String) (value : String) : Tree :=
  let props : Props := (className.map fun name => ("className", PropValue.string name)).toList
  .plain "pre" [.element "code" props [codeText value]]

/-- A title, where there is one. -/
def withTitle (title : Option String) (props : Props) : Props :=
  match title with
  | some title => props.insert "title" (.string title)
  | none => props

def image (url alt : String) (title : Option String) : Tree :=
  .element "img" (withTitle title [("alt", .string alt), ("src", .string url)]) []

def link (url : String) (title : Option String) (content : List Tree) : Tree :=
  .element "a" (withTitle title [("href", .string url)]) content

/-- The brackets after an undefined reference. -/
def referenceSuffix (kind : ReferenceKind) (label : Option String) : String :=
  match kind with
  | .shortcut => ""
  | .collapsed => "[]"
  | .full => "[" ++ label.getD "" ++ "]"

/-! ## Lists -/

/-- The box of a task. -/
def checkbox (checked : Bool) : Tree :=
  .element "input"
    [("checked", .bool checked), ("disabled", .bool true), ("type", .string "checkbox")] []

/-- Puts the box of a task at the start of the first paragraph, which is made if there is none. -/
def addCheckbox (checked : Bool) (content : List Tree) : List Tree :=
  let fill (children : List Tree) :=
    checkbox checked :: (if children.isEmpty then [] else .text " " :: children)
  match content with
  | .element "p" props children :: rest => .element "p" props (fill children) :: rest
  | _ => .plain "p" (fill []) :: content

/-- The content of a list item: every node but a leading paragraph starts on a new line, and in a
tight list paragraphs are replaced by what they hold. -/
def itemContent (loose : Bool) (first : Bool) : List Tree → List Tree
  | [] => []
  | t :: ts =>
    let isParagraph := t.isNamed "p"
    let lead := if loose || !first || !isParagraph then [newline] else []
    let body :=
      match t with
      | .element _ _ children => if isParagraph && !loose then children else [t]
      | _ => [t]
    lead ++ body ++ itemContent loose false ts

/-- A list item around converted content. -/
def listItem (loose : Bool) (checked : Option Bool) (content : List Tree) : Tree :=
  let content :=
    match checked with
    | some checked => addCheckbox checked content
    | none => content
  let props : Props := if checked.isSome then [("className", .string "task-list-item")] else []
  let trail :=
    match content.getLast? with
    | some last => if loose || !last.isNamed "p" then [newline] else []
    | none => []
  .element "li" props (itemContent loose true content ++ trail)

/-- A list around converted items. The first number is written when it is not one. -/
def list (ordered : Bool) (start : Option Nat) (hasTask : Bool) (items : List Tree) : Tree :=
  let startProp : Props :=
    match start with
    | some n => if ordered && n != 1 then [("start", .literal (.ofNat n))] else []
    | none => []
  let classProp : Props := if hasTask then [("className", .string "contains-task-list")] else []
  .element (if ordered then "ol" else "ul") (classProp ++ startProp) (onLines items)

/-! ## Tables -/

def alignText : Align → Option String
  | .left => some "left"
  | .right => some "right"
  | .center => some "center"
  | .unset => none

/-- A cell of the column with the given alignment. -/
def cell (name : String) (align : Option Align) (content : List Tree) : Tree :=
  .element name (((align.bind alignText).map fun a => ("align", PropValue.string a)).toList) content

/-- A table around converted rows, of which the first is the head. -/
def table (rows : List Tree) : Tree :=
  let head :=
    match rows with
    | row :: _ => [.plain "thead" (onLines [row])]
    | [] => []
  let body :=
    match rows with
    | _ :: row :: more => [.plain "tbody" (onLines (row :: more))]
    | _ => []
  .plain "table" (onLines (head ++ body))

end Mdx.Convert
