import Mdx.Convert.Footnote

/-!
# From documents to element trees

A first walk gathers the definitions of links, images and footnotes; of several with one identifier
the first counts. A second walk converts the nodes in order, numbering footnotes as it meets their
references.
-/

namespace Mdx.Convert

open Markdown (Node Align Attribute)

/-! ## Definitions -/

/-- What references in a document may refer to. -/
structure Definitions where
  /-- Address and title by identifier. -/
  targets : Dict (String × Option String) := []
  /-- Content of footnotes by identifier. -/
  notes : Dict (List Node) := []

/-- Sets the value under a key that has none yet. -/
def insertNew {α : Type} (key : String) (value : α) (d : Dict α) : Dict α :=
  if d.has key then d else d.insert key value

namespace Definitions

/-- Adds what the node itself defines. -/
def add (defs : Definitions) : Node → Definitions
  | .definition id url title => { defs with targets := insertNew id (url, title) defs.targets }
  | .footnoteDefinition id children => { defs with notes := insertNew id children defs.notes }
  | _ => defs

mutual

/-- Adds the definitions of a subtree, parents first. -/
def collect (defs : Definitions) : Node → Definitions
  | .definition id url title => defs.add (.definition id url title)
  | .footnoteDefinition id cs => collectAll (defs.add (.footnoteDefinition id cs)) cs
  | .root cs | .paragraph cs | .heading _ cs | .blockquote cs | .list _ _ _ cs
  | .listItem _ _ cs | .table _ cs | .tableRow cs | .tableCell cs
  | .emphasis cs | .strong cs | .delete cs | .link _ _ cs | .linkReference _ _ _ cs
  | .jsxFlow _ _ cs | .jsxText _ _ cs => collectAll defs cs
  | _ => defs

/-- Adds the definitions of a row of subtrees. -/
def collectAll (defs : Definitions) : List Node → Definitions
  | [] => defs
  | node :: rest => collectAll (collect defs node) rest

end

end Definitions

/-! ## Nodes -/

/-- Writes a log line. -/
def note (line : Log) : StateM State Unit :=
  modify fun s => { s with log := s.log ++ [line] }

/-- The line for an expression that is left out. -/
def droppedExpression (value : String) : Log :=
  .debug ("Dropping MDX expression \x60\x7b" ++ value ++ "\x7d\x60")

/-- The line for a spread attribute, which is left out. -/
def droppedSpread (element value : String) : Log :=
  .debug ("Spread attribute \x60\x7b" ++ value ++ "\x7d\x60 on <" ++ element
    ++ "> is not supported")

/-- The props of a JSX element: of repeated names the last counts. -/
def jsxProps (attributes : List Attribute) : Props :=
  attributes.foldl (fun props a =>
    match a with
    | .property name value => props.insert name (attributeValue value)
    | .spread _ => props) []

/-- The lines for the attributes that are left out. -/
def jsxNotes (element : String) (attributes : List Attribute) : List Log :=
  attributes.filterMap fun a =>
    match a with
    | .property _ _ => none
    | .spread value => some (droppedSpread element value)

/-- A JSX element around converted content; one without a name is a fragment. -/
def jsx (name : Option String) (attributes : List Attribute) (content : List Tree) :
    StateM State Tree := do
  match name with
  | none => return .fragment content
  | some name =>
    modify fun s => { s with log := s.log ++ jsxNotes name attributes }
    return .element name (jsxProps attributes) content

/-- A list item that is spread. -/
def isSpreadItem : Node → Bool
  | .listItem spread _ _ => spread
  | _ => false

/-- A list item with a box. -/
def isTask : Node → Bool
  | .listItem _ checked _ => checked.isSome
  | _ => false

mutual

/-- Converts a node; most become one tree, some none, and a line break becomes two. -/
def node (targets : Dict (String × Option String)) : Node → StateM State (List Tree)
  | .root cs => row targets cs
  | .text value => return [.text value]
  | .paragraph cs => return [.plain "p" (← row targets cs)]
  | .heading depth cs => return [.plain ("h" ++ toString depth) (← row targets cs)]
  | .emphasis cs => return [.plain "em" (← row targets cs)]
  | .strong cs => return [.plain "strong" (← row targets cs)]
  | .delete cs => return [.plain "del" (← row targets cs)]
  | .inlineCode value => return [.plain "code" [.text value]]
  | .lineBreak => return [.plain "br" [], newline]
  | .thematicBreak => return [.plain "hr" []]
  | .blockquote cs => return [.plain "blockquote" (onLines (← row targets cs))]
  | .code value lang _ => return [codeBlock (lang.map ("language-" ++ ·)) value]
  | .math value => return [codeBlock (some "language-math math-display") value]
  | .inlineMath value =>
    return [.element "code" [("className", .string "language-math math-inline")] [.text value]]
  | .link url title cs => return [link url title (← row targets cs)]
  | .image url alt title => return [image url alt title]
  | .linkReference id label kind cs => do
    let content ← row targets cs
    match targets.get? id with
    | some (url, title) => return [link url title content]
    | none => return .text "[" :: (content ++ [.text ("]" ++ referenceSuffix kind label)])
  | .imageReference id label kind alt =>
    match targets.get? id with
    | some (url, title) => return [image url alt title]
    | none => return [.text ("![" ++ alt ++ "]" ++ referenceSuffix kind label)]
  | .list ordered start spread cs => do
    let loose := spread || cs.any isSpreadItem
    return [list ordered start (cs.any isTask) (← items targets loose cs)]
  | .listItem spread checked cs => return [listItem spread checked (← row targets cs)]
  | .table align cs => return [table (← rows targets align "th" cs)]
  | .footnoteReference id => return [← footnoteReference id]
  | .html value => do
    note (.debug ("Raw HTML kept as literal text: " ++ value))
    return [.text value]
  | .jsxFlow name attributes cs => do return [← jsx name attributes (← row targets cs)]
  | .jsxText name attributes cs => do return [← jsx name attributes (← row targets cs)]
  | .esm value => do
    modify fun s => { s with esm := s.esm ++ [value] }
    return []
  | .flowExpression value => do
    note (droppedExpression value)
    return []
  | .textExpression value => do
    note (droppedExpression value)
    return []
  | .tableRow _ => do
    note (.warn "Table row or cell outside of a table; skipped")
    return []
  | .tableCell _ => do
    note (.warn "Table row or cell outside of a table; skipped")
    return []
  | .definition _ _ _ => return []
  | .footnoteDefinition _ _ => return []
  | .yaml _ => return []
  | .toml _ => return []

/-- Converts nodes in order. -/
def row (targets : Dict (String × Option String)) : List Node → StateM State (List Tree)
  | [] => return []
  | n :: rest => do
    let here ← node targets n
    return here ++ (← row targets rest)

/-- Converts the children of a list; an item takes the list's looseness. -/
def items (targets : Dict (String × Option String)) (loose : Bool) :
    List Node → StateM State (List Tree)
  | [] => return []
  | .listItem _ checked cs :: rest => do
    let here := listItem loose checked (← row targets cs)
    return here :: (← items targets loose rest)
  | n :: rest => do
    let here ← node targets n
    return here ++ (← items targets loose rest)

/-- Converts the rows of a table, with cells of the given name in the first. -/
def rows (targets : Dict (String × Option String)) (align : List Align) (name : String) :
    List Node → StateM State (List Tree)
  | [] => return []
  | .tableRow cs :: rest => do
    let here := Tree.plain "tr" (onLines (← cells targets align name cs))
    return here :: (← rows targets align "td" rest)
  | _ :: rest => rows targets align name rest

/-- Converts the cells of a row; `align` begins with the alignment of the first of them. -/
def cells (targets : Dict (String × Option String)) (align : List Align) (name : String) :
    List Node → StateM State (List Tree)
  | [] => return []
  | .tableCell cs :: rest => do
    let here := cell name align.head? (← row targets cs)
    return here :: (← cells targets align.tail name rest)
  | _ :: rest => cells targets align.tail name rest

end

/-! ## Documents -/

/-- Converts the notes of an order, numbered from `position`; a note without a definition is left
out. -/
def notes (defs : Definitions) (position : Nat) : List String → StateM State (List Tree)
  | [] => return []
  | id :: rest =>
    match defs.notes.get? id with
    | some content => do
      let here := footnoteItem id position (← row defs.targets content)
      return here :: (← notes defs (position + 1) rest)
    | none => do
      note (.warn ("Footnote \x60" ++ id ++ "\x60 is referenced but never defined"))
      notes defs (position + 1) rest

/-- The section for the footnotes referenced so far, if there are any. References inside the notes
are numbered anew. -/
def endSection (defs : Definitions) : StateM State (Option Tree) := do
  let order := (← get).order
  if order.isEmpty then return none
  modify fun s => { s with order := [] }
  return some (footnoteSection (← notes defs 1 order))

/-- Converts a document with its definitions, the footnote section last. -/
def body (defs : Definitions) (document : Node) : StateM State (List Tree) := do
  let blocks ←
    match document with
    | .root cs => joinLines <$> row defs.targets cs
    | other => node defs.targets other
  match ← endSection defs with
  | some last => return blocks ++ (if blocks.isEmpty then [last] else [newline, last])
  | none => return blocks

end Mdx.Convert

namespace Mdx

/-- A converted document. -/
structure Converted where
  root : Element
  /-- The host language's `import` and `export` blocks, in document order. -/
  esm : List String
  log : List Log

/-- The element tree of a document: a `div` around its blocks. -/
def convert (document : Markdown.Node) : Converted :=
  let defs := Convert.Definitions.collect {} document
  let (children, state) := (Convert.body defs document).run {}
  { root := { name := "div", children := children }, esm := state.esm, log := state.log }

end Mdx
