/-!
# Document trees

The tree of a Markdown or MDX document: blocks, phrasing, JSX, and the statements and expressions
of the host language, which are kept as text.
-/

namespace Mdx.Markdown

/-- Alignment of a table column. -/
inductive Align where
  | left
  | right
  | center
  | unset
  deriving DecidableEq, Repr

/-- How a reference names its definition. -/
inductive ReferenceKind where
  /-- `[text]` -/
  | shortcut
  /-- `[text][]` -/
  | collapsed
  /-- `[text][label]` -/
  | full
  deriving DecidableEq, Repr

/-- The value written after an attribute's name. -/
inductive AttributeValue where
  | literal (text : String)
  | expression (source : String)
  deriving DecidableEq, Repr

/-- An attribute of a JSX tag. -/
inductive Attribute where
  | property (name : String) (value : Option AttributeValue)
  | spread (source : String)
  deriving DecidableEq, Repr

/-- A node of a document. -/
inductive Node where
  | root (children : List Node)
  | paragraph (children : List Node)
  | heading (depth : Nat) (children : List Node)
  | thematicBreak
  | blockquote (children : List Node)
  | list (ordered : Bool) (start : Option Nat) (spread : Bool) (children : List Node)
  | listItem (spread : Bool) (checked : Option Bool) (children : List Node)
  | code (value : String) (lang : Option String) (info : Option String)
  | math (value : String)
  | html (value : String)
  | yaml (value : String)
  | toml (value : String)
  | definition (identifier : String) (url : String) (title : Option String)
  | footnoteDefinition (identifier : String) (children : List Node)
  | table (align : List Align) (children : List Node)
  | tableRow (children : List Node)
  | tableCell (children : List Node)
  | text (value : String)
  | emphasis (children : List Node)
  | strong (children : List Node)
  | delete (children : List Node)
  | inlineCode (value : String)
  | inlineMath (value : String)
  | lineBreak
  | link (url : String) (title : Option String) (children : List Node)
  | image (url : String) (alt : String) (title : Option String)
  | linkReference (identifier : String) (label : Option String) (kind : ReferenceKind)
      (children : List Node)
  | imageReference (identifier : String) (label : Option String) (kind : ReferenceKind)
      (alt : String)
  | footnoteReference (identifier : String)
  | jsxFlow (name : Option String) (attributes : List Attribute) (children : List Node)
  | jsxText (name : Option String) (attributes : List Attribute) (children : List Node)
  | esm (value : String)
  | flowExpression (value : String)
  | textExpression (value : String)

namespace Node

instance : Inhabited Node := ⟨.root []⟩

/-- The children of a node; empty for a leaf. -/
def children : Node → List Node
  | .root cs | .paragraph cs | .heading _ cs | .blockquote cs | .list _ _ _ cs
  | .listItem _ _ cs | .footnoteDefinition _ cs | .table _ cs | .tableRow cs | .tableCell cs
  | .emphasis cs | .strong cs | .delete cs | .link _ _ cs | .linkReference _ _ _ cs
  | .jsxFlow _ _ cs | .jsxText _ _ cs => cs
  | _ => []

/-- The node with other children; a leaf stays as it is. -/
def withChildren (cs : List Node) : Node → Node
  | .root _ => .root cs
  | .paragraph _ => .paragraph cs
  | .heading depth _ => .heading depth cs
  | .blockquote _ => .blockquote cs
  | .list ordered start spread _ => .list ordered start spread cs
  | .listItem spread checked _ => .listItem spread checked cs
  | .footnoteDefinition id _ => .footnoteDefinition id cs
  | .table align _ => .table align cs
  | .tableRow _ => .tableRow cs
  | .tableCell _ => .tableCell cs
  | .emphasis _ => .emphasis cs
  | .strong _ => .strong cs
  | .delete _ => .delete cs
  | .link url title _ => .link url title cs
  | .linkReference id label kind _ => .linkReference id label kind cs
  | .jsxFlow name attributes _ => .jsxFlow name attributes cs
  | .jsxText name attributes _ => .jsxText name attributes cs
  | node => node

end Node

end Mdx.Markdown
