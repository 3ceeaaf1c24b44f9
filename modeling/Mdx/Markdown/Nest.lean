import Mdx.Markdown.Block
import Mdx.Markdown.Piece

/-!
# Nesting

Makes the tree of a document from its blocks and pieces. A tag that opens an element and the tag
that closes it must stand in the same block or piece; what stands between them is in the element.
-/

namespace Mdx.Markdown

/-- The elements that are open, innermost first, in all of the document. -/
abbrev Nesting := StateT (List Tag) (Except Fault)

/-- A construct that tags have to be matched in. -/
structure Level where
  name : String
  span : Span
  /-- The end of the document, which has no name in messages. -/
  isRoot : Bool := false

/-- An element that is open in a construct, and the nodes before it, last first. -/
structure OpenElement where
  tag : Tag
  before : List Node

/-- Adds a node after others, which come last first. Text that follows text is one text. -/
def addNode (nodes : List Node) : Node → List Node
  | .text s =>
    match nodes with
    | .text t :: rest => .text (t ++ s) :: rest
    | _ => .text s :: nodes
  | n => n :: nodes

/-- Checks a closing tag against the element that is open. -/
def checkClosing (t : Tag) (slash : Point) : Nesting Unit := do
  match ← get with
  | [] => throw ⟨"Unexpected closing slash \x60/\x60 in tag, expected an open tag first", slash⟩
  | innermost :: outer =>
    match t.attributeAt, t.selfClosing with
    | some p, _ => throw ⟨"Unexpected attribute in closing tag, expected the end of the tag", p⟩
    | none, some p =>
      throw ⟨"Unexpected self-closing slash \x60/\x60 in closing tag, expected the end of " ++
        "the tag", p⟩
    | none, none =>
      if innermost.name = t.name then set outer
      else
        throw ⟨"Unexpected closing tag \x60" ++ t.brief ++
          "\x60, expected corresponding closing tag for \x60" ++ innermost.brief ++ "\x60 (" ++
          innermost.span.start.text ++ ")", t.span.start⟩

/-- A tag: it opens an element, closes one, or is an element of its own. -/
def addTag (level : Level) (make : Tag → List Node → Node) (t : Tag) (nodes : List Node)
    (opened : List OpenElement) : Nesting (List Node × List OpenElement) := do
  match t.closing with
  | some slash =>
    checkClosing t slash
    match opened with
    | e :: outer => return (make e.tag nodes.reverse :: e.before, outer)
    | [] =>
      throw ⟨"Expected the closing tag \x60" ++ t.brief ++ "\x60 either before the start of \x60" ++
        level.name ++ "\x60 (" ++ level.span.start.text ++
        "), or another opening tag after that start", t.span.start⟩
  | none =>
    if t.selfClosing.isSome then return (make t [] :: nodes, opened)
    else
      modify (t :: ·)
      return ([], ⟨t, nodes⟩ :: opened)

/-- The nodes of a construct that ends. No element may be open in it. -/
def endLevel (level : Level) (nodes : List Node) : List OpenElement → Nesting (List Node)
  | [] => return nodes.reverse
  | e :: _ =>
    throw ⟨"Expected a closing tag for \x60" ++ e.tag.brief ++ "\x60 (" ++
      e.tag.span.start.text ++ ")" ++
      (if level.isRoot then "" else " before the end of \x60" ++ level.name ++ "\x60"),
      level.span.stop⟩

/-- The nodes of a label. Elements that are open in it end with it. -/
def endLabel (make : Tag → List Node → Node) (nodes : List Node) : List OpenElement → List Node
  | [] => nodes.reverse
  | e :: outer => endLabel make (make e.tag nodes.reverse :: e.before) outer

/-! ## Text -/

/-- An element among text. -/
def textElement (t : Tag) (children : List Node) : Node :=
  .jsxText t.name t.attributes children

mutual

/-- The text of a node, as it describes an image. -/
def plainText : Node → String
  | .text s | .inlineCode s | .inlineMath s | .html s | .textExpression s | .code s _ _ | .math s
  | .yaml s | .toml s | .esm s | .flowExpression s => s
  | .root cs | .paragraph cs | .heading _ cs | .blockquote cs | .list _ _ _ cs
  | .listItem _ _ cs | .footnoteDefinition _ cs | .table _ cs | .tableRow cs | .tableCell cs
  | .emphasis cs | .strong cs | .delete cs | .link _ _ cs | .linkReference _ _ _ cs
  | .jsxFlow _ _ cs | .jsxText _ _ cs => plainRow cs
  | _ => ""

/-- The text of nodes. -/
def plainRow : List Node → String
  | [] => ""
  | n :: rest => plainText n ++ plainRow rest

end

/-- The name of a construct that encloses text. -/
def Group.name : Group → String
  | .emphasis => "Emphasis"
  | .strong => "Strong"
  | .delete => "GfmStrikethrough"
  | .link _ => "Link"
  | .image _ => "Image"
  | .linkReference .. => "Link"
  | .imageReference .. => "Image"

/-- The text of a group is a label. -/
def Group.isLabel : Group → Bool
  | .emphasis | .strong | .delete => false
  | _ => true

/-- The node of a group. -/
def Group.node (kind : Group) (children : List Node) : Node :=
  match kind with
  | .emphasis => .emphasis children
  | .strong => .strong children
  | .delete => .delete children
  | .link r => .link r.url r.title children
  | .image r => .image r.url (plainRow children) r.title
  | .linkReference id label kind => .linkReference id (some label) kind children
  | .imageReference id label kind => .imageReference id (some label) kind (plainRow children)

mutual

/-- The node of a piece that is no tag. -/
def Piece.node : Piece → Nesting (Option Node)
  | .data cells => return some (.text (Cell.text cells))
  | .newline cell => return some (.text (Cell.text [cell]))
  | .verbatim chars => return some (.text (String.ofList chars))
  | .lineBreak => return some .lineBreak
  | .leaf node => return some node
  | .tag _ => return none
  | .group kind span children => do
    let level : Level := ⟨kind.name, span, false⟩
    let (nodes, opened) ← pieceNodes level false [] [] children
    if kind.isLabel then return some (kind.node (endLabel textElement nodes opened))
    else return some (kind.node (← endLevel level nodes opened))

/-- The nodes of pieces, last first, with the elements that are open after them. A line end after a
line break is part of it, which `broken` tells. -/
def pieceNodes (level : Level) (broken : Bool) (nodes : List Node) (opened : List OpenElement) :
    List Piece → Nesting (List Node × List OpenElement)
  | [] => return (nodes, opened)
  | .tag t :: rest => do
    let (nodes, opened) ← addTag level textElement t nodes opened
    pieceNodes level false nodes opened rest
  | .newline cell :: rest =>
    if broken then pieceNodes level false nodes opened rest
    else pieceNodes level false (addNode nodes (.text (Cell.text [cell]))) opened rest
  | .lineBreak :: rest => pieceNodes level true (addNode nodes .lineBreak) opened rest
  | p :: rest => do
    match ← p.node with
    | some n => pieceNodes level false (addNode nodes n) opened rest
    | none => pieceNodes level false nodes opened rest

end

/-- The nodes of the text of a block. -/
def textNodes (name : String) (span : Span) (text : List Piece) : Nesting (List Node) := do
  let level : Level := ⟨name, span, false⟩
  let (nodes, opened) ← pieceNodes level false [] [] text
  endLevel level nodes opened

/-! ## Blocks -/

/-- An element among blocks. -/
def flowElement (t : Tag) (children : List Node) : Node :=
  .jsxFlow t.name t.attributes children

/-- The nodes of the cells of a row. -/
def rowNodes : List (Span × List Piece) → Nesting (List Node)
  | [] => return []
  | (span, text) :: rest => do
    let cell := Node.tableCell (← textNodes "GfmTableCell" span text)
    return cell :: (← rowNodes rest)

/-- The nodes of the rows of a table. -/
def tableNodes : List (Span × List (Span × List Piece)) → Nesting (List Node)
  | [] => return []
  | (_, cells) :: rest => do
    let row := Node.tableRow (← rowNodes cells)
    return row :: (← tableNodes rest)

mutual

/-- The node of a block that is no tag. -/
def Block.node : Block (List Piece) → Nesting (Option Node)
  | .paragraph span text => return some (.paragraph (← textNodes "Paragraph" span text))
  | .heading depth underlined span text =>
    return some (.heading depth
      (← textNodes (if underlined then "HeadingSetext" else "HeadingAtx") span text))
  | .leaf node => return some node
  | .tag _ => return none
  | .quote span children => do
    let level : Level := ⟨"BlockQuote", span, false⟩
    let (nodes, opened) ← blockNodes level [] [] children
    return some (.blockquote (← endLevel level nodes opened))
  | .list ordered start spread span items => do
    let level : Level := ⟨if ordered then "ListOrdered" else "ListUnordered", span, false⟩
    let (nodes, opened) ← blockNodes level [] [] items
    return some (.list ordered start spread (← endLevel level nodes opened))
  | .item spread checked span children => do
    let level : Level := ⟨"ListItem", span, false⟩
    let (nodes, opened) ← blockNodes level [] [] children
    return some (.listItem spread checked (← endLevel level nodes opened))
  | .footnote id span children => do
    let level : Level := ⟨"GfmFootnoteDefinition", span, false⟩
    let (nodes, opened) ← blockNodes level [] [] children
    return some (.footnoteDefinition id (← endLevel level nodes opened))
  | .table align _ rows => return some (.table align (← tableNodes rows))

/-- The nodes of blocks, last first, with the elements that are open after them. -/
def blockNodes (level : Level) (nodes : List Node) (opened : List OpenElement) :
    List (Block (List Piece)) → Nesting (List Node × List OpenElement)
  | [] => return (nodes, opened)
  | .tag t :: rest => do
    let (nodes, opened) ← addTag level flowElement t nodes opened
    blockNodes level nodes opened rest
  | b :: rest => do
    match ← b.node with
    | some n => blockNodes level (n :: nodes) opened rest
    | none => blockNodes level nodes opened rest

end

/-- The tree of a document with the given blocks, which ends at a place. -/
def documentOf (eof : Point) (blocks : List (Block (List Piece))) : Except Fault Node := do
  let level : Level := { name := "", span := ⟨⟨1, 1⟩, eof⟩, isRoot := true }
  let build : Nesting (List Node) := do
    let (nodes, opened) ← blockNodes level [] [] blocks
    endLevel level nodes opened
  return .root (← build.run' [])

end Mdx.Markdown
