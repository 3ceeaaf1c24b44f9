import Mdx.Markdown.Tag

/-!
# Blocks

The blocks of a document. Their text is a parameter: at first it is a row of cells, later the
pieces that were found in it. Tags stand as they are found and are matched at the end.
-/

namespace Mdx.Markdown

/-- Text of a block that is still to be read. -/
structure Chunk where
  cells : List Cell
  stop : Point
  /-- Spaces at its start do not count. -/
  trims : Bool := true
  /-- It stands in a table, where code cannot hold a bar that is not escaped. -/
  inTable : Bool := false

/-- A block with text of type `τ`. -/
inductive Block (τ : Type) where
  | paragraph (span : Span) (text : τ)
  | heading (depth : Nat) (underlined : Bool) (span : Span) (text : τ)
  | leaf (node : Node)
  | tag (tag : Tag)
  | quote (span : Span) (children : List (Block τ))
  | list (ordered : Bool) (start : Option Nat) (spread : Bool) (span : Span)
      (items : List (Block τ))
  | item (spread : Bool) (checked : Option Bool) (span : Span) (children : List (Block τ))
  | footnote (identifier : String) (span : Span) (children : List (Block τ))
  | table (align : List Align) (span : Span) (rows : List (Span × List (Span × τ)))

namespace Block

variable {τ υ : Type}

mutual

/-- Reads the text of a block in the order of the document. -/
def mapM {ε : Type} (f : τ → Except ε υ) : Block τ → Except ε (Block υ)
  | .paragraph span text => do return .paragraph span (← f text)
  | .heading depth underlined span text => do return .heading depth underlined span (← f text)
  | .leaf node => return .leaf node
  | .tag t => return .tag t
  | .quote span children => do return .quote span (← mapList f children)
  | .list ordered start spread span items => do
    return .list ordered start spread span (← mapList f items)
  | .item spread checked span children => do
    return .item spread checked span (← mapList f children)
  | .footnote id span children => do return .footnote id span (← mapList f children)
  | .table align span rows => do
    let rows ← rows.mapM fun (place, cells) => do
      return (place, ← cells.mapM fun (span, text) => do return (span, ← f text))
    return .table align span rows

/-- Reads the text of blocks in order. -/
def mapList {ε : Type} (f : τ → Except ε υ) : List (Block τ) → Except ε (List (Block υ))
  | [] => return []
  | b :: rest => do
    let b ← mapM f b
    return b :: (← mapList f rest)

end

mutual

/-- The identifiers of the definitions in a block. -/
def defined : Block τ → List String
  | .leaf (.definition id _ _) => [id]
  | .quote _ children => definedList children
  | .list _ _ _ _ items => definedList items
  | .item _ _ _ children => definedList children
  | .footnote _ _ children => definedList children
  | _ => []

/-- The identifiers of the definitions in blocks. -/
def definedList : List (Block τ) → List String
  | [] => []
  | b :: rest => defined b ++ definedList rest

end

mutual

/-- The identifiers of the footnotes in a block. -/
def noted : Block τ → List String
  | .quote _ children => notedList children
  | .list _ _ _ _ items => notedList items
  | .item _ _ _ children => notedList children
  | .footnote id _ children => id :: notedList children
  | _ => []

/-- The identifiers of the footnotes in blocks. -/
def notedList : List (Block τ) → List String
  | [] => []
  | b :: rest => noted b ++ notedList rest

end

end Block

end Mdx.Markdown
