/-!
# Constructs and faults

Which constructs a document may use, and what is wrong with one that cannot be read.
-/

namespace Mdx.Markdown

/-- The constructs beyond plain Markdown. -/
structure Options where
  /-- JSX, `import` and `export` blocks and braced expressions, in place of raw HTML and indented
  code. -/
  mdx : Bool
  /-- Tables, strikethrough, task lists, footnotes and literal addresses. -/
  gfm : Bool := true
  /-- A metadata block at the start. -/
  frontmatter : Bool := true
  /-- Formulas between dollar signs. -/
  math : Bool := false
  deriving DecidableEq, Repr

namespace Options

/-- Plain Markdown documents. -/
def plain : Options := { mdx := false }

/-- MDX documents. -/
def jsx : Options := { mdx := true }

end Options

/-- A place in a text. Lines and columns count from one; columns count bytes. -/
structure Point where
  line : Nat
  column : Nat
  deriving DecidableEq, Repr

/-- The point as text. -/
def Point.text (p : Point) : String :=
  toString p.line ++ ":" ++ toString p.column

/-- What is wrong with a document, and where. -/
structure Fault where
  reason : String
  point : Point
  deriving DecidableEq, Repr

end Mdx.Markdown
