import Mdx.Markdown.Nest
import Mdx.Markdown.Outline
import Mdx.Markdown.Phrase

/-!
# Reading documents

A document is read in three passes: its lines into blocks, the text of the blocks into pieces, and
both into a tree. Of several faults the first one of the first pass that finds any is reported.
-/

namespace Mdx.Markdown

/-- The line is a mark of a metadata block: three of one character. -/
def isFence (mark : Char) (line : Line) : Bool :=
  (Cell.trimRight line.cells).map (·.char) = [mark, mark, mark]

/-- The lines up to a mark, and those after it. -/
def upToFence (mark : Char) : List Line → Option (List Line × List Line)
  | [] => none
  | l :: rest =>
    if isFence mark l then some ([], rest)
    else (upToFence mark rest).map fun (inner, after) => (l :: inner, after)

/-- The metadata block that a document begins with, and the lines after it. -/
def metadata? (lines : List Line) : Option (Node × List Line) :=
  match lines with
  | first :: rest =>
    if isFence '-' first then
      (upToFence '-' rest).map fun (inner, after) => (.yaml (Cell.text (Line.join inner)), after)
    else if isFence '+' first then
      (upToFence '+' rest).map fun (inner, after) => (.toml (Cell.text (Line.join inner)), after)
    else none
  | [] => none

/-- The cells of a text. A byte order mark at its start is skipped. -/
def cellsOf (source : String) : List Cell :=
  match source.toList with
  | c :: rest => if c.toNat = 0xfeff then Cell.row 1 4 rest else Cell.row 1 1 (c :: rest)
  | [] => []

/-- The document of a text. -/
def parse (options : Options) (source : String) : Except Fault Node := do
  let cells := cellsOf source
  let eof := endPoint ⟨1, 1⟩ cells
  let lines := Line.split cells []
  let (front, body) := match if options.frontmatter then metadata? lines else none with
    | some (node, rest) => ([Block.leaf node], rest)
    | none => ([], lines)
  let blocks := front ++ (← blocksOf options eof body)
  let scope : Scope :=
    { options, definitions := Block.definedList blocks, footnotes := Block.notedList blocks }
  documentOf eof (← Block.mapList (pieces scope) blocks)

end Mdx.Markdown
