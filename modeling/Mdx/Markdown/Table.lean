import Mdx.Markdown.Block

/-!
# Rows of tables

Splits a line into the cells of a table row, and reads the row of dashes that says how columns are
aligned.
-/

namespace Mdx.Markdown

/-- A part of a row: the bar before it, if there is one, and its cells. -/
structure Segment where
  bar : Option Cell
  cells : List Cell

/-- Splits a row at its bars. A bar after a backslash is text; `kept` says that a backslash stands
before the first cell. -/
def segments (bar : Option Cell) (kept : Bool) : List Cell → List Cell → List Segment
  | current, [] => [⟨bar, current.reverse⟩]
  | current, c :: rest =>
    if kept then segments bar false (c :: current) rest
    else if c.char = '|' then ⟨bar, current.reverse⟩ :: segments (some c) false [] rest
    else
      let escapes := c.char = '\\' && (Cell.head? rest).any fun x => x = '\\' || x = '|'
      segments bar escapes (c :: current) rest

/-- The parts of a row that are cells of the table: blank parts before the first bar and after the
last one are not, except that there is always one cell. -/
def rowSegments (cells : List Cell) : List Segment :=
  let all := segments none false [] cells
  let body := match all with
    | first :: second :: rest => if Cell.isBlank first.cells then second :: rest else all
    | _ => all
  match body.getLast? with
  | some last => if body.length > 1 && Cell.isBlank last.cells then body.dropLast else body
  | none => []

/-- The places where parts begin; the row itself begins at `start`. -/
def Segment.start (start : Point) (s : Segment) : Point :=
  (s.bar.map (·.point)).getD start

/-- The text of each part with its place. A part ends where the next one begins. -/
def rowCells (start stop : Point) : List Segment → List (Span × Chunk)
  | [] => []
  | s :: rest =>
    let finish := match rest with
      | t :: _ => t.start start
      | [] => stop
    let cells := Cell.trim s.cells
    (⟨s.start start, finish⟩, { cells, stop := endPoint finish cells, inTable := true }) ::
      rowCells start stop rest

/-- The cells of a line as a row of a table. -/
def tableRow (line : Line) : Span × List (Span × Chunk) :=
  let cells := Cell.trimLeft line.cells
  let start := Cell.pointOr cells line.stop
  (⟨start, line.stop⟩, rowCells start line.stop (rowSegments cells))

/-- Alignment from the marks at the ends of dashes. -/
def alignOf (left right : Bool) : Align :=
  if left then if right then .center else .left else if right then .right else .unset

/-- The alignment that a part of the row of dashes gives. -/
def align? (cells : List Cell) : Option Align :=
  let chars := (Cell.trim cells).map (·.char)
  let left := chars.head? = some ':'
  let body := if left then chars.drop 1 else chars
  let dashes := body.takeWhile (· = '-')
  let rest := body.drop dashes.length
  if dashes.isEmpty then none
  else if rest = [] then some (alignOf left false)
  else if rest = [':'] then some (alignOf left true)
  else none

/-- The alignments that a row of dashes gives. It needs a bar or a colon to be one. -/
def alignments? (cells : List Cell) : Option (List Align) :=
  let row := Cell.trim cells
  if row.all fun c => c.char ≠ '|' && c.char ≠ ':' then none
  else
    let parts := segments none false [] row
    let parts := match parts with
      | first :: second :: rest => if first.cells.isEmpty then second :: rest else parts
      | _ => parts
    let parts := match parts.getLast? with
      | some last => if parts.length > 1 && last.cells.isEmpty then parts.dropLast else parts
      | none => parts
    parts.mapM fun s => align? s.cells

/-- The alignments of a table whose first row and row of dashes are given. -/
def tableHead? (head dashes : List Cell) : Option (List Align) := do
  let row := Cell.trim head
  if row.isEmpty || row.map (·.char) = ['|'] then none
  else
    let aligns ← alignments? dashes
    if aligns.length = (rowSegments row).length then some aligns else none

end Mdx.Markdown
