import Mdx.Markdown.Leaf

/-!
# Outlines

Reads a document line by line into its blocks. The state is the path of containers that are open,
the innermost first, and the leaf block that the last line left open. A line goes on with the
containers whose marks it carries, opens further ones, and what is left of it goes to the leaf.
-/

namespace Mdx.Markdown

/-- A block in its container. -/
structure Child where
  block : Block Chunk
  /-- A blank line stands before it. -/
  gap : Bool
  /-- The mark of a list item. -/
  marker : Option Marker := none

/-- An open container. -/
structure Frame where
  container : Container
  start : Point
  /-- A blank line stands before it. -/
  gapBefore : Bool
  /-- The blocks in it, last first. -/
  children : List Child := []
  /-- A blank line stands after the last block in it. -/
  gap : Bool := false

/-- The leaf block that is open. Lines are kept last first. -/
inductive Leaf where
  | none
  | paragraph (lines : List Line)
  | indented (lines : List Line)
  | fence (fence : Fence) (lines : List Line)
  | markup (kind : Markup) (lines : List Line)
  | statements (lines : List Line)
  /-- The row of dashes follows. -/
  | tableHead (align : List Align) (head : Span × List (Span × Chunk))
  | table (align : List Align) (rows : List (Span × List (Span × Chunk)))
  /-- Tags and expressions that reach over so many more lines. -/
  | tags (blocks : List (Block Chunk)) (left : Nat)

/-- The state of reading. -/
structure Outline where
  top : Frame
  outer : List Frame := []
  leaf : Leaf := .none
  /-- A blank line stands before the leaf. -/
  leafGap : Bool := false
  /-- The end of the last line. -/
  stop : Point := ⟨1, 1⟩

/-! ## Lists -/

/-- The part of the document that a block takes. -/
def spanOf (p : Point) : Block Chunk → Span
  | .paragraph s _ | .heading _ _ s _ | .quote s _ | .list _ _ _ s _ | .item _ _ s _
  | .footnote _ s _ | .table _ s _ => s
  | .tag t => t.span
  | .leaf _ => ⟨p, p⟩

/-- Items of a list in order, as one block. -/
def listOf (marker : Marker) (items : List Child) : Block Chunk :=
  let spread := (items.drop 1).any (·.gap)
  let place : Point := ⟨1, 1⟩
  let start := (items.head?.map fun c => (spanOf place c.block).start).getD place
  let stop := (items.getLast?.map fun c => (spanOf place c.block).stop).getD place
  .list marker.value.isSome marker.value spread ⟨start, stop⟩ (items.map (·.block))

/-- Joins items that follow one another and have fitting marks into lists. -/
def grouped : List Child → List Child
  | [] => []
  | c :: rest =>
    match c.marker, grouped rest with
    | some m, list :: more =>
      match list.marker, list.block with
      | some n, .list _ _ spread span items =>
        if m.fits n then
          let start := (spanOf span.start c.block).start
          { block := .list m.value.isSome m.value (spread || list.gap) ⟨start, span.stop⟩
              (c.block :: items)
            gap := c.gap, marker := some m } :: more
        else { block := listOf m [c], gap := c.gap, marker := some m } :: list :: more
      | _, _ => { block := listOf m [c], gap := c.gap, marker := some m } :: list :: more
    | some m, [] => [{ block := listOf m [c], gap := c.gap, marker := some m }]
    | none, more => c :: more

/-- A box at the start of a task: whether it is checked, and the text after it and the one space,
tab or line end that follows it. -/
def taskBox? (text : Chunk) : Option (Bool × Chunk) :=
  match text.cells with
  | a :: b :: c :: d :: rest =>
    let checked := b.char = 'x' || b.char = 'X'
    let follows := d.isNewline || (d.isSpace && !Cell.isBlank rest)
    if a.char = '[' && c.char = ']' && follows && (checked || b.isSpace || b.isNewline) then
      some (checked, { text with cells := rest.dropWhile (·.spelling.isEmpty), trims := false })
    else none
  | _ => none

/-- Takes the box from the first paragraph of an item. Only definitions may stand before it. -/
def takeTask : List (Block Chunk) → Option Bool × List (Block Chunk)
  | .leaf (.definition id url title) :: rest =>
    let (checked, rest) := takeTask rest
    (checked, .leaf (.definition id url title) :: rest)
  | .paragraph span text :: rest =>
    match taskBox? text with
    | some (checked, text) => (some checked, .paragraph span text :: rest)
    | none => (none, .paragraph span text :: rest)
  | blocks => (none, blocks)

/-- The blocks of a container in order, with lists formed. -/
def Frame.blocks (f : Frame) : List Child :=
  grouped f.children.reverse

/-- The block that a container becomes when it ends at a place. -/
def Frame.close (f : Frame) (o : Options) (stop : Point) : Child :=
  let children := f.blocks
  let blocks := children.map (·.block)
  let span : Span := ⟨f.start, stop⟩
  match f.container with
  | .item marker _ _ =>
    let spread := (children.drop 1).any (·.gap)
    let (checked, blocks) := if o.gfm then takeTask blocks else (none, blocks)
    ⟨.item spread checked span blocks, f.gapBefore, some marker⟩
  | .footnote id => ⟨.footnote id span blocks, f.gapBefore, none⟩
  | _ => ⟨.quote span blocks, f.gapBefore, none⟩

/-- The leaf takes every line as it is. -/
def Leaf.isConcrete : Leaf → Bool
  | .fence .. => true
  | .markup .. => true
  | .statements .. => true
  | _ => false

/-- The leaf is a paragraph. -/
def Leaf.isParagraph : Leaf → Bool
  | .paragraph _ => true
  | _ => false

namespace Outline

/-! ## Closing -/

/-- Adds a block to the innermost container. -/
def add (s : Outline) (block : Block Chunk) (gap : Bool) : Outline :=
  { s with top := { s.top with children := ⟨block, gap, none⟩ :: s.top.children } }

/-- Adds blocks, of which the first follows a blank line if `gap` says so. -/
def addAll (s : Outline) : List (Block Chunk) → Bool → Outline
  | [], _ => s
  | b :: rest, gap => (s.add b gap).addAll rest false

/-- The text of a paragraph in lines, without the definitions that it begins with. -/
def paragraphText (o : Options) (lines : List Line) : List Node × List Cell :=
  let cells := Line.join lines.reverse
  definitions o.mdx (cells.length + 1) cells

/-- The end of the last of some lines, which come last first. -/
def linesStop (lines : List Line) (p : Point) : Point :=
  (lines.head?.map (·.stop)).getD p

/-- The blocks that the lines of a paragraph form. -/
def paragraphBlocks (o : Options) (lines : List Line) (p : Point) : List (Block Chunk) :=
  let (defs, cells) := paragraphText o lines
  let stop := linesStop lines p
  let text := if cells.isEmpty then []
    else [Block.paragraph ⟨Cell.pointOr cells stop, stop⟩ { cells, stop }]
  defs.map .leaf ++ text

/-- The table with the given rows, which come last first. -/
def tableBlock (align : List Align) (rows : List (Span × List (Span × Chunk))) (p : Point) :
    Block Chunk :=
  let stop := (rows.head?.map (·.1.stop)).getD p
  let start := (rows.getLast?.map (·.1.start)).getD p
  .table align ⟨start, stop⟩ rows.reverse

/-- The blocks of the leaf that is open. `closed` says that the last line of a fence is complete. -/
def leafBlocks (o : Options) (s : Outline) (closed : Bool) : List (Block Chunk) :=
  match s.leaf with
  | .none => []
  | .paragraph lines => paragraphBlocks o lines s.stop
  | .indented lines => [.leaf (indentedCode lines.reverse)]
  | .fence f lines => [.leaf (f.block lines.reverse closed)]
  | .markup _ lines => [.leaf (.html (Cell.text (Line.join lines.reverse)))]
  | .statements lines => [.leaf (.esm (Cell.text (Line.join lines.reverse)))]
  | .tableHead align head => [tableBlock align [head] s.stop]
  | .table align rows => [tableBlock align rows s.stop]
  | .tags blocks _ => blocks

/-- Closes the leaf. -/
def closeLeaf (o : Options) (s : Outline) (closed : Bool) : Outline :=
  { s.addAll (s.leafBlocks o closed) s.leafGap with leaf := .none, leafGap := false }

/-- Closes the innermost containers that are open, as many as there are in `frames`. A blank line
at the end of a block quote belongs to it; one at the end of another container does not. -/
def closeFrames (o : Options) : List Frame → Outline → Outline
  | [], s => s
  | parent :: outer, s =>
    let gap := parent.gap || (s.top.gap && s.top.container ≠ .quote)
    let child := s.top.close o s.stop
    closeFrames o outer
      { s with top := { parent with children := child :: parent.children, gap }, outer := outer }

/-- Closes the leaf and the `n` innermost containers. -/
def close (o : Options) (s : Outline) (n : Nat) : Outline :=
  let s := s.closeLeaf o false
  { closeFrames o (s.outer.take n) s with outer := s.outer.drop n }

/-- Opens containers, outermost first. -/
def openFrames : List (Container × Point) → Outline → Outline
  | [], s => s
  | (container, start) :: rest, s =>
    let frame : Frame := { container, start, gapBefore := s.top.gap }
    openFrames rest { s with top := frame, outer := { s.top with gap := false } :: s.outer }

/-- Starts a leaf. -/
def start (s : Outline) (leaf : Leaf) : Outline :=
  { s with leaf, leafGap := s.top.gap, top := { s.top with gap := false } }

/-- Adds a block that is complete. -/
def place (s : Outline) (block : Block Chunk) : Outline :=
  { s.add block s.top.gap with top := { (s.add block s.top.gap).top with gap := false } }

/-! ## Containers of a line -/

/-- The open containers, outermost first. -/
def path (s : Outline) : List Frame :=
  (s.top :: s.outer).reverse

/-- The containers that a line continues, outermost first, and the rest of the line. -/
def matching (o : Options) : List Frame → List Cell → List Frame × List Cell
  | [], cells => ([], cells)
  | f :: rest, cells =>
    match f.container.continues? o cells with
    | some (container, cells) =>
      let (more, cells) := matching o rest cells
      ({ f with container } :: more, cells)
    | none => ([], cells)

/-- The state with the given containers, outermost first, in place of those that are open. -/
def withPath (s : Outline) (frames : List Frame) : Outline :=
  match frames.reverse with
  | top :: outer => { s with top, outer }
  | [] => s

/-- The lines that follow within the open containers, and why no more do. -/
def following (o : Options) (frames : List Frame) (eof : Point) : List Line → List Line × Limit
  | [] => ([], .eof eof)
  | line :: rest =>
    let (matched, cells) := matching o frames line.cells
    if matched.length = frames.length then
      let (more, limit) := following o frames eof rest
      ({ line with cells } :: more, limit)
    else
      let p := Cell.pointOr cells line.stop
      match Container.starts? o false cells line.stop with
      | some _ => ([], .eof ⟨line.stop.line, 1⟩)
      | none => ([], .outside p)

/-- The row of dashes that must follow the head of a table, if the next line is in the open
containers and opens no other. -/
def nextRow? (o : Options) (frames : List Frame) : List Line → Option (List Cell)
  | [] => none
  | line :: _ =>
    let (matched, cells) := matching o frames line.cells
    if matched.length = frames.length && !Cell.isBlank cells && o.allows (Cell.indent cells) &&
        (Container.starts? o true cells line.stop).isNone
    then some cells
    else none

/-! ## Leaves of a line -/

/-- Tags and expressions that the line begins. -/
def tags? (o : Options) (s : Outline) (eof : Point) (line : Line) (rest : List Line) :
    Except Fault (Option (List (Block Chunk) × Nat)) :=
  if beginsTag o line.cells then
    let (lines, limit) := following o s.path eof rest
    tagLines limit (line :: lines)
  else .ok none

/-- Adds tags and expressions, or waits for the lines that they reach into. -/
def addTags (s : Outline) (blocks : List (Block Chunk)) (left : Nat) : Outline :=
  if left = 0 then { s.addAll blocks s.top.gap with
    top := { (s.addAll blocks s.top.gap).top with gap := false } }
  else s.start (.tags blocks left)

/-- The alignment of the columns if the line is the head of a table. -/
def tableHead? (o : Options) (s : Outline) (line : Line) (rest : List Line) :
    Option (List Align) := do
  if o.gfm && o.allows (Cell.indent line.cells) then
    Markdown.tableHead? line.cells (← nextRow? o s.path rest)
  else none

/-- Begins a leaf with a line that is not blank. -/
def begin (o : Options) (s : Outline) (eof : Point) (line : Line) (rest : List Line) :
    Except Fault Outline :=
  match opening o false false line.cells with
  | .indented => .ok (s.start (.indented [line]))
  | .fence f => .ok (s.start (.fence f []))
  | .markup kind =>
    let s := s.start (.markup kind [line])
    let body := (Cell.trimLeft line.cells).drop (if kind = .comment then 2 else 1)
    .ok (if kind.endsIn body then s.closeLeaf o true else s)
  | .heading depth text =>
    let stop := endPoint line.stop text
    .ok (s.place (.heading depth false ⟨Cell.pointOr line.cells line.stop, line.stop⟩
      { cells := text, stop }))
  | .rule => .ok (s.place (.leaf .thematicBreak))
  | .statements => .ok (s.start (.statements [line]))
  | .text => do
    match ← s.tags? o eof line rest with
    | some (blocks, left) => .ok (s.addTags blocks left)
    | none =>
      match s.tableHead? o line rest with
      | some align => .ok (s.start (.tableHead align (tableRow line)))
      | none => .ok (s.start (.paragraph [line]))

/-- Closes the leaf that is open and begins another. -/
def beginAfter (o : Options) (s : Outline) (eof : Point) (line : Line) (rest : List Line) :
    Except Fault Outline :=
  (s.closeLeaf o false).begin o eof line rest

/-- Something other than text begins with the line: a leaf, tags, or a table. -/
def interrupted (o : Options) (s : Outline) (eof : Point) (interrupts lazy : Bool) (line : Line)
    (rest : List Line) : Except Fault Bool :=
  match opening o interrupts lazy line.cells with
  | .text => do
    match ← s.tags? o eof line rest with
    | some _ => .ok true
    | none => .ok (!lazy && interrupts && (s.tableHead? o line rest).isSome)
  | _ => .ok true

/-- A heading that the line under it makes of a paragraph; none if it holds definitions only. -/
def underlined? (o : Options) (s : Outline) (lines : List Line) (depth : Nat) (stop : Point) :
    Option Outline :=
  let (defs, cells) := paragraphText o lines
  if cells.isEmpty then none
  else
    let text := Cell.trim cells
    let start := Cell.pointOr cells stop
    let heading :=
      Block.heading depth true ⟨start, stop⟩ { cells := text, stop := endPoint start text }
    let s := s.addAll (defs.map .leaf ++ [heading]) s.leafGap
    some { s with leaf := .none, leafGap := false }

/-- Adds a line to a paragraph. -/
def addLine (s : Outline) (lines : List Line) (line : Line) : Outline :=
  { s with leaf := .paragraph (line :: lines) }

/-- Gives the leaf a line that is not blank. -/
def advance (o : Options) (s : Outline) (eof : Point) (line : Line) (rest : List Line) :
    Except Fault Outline :=
  match s.leaf with
  | .fence f lines =>
    .ok (if f.closes o line.cells then s.closeLeaf o true
      else { s with leaf := .fence f (f.inside line :: lines) })
  | .markup kind lines =>
    let s := { s with leaf := .markup kind (line :: lines) }
    .ok (if kind.endsIn line.cells then s.closeLeaf o true else s)
  | .statements lines => .ok { s with leaf := .statements (line :: lines) }
  | .indented lines =>
    if Cell.indent line.cells ≥ 4 then
      .ok { s with leaf := .indented (line :: lines), top := { s.top with gap := false } }
    else s.beginAfter o eof line rest
  | .tableHead align head => .ok { s with leaf := .table align [head] }
  | .table align rows => do
    if ← s.interrupted o eof false false line rest then s.beginAfter o eof line rest
    else .ok { s with leaf := .table align (tableRow line :: rows) }
  | .paragraph lines => do
    match underline? o line.cells with
    | some depth =>
      match s.underlined? o lines depth line.stop with
      | some s => .ok s
      | none => .ok (s.addLine lines line)
    | none =>
      if ← s.interrupted o eof true false line rest then s.beginAfter o eof line rest
      else .ok (s.addLine lines line)
  | _ => s.begin o eof line rest

/-- Gives the leaf a blank line. A line that opens a container does not count as blank. -/
def blank (o : Options) (s : Outline) (fresh : Bool) (line : Line) : Outline :=
  let gap (s : Outline) : Outline := { s with top := { s.top with gap := !fresh } }
  match s.leaf with
  | .fence f lines => { s with leaf := .fence f (f.inside line :: lines) }
  | .markup kind lines =>
    if kind.endsAtBlank then gap (s.closeLeaf o true)
    else { s with leaf := .markup kind (line :: lines) }
  | .indented lines => gap { s with leaf := .indented (line :: lines) }
  | _ => gap (s.closeLeaf o true)

/-! ## Lines -/

/-- Gives the leaf a line, blank or not. -/
def feed (o : Options) (s : Outline) (eof : Point) (fresh : Bool) (line : Line) (rest : List Line) :
    Except Fault Outline :=
  if Cell.isBlank line.cells then .ok (s.blank o fresh line) else s.advance o eof line rest

/-- A line that lacks the marks of some open containers. It goes on with a paragraph if it begins
nothing else; otherwise these containers end. -/
def lazyLine (o : Options) (s closed : Outline) (eof : Point) (line : Line) (rest : List Line) :
    Except Fault Outline :=
  match s.leaf with
  | .paragraph lines => do
    if Cell.isBlank line.cells then closed.feed o eof false line rest
    else if ← closed.interrupted o eof true true line rest then closed.feed o eof false line rest
    else .ok (s.addLine lines line)
  | _ => closed.feed o eof false line rest

/-- Reads a line. -/
def readLine (o : Options) (s : Outline) (eof : Point) (line : Line) (rest : List Line) :
    Except Fault Outline :=
  match s.leaf with
  | .tags blocks (left + 1) =>
    let s := { s with leaf := .tags blocks left }
    .ok (if left = 0 then s.closeLeaf o true else s)
  | _ =>
    let path := s.path
    let (matched, cells) := matching o path line.cells
    let all := matched.length = path.length
    let here := { line with cells }
    let (fresh, inner) :=
      if all && s.leaf.isConcrete then ([], cells)
      else
        Container.opened o line.stop (cells.length + 1) (all && s.leaf.isParagraph) cells
    let continued := s.withPath (matched ++ path.drop matched.length)
    match fresh with
    | [] =>
      if all then continued.feed o eof false here rest
      else
        s.lazyLine o (continued.close o (path.length - matched.length)) eof here rest
    | _ =>
      let s := openFrames fresh (continued.close o (path.length - matched.length))
      s.feed o eof true { line with cells := inner } rest

/-- Reads lines. -/
def readLines (o : Options) (eof : Point) : List Line → Outline → Except Fault Outline
  | [], s => .ok s
  | line :: rest, s => do
    let s ← s.readLine o eof line rest
    readLines o eof rest { s with stop := line.stop }

/-- Ends the document. `closed` says that its last line has an end. -/
def finish (o : Options) (s : Outline) (closed : Bool) : List (Block Chunk) :=
  let s := s.closeLeaf o closed
  let s := { closeFrames o s.outer s with outer := [] }
  s.top.blocks.map (·.block)

end Outline

/-- The blocks of lines that end at a place. -/
def blocksOf (o : Options) (eof : Point) (lines : List Line) :
    Except Fault (List (Block Chunk)) := do
  let root : Frame := { container := .document, start := ⟨1, 1⟩, gapBefore := false }
  let s ← Outline.readLines o eof lines { top := root }
  return s.finish o (lines.getLast?.any (·.newline.isSome))

end Mdx.Markdown
