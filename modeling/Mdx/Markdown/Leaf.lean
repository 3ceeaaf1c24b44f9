import Mdx.Markdown.Container
import Mdx.Markdown.Markup
import Mdx.Markdown.Table

/-!
# Leaf blocks

The blocks that hold text and no other blocks. Each is recognised by the line that it begins with;
some go on over further lines.
-/

namespace Mdx.Markdown

/-- How a block of code or a formula is fenced. -/
structure Fence where
  marker : Char
  size : Nat
  indent : Nat
  lang : Option String
  info : Option String
  deriving DecidableEq, Repr

/-- The text of cells, if there are any. -/
def someText (cells : List Cell) : Option String :=
  if cells.isEmpty then none else some (stringText cells)

/-- Reads the line that opens a fence. Only a fence of tildes may have its own mark after it. -/
def Fence.opens? (o : Options) (cells : List Cell) : Option Fence :=
  let indent := Cell.indent cells
  match cells.drop indent with
  | c :: rest =>
    let size := 1 + (rest.takeWhile (·.char = c.char)).length
    let formula := o.math && c.char = '$'
    let isFence := c.char.toNat = 0x60 || c.char = '~' || formula
    let least := if formula then 2 else 3
    let line := Cell.trimLeft (rest.drop (size - 1))
    if !isFence || size < least || !o.allows indent then none
    else if c.char ≠ '~' && line.any (·.char = c.char) then none
    else
      let word := line.takeWhile (!·.isSpace)
      some ⟨c.char, size, indent, someText word, someText (Cell.trimLeft (line.drop word.length))⟩
  | [] => none

/-- The line closes the fence. -/
def Fence.closes (f : Fence) (o : Options) (cells : List Cell) : Bool :=
  let body := Cell.trimLeft cells
  let marks := body.takeWhile (·.char = f.marker)
  o.allows (Cell.indent cells) && marks.length ≥ f.size && Cell.isBlank (body.drop marks.length)

/-- A line inside the fence, without the indentation of the fence. -/
def Fence.inside (f : Fence) (line : Line) : Line :=
  { line with cells := line.cells.drop (min f.indent (Cell.indent line.cells)) }

/-- Drops one line end at the end of a text. -/
def chomp (s : String) : String :=
  let back := s.toList.reverse
  match back with
  | '\n' :: '\r' :: rest => String.ofList rest.reverse
  | '\n' :: rest => String.ofList rest.reverse
  | '\r' :: rest => String.ofList rest.reverse
  | _ => s

/-- The block in a fence with the lines of its content. `closed` says that the content ends in a
line end of its own. -/
def Fence.block (f : Fence) (lines : List Line) (closed : Bool) : Node :=
  let value := Cell.text (Line.join lines)
  let value := if closed then value else chomp value
  if f.marker = '$' then .math value else .code value f.lang f.info

/-- Code that is marked by its indentation, without the blank lines after it. -/
def indentedCode (lines : List Line) : Node :=
  let lines := (lines.reverse.dropWhile fun l => Cell.isBlank l.cells).reverse
  .code (Cell.text (Line.join (lines.map fun l => { l with cells := l.cells.drop 4 }))) none none

/-- The depth and the text of a heading that begins with hash signs. -/
def atxHeading? (o : Options) (cells : List Cell) : Option (Nat × List Cell) :=
  let body := Cell.trimLeft cells
  let marks := body.takeWhile (·.char = '#')
  let rest := body.drop marks.length
  if !o.allows (Cell.indent cells) || marks.isEmpty || marks.length > 6 then none
  else if rest.head?.any (!·.isSpace) then none
  else
    let text := Cell.trim rest
    let close := (text.reverse.takeWhile (·.char = '#')).length
    let before := text.take (text.length - close)
    if close > 0 && before.getLast?.all Cell.isSpace then some (marks.length, Cell.trimRight before)
    else some (marks.length, text)

/-- The depth that the line under a heading gives it. -/
def underline? (o : Options) (cells : List Cell) : Option Nat :=
  let marks := Cell.trim cells
  if !o.allows (Cell.indent cells) then none
  else
    match marks with
    | c :: _ =>
      if marks.all (·.char = c.char) then
        if c.char = '=' then some 1 else if c.char = '-' then some 2 else none
      else none
    | [] => none

/-- The line begins statements of the host language: `import` or `export` at the first column. -/
def beginsStatements (o : Options) (cells : List Cell) : Bool :=
  o.mdx && cells.head?.any (·.point.column = 1) &&
    (Cell.begins "import ".toList cells || Cell.begins "export ".toList cells)

/-! ## Tags and expressions on lines of their own -/

/-- Tags and expressions up to the end of a line. `tagOnly` says that an expression just ended, and
only a tag can follow it. -/
def tagLine (limit : Limit) : Nat → Bool → List Cell → Except Halt (List (Block Chunk) × List Cell)
  | 0, _, _ => throw .absent
  | fuel + 1, tagOnly, cells =>
    match Cell.trimLeft cells with
    | [] => return ([], [])
    | c :: rest =>
      if c.isNewline then return ([], c :: rest)
      else if c.char = '<' then do
        let (t, rest) ← tag limit c rest
        let (more, rest) ← tagLine limit fuel false rest
        return (.tag t :: more, rest)
      else if c.char.toNat = 0x7b && !tagOnly then do
        let (source, rest) ← expression limit rest
        let (more, rest) ← tagLine limit fuel true rest
        return (.leaf (.flowExpression source) :: more, rest)
      else throw .absent

/-- The line may begin with a tag or an expression. -/
def beginsTag (o : Options) (cells : List Cell) : Bool :=
  o.mdx && (Cell.head? (Cell.trimLeft cells)).any fun c => c = '<' || c.toNat = 0x7b

/-- The tags and expressions that some lines begin with, and how many lines after the first they
reach into. None if other text follows them. -/
def tagLines (limit : Limit) (lines : List Line) :
    Except Fault (Option (List (Block Chunk) × Nat)) :=
  let cells := lines.flatMap fun l => l.cells ++ l.newline.toList
  let newlines := fun (cs : List Cell) => (cs.filter Cell.isNewline).length
  match tagLine limit (cells.length + 1) false cells with
  | .ok (blocks, rest) => .ok (some (blocks, newlines cells - newlines rest))
  | .error .absent => .ok none
  | .error (.fault f) => .error f

/-! ## Openings -/

/-- What a line begins. -/
inductive Opening where
  | indented
  | fence (fence : Fence)
  | markup (kind : Markup)
  | heading (depth : Nat) (text : List Cell)
  | rule
  | statements
  /-- Text, which may also be a tag or the head of a table. -/
  | text

/-- What a line begins that is not blank. `interrupts` says that it follows a line of a paragraph,
and `lazy` that it lacks the marks of the containers of that paragraph. -/
def opening (o : Options) (interrupts lazy : Bool) (cells : List Cell) : Opening :=
  if !o.mdx && Cell.indent cells ≥ 4 then if interrupts then .text else .indented
  else
    match Fence.opens? o cells with
    | some f => .fence f
    | none =>
      match htmlStart with
      | some kind => .markup kind
      | none =>
        match atxHeading? o cells with
        | some (depth, text) => .heading depth text
        | none =>
          if isRule o cells then .rule
          else if !interrupts && beginsStatements o cells then .statements
          else .text
where
  /-- The kind of raw HTML that the line begins. -/
  htmlStart : Option Markup :=
    match Cell.trimLeft cells with
    | c :: rest =>
      if !o.mdx && c.char = '<' then Markup.starts? (interrupts && !lazy) rest else none
    | [] => none

end Mdx.Markdown
