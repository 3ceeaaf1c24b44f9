import Mdx.Markdown.Options
import Mdx.Text.Blank
import Mdx.Text.Case
import Mdx.Text.Named
import Mdx.Text.Punctuation

/-!
# Cells

A text is read as a row of cells: each character with its place. A tab fills the columns up to the
next tab stop with cells of its own, so that indentation is counted in cells. Every line end is one
cell, whichever way it is spelled.
-/

namespace Mdx.Markdown

/-- A character at its place. -/
structure Cell where
  char : Char
  point : Point
  /-- How the text spells it; empty for a column that a tab fills. -/
  spelling : List Char
  deriving DecidableEq, Repr

namespace Cell

/-- A space, a tab, or a column that a tab fills. -/
def isSpace (c : Cell) : Bool :=
  c.char = ' ' || c.char = '\t'

/-- A line end. -/
def isNewline (c : Cell) : Bool :=
  c.char = '\n'

/-- The place after a cell that is no line end. -/
def after (c : Cell) : Point :=
  { c.point with column := c.point.column + max 1 (String.ofList [c.char]).utf8ByteSize }

/-- The columns that a tab at the given column fills after its own. -/
def fill (line column : Nat) : List Cell :=
  (List.range ((4 - column % 4) % 4)).map fun i => ⟨' ', ⟨line, column + 1 + i⟩, []⟩

/-- The cells of a text that begins at a place. -/
def row (line column : Nat) : List Char → List Cell
  | [] => []
  | '\r' :: '\n' :: rest => ⟨'\n', ⟨line, column⟩, ['\r', '\n']⟩ :: row (line + 1) 1 rest
  | c :: rest =>
    if c = '\n' || c = '\r' then ⟨'\n', ⟨line, column⟩, [c]⟩ :: row (line + 1) 1 rest
    else if c = '\t' then
      let tab := fill line column
      ⟨'\t', ⟨line, column⟩, ['\t']⟩ :: (tab ++ row line (column + 1 + tab.length) rest)
    else ⟨c, ⟨line, column⟩, [c]⟩ :: row line (column + (String.ofList [c]).utf8ByteSize) rest

/-- The characters that cells spell. Columns of a tab that lies before them are spaces. -/
def chars (cells : List Cell) : List Char :=
  let lead := cells.takeWhile (·.spelling.isEmpty)
  lead.map (fun _ => ' ') ++ (cells.drop lead.length).flatMap (·.spelling)

/-- The text that cells spell. -/
def text (cells : List Cell) : String :=
  String.ofList (chars cells)

/-- Drops the spaces before other cells. -/
def trimLeft (cells : List Cell) : List Cell :=
  cells.dropWhile isSpace

/-- Drops the spaces after other cells. -/
def trimRight (cells : List Cell) : List Cell :=
  (cells.reverse.dropWhile isSpace).reverse

/-- Drops the spaces around other cells. -/
def trim (cells : List Cell) : List Cell :=
  trimRight (trimLeft cells)

/-- How many spaces stand in front. -/
def indent (cells : List Cell) : Nat :=
  (cells.takeWhile isSpace).length

/-- The cells are all spaces. -/
def isBlank (cells : List Cell) : Bool :=
  cells.all isSpace

/-- The first character. -/
def head? (cells : List Cell) : Option Char :=
  cells.head?.map (·.char)

/-- The place where cells begin, or the given one if there are none. -/
def pointOr (cells : List Cell) (p : Point) : Point :=
  (cells.head?.map (·.point)).getD p

/-- The cells begin with the given characters. -/
def begins : List Char → List Cell → Bool
  | [], _ => true
  | _, [] => false
  | c :: cs, x :: xs => c = x.char && begins cs xs

end Cell

/-! ## Lines -/

/-- A line, or what is left of one when the marks of the blocks around it are taken off. -/
structure Line where
  cells : List Cell
  /-- Its end, which the last line may lack. -/
  newline : Option Cell
  /-- The place after its last cell. -/
  stop : Point
  deriving Repr

/-- Splits cells into lines; `current` holds the cells of the line so far, last first. -/
def Line.split : List Cell → List Cell → List Line
  | [], [] => []
  | [], c :: current => [⟨(c :: current).reverse, none, c.after⟩]
  | x :: rest, current =>
    if x.isNewline then
      ⟨current.reverse, some x, x.point⟩ :: split rest []
    else split rest (x :: current)

/-- The cells of several lines with the line ends between them. -/
def Line.join : List Line → List Cell
  | [] => []
  | [l] => l.cells
  | l :: rest => l.cells ++ l.newline.toList ++ join rest

/-- The text of several lines, with the line ends between them. -/
def Line.text (lines : List Line) : String :=
  String.join (lines.map fun l => Cell.text l.cells ++ Cell.text l.newline.toList)

/-- The place after the last of some cells, where `start` is the place of the first. -/
def endPoint (start : Point) (cells : List Cell) : Point :=
  match cells.getLast? with
  | some c => if c.isNewline then ⟨c.point.line + 1, 1⟩ else c.after
  | none => start

/-! ## Spans -/

/-- A part of a text. -/
structure Span where
  start : Point
  stop : Point
  deriving DecidableEq, Repr

/-! ## Character references and escapes -/

/-- The character with a code, or the replacement character if a reference may not name it. -/
def referenced (code : Nat) : Char :=
  if code < 0x09 || code = 0x0b || (0x0d < code && code < 0x20) || (0x7e < code && code < 0xa0) ||
      (0xd7ff < code && code < 0xe000) || (0xfdcf < code && code < 0xfdf0) ||
      code % 0x10000 = 0xffff || code % 0x10000 = 0xfffe || code > 0x10ffff
  then Char.ofNat 0xfffd
  else Char.ofNat code

/-- A hexadecimal digit. -/
def isHex (c : Char) : Bool :=
  c.isDigit || ('a' ≤ c && c ≤ 'f') || ('A' ≤ c && c ≤ 'F')

/-- The value of a hexadecimal digit. -/
def hexDigit (c : Char) : Nat :=
  if c.isDigit then c.toNat - 0x30 else if c ≤ 'F' then c.toNat - 0x37 else c.toNat - 0x57

/-- The number that digits spell in a base. -/
def number (base : Nat) (digits : List Char) : Nat :=
  digits.foldl (fun n d => n * base + hexDigit d) 0

/-- Reads digits that a semicolon ends. Gives the character and how many characters it took. -/
def numericReference? (base most : Nat) (isDigit : Char → Bool) (lead : Nat) (cs : List Char) :
    Option (List Char × Nat) :=
  let digits := cs.takeWhile isDigit
  if digits.isEmpty || digits.length > most || (cs.drop digits.length).head? ≠ some ';' then none
  else some ([referenced (number base digits)], lead + digits.length + 1)

/-- The longest name of a character. -/
def longestName : Nat :=
  31

/-- Reads a character reference that follows an ampersand. Gives what it stands for and how many
characters it takes, the ampersand included. -/
def reference? : List Char → Option (List Char × Nat)
  | '#' :: x :: rest =>
    if x = 'x' || x = 'X' then numericReference? 16 6 isHex 3 rest
    else numericReference? 10 7 Char.isDigit 2 (x :: rest)
  | cs =>
    let name := cs.takeWhile Char.isAlphanum
    if name.isEmpty || name.length > longestName || (cs.drop name.length).head? ≠ some ';' then none
    else (Text.named? (String.ofList name)).map (·, name.length + 2)

/-- Replaces escapes and character references in a text; `escapes` says whether there are escapes.
The first argument counts the characters that a replacement has already taken. -/
def decodeFrom (escapes : Bool) : Nat → List Char → List Char
  | _, [] => []
  | skip + 1, _ :: rest => decodeFrom escapes skip rest
  | 0, c :: rest =>
    if escapes && c = '\\' && rest.head?.any Text.isAsciiPunctuation then
      rest.head?.toList ++ decodeFrom escapes 1 rest
    else if c = '&' then
      match reference? rest with
      | some (value, length) => value ++ decodeFrom escapes (length - 1) rest
      | none => c :: decodeFrom escapes 0 rest
    else c :: decodeFrom escapes 0 rest

/-- Replaces escapes and character references. -/
def decode (cs : List Char) : List Char :=
  decodeFrom true 0 cs

/-- Replaces character references only. -/
def decodeReferences (cs : List Char) : List Char :=
  decodeFrom false 0 cs

/-- Drops the spaces around line ends; `fresh` says that a line end stands before the cells. -/
def trimLines (fresh : Bool) : List Cell → List Cell
  | [] => []
  | c :: rest =>
    if c.isNewline then c :: trimLines true rest
    else if c.isSpace && (fresh || (rest.dropWhile Cell.isSpace).head?.any Cell.isNewline) then
      trimLines fresh rest
    else c :: trimLines false rest

/-- The text of a destination, title or label of code: escapes and references are replaced. -/
def stringText (cells : List Cell) : String :=
  String.ofList (decode (Cell.chars (trimLines false cells)))

/-- The identifier of a label: white space is collapsed and case does not matter. -/
def identifier (label : String) : String :=
  Text.fold (String.intercalate " " ((label.split fun c =>
    c = ' ' || c = '\t' || c = '\n' || c = '\r').toList.filterMap fun s =>
      if s.isEmpty then none else some s.toString))

end Mdx.Markdown
