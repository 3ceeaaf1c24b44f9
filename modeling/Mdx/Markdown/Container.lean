import Mdx.Markdown.Target

/-!
# Containers

Block quotes, list items and footnotes hold other blocks. Each line of what they hold carries a
mark or an indentation, which is taken off before the rest of the line is read.
-/

namespace Mdx.Markdown

/-- Indentation by this many spaces is allowed before a block. Where indented code is not a
construct there is no limit. -/
def Options.allows (o : Options) (spaces : Nat) : Bool :=
  o.mdx || spaces ≤ 3

/-- The mark of a list item. -/
structure Marker where
  /-- The number of an item of an ordered list. -/
  value : Option Nat
  /-- The bullet, or what follows the number. -/
  symbol : Char
  deriving DecidableEq, Repr

/-- Items with these marks belong to one list. -/
def Marker.fits (a b : Marker) : Bool :=
  a.value.isSome = b.value.isSome && a.symbol = b.symbol

/-- A block that holds other blocks. -/
inductive Container where
  | document
  | quote
  /-- Lines of an item are indented by `size`; `bare` says that its first line is blank and nothing
  has followed yet. -/
  | item (marker : Marker) (size : Nat) (bare : Bool)
  | footnote (identifier : String)
  deriving DecidableEq, Repr

/-- A thematic break: three or more of one mark, with spaces between. -/
def isRule (o : Options) (cells : List Cell) : Bool :=
  let marks := cells.filter (!·.isSpace)
  o.allows (Cell.indent cells) && marks.length ≥ 3 &&
    marks.head?.any fun m =>
      (m.char = '-' || m.char = '*' || m.char = '_') && marks.all (·.char = m.char)

namespace Container

/-- Takes off the mark of a block quote. -/
def quoteMark? (o : Options) (cells : List Cell) : Option (Point × List Cell) :=
  if o.allows (Cell.indent cells) then
    match Cell.trimLeft cells with
    | c :: rest =>
      if c.char = '>' then
        some (c.point, if rest.head?.any Cell.isSpace then rest.drop 1 else rest)
      else none
    | [] => none
  else none

/-- Takes off `size` spaces, or as many as there are if the line is blank. -/
def dedent? (size : Nat) (cells : List Cell) : Option (List Cell) :=
  if Cell.isBlank cells then some (cells.drop (min size cells.length))
  else if Cell.indent cells ≥ size then some (cells.drop size)
  else none

/-- Takes off what shows that a line belongs to a container. -/
def continues? (o : Options) (cells : List Cell) : Container → Option (Container × List Cell)
  | .document => some (.document, cells)
  | .quote => (quoteMark? o cells).map fun (_, rest) => (.quote, rest)
  | .item marker size bare =>
    if bare && Cell.isBlank cells then none
    else (dedent? size cells).map fun rest => (.item marker size (bare && Cell.isBlank cells), rest)
  | .footnote id => (dedent? 4 cells).map fun rest => (.footnote id, rest)

/-- The mark of a list item, and the cells after it. Only the number one interrupts a paragraph. -/
def marker? (interrupts : Bool) (cells : List Cell) : Option (Marker × List Cell) :=
  match cells with
  | c :: rest =>
    if c.char = '-' || c.char = '+' || c.char = '*' then some (⟨none, c.char⟩, rest)
    else
      let digits := cells.takeWhile (·.char.isDigit)
      match cells.drop digits.length with
      | d :: after =>
        if digits.isEmpty || digits.length > 9 || !(d.char = '.' || d.char = ')') then none
        else if interrupts && digits.map (·.char) ≠ ['1'] then none
        else some (⟨some (number 10 (digits.map (·.char))), d.char⟩, after)
      | [] => none
  | [] => none

/-- The start of a list item. -/
def item? (o : Options) (interrupts : Bool) (cells : List Cell) :
    Option (Container × List Cell) := do
  let indent := Cell.indent cells
  if !o.allows indent || isRule o cells then none
  else
    let (marker, rest) ← marker? interrupts (cells.drop indent)
    let width := cells.length - rest.length
    if Cell.isBlank rest then
      if interrupts then none else some (.item marker (width + 1) true, rest)
    else
      let spaces := Cell.indent rest
      if spaces = 0 then none
      else
        let taken := if spaces ≤ 4 then spaces else 1
        some (.item marker (width + taken) false, rest.drop taken)

/-- The start of a footnote. -/
def footnote? (o : Options) (cells : List Cell) : Option (Container × List Cell) :=
  if o.gfm && o.allows (Cell.indent cells) then
    match Cell.trimLeft cells with
    | a :: b :: rest =>
      if a.char = '[' && b.char = '^' then do
        let bracket := fun c => c = '[' || c = ']' || c = '\\'
        let (label, rest) ← upTo (· = ']') bracket
          (fun c => c = '[' || c = ' ' || c = '\t') false rest
        if label.isEmpty || label.length > maxLabel || Cell.head? rest ≠ some ':' then none
        else some (.footnote (identifier (Cell.text label)), Cell.trimLeft (rest.drop 1))
      else none
    | _ => none
  else none

/-- The container that begins with a line, the place where it begins, and the rest of the line. -/
def starts? (o : Options) (interrupts : Bool) (cells : List Cell) (stop : Point) :
    Option (Container × Point × List Cell) :=
  match quoteMark? o cells with
  | some (p, rest) => some (.quote, p, rest)
  | none =>
    match item? o interrupts cells with
    | some (c, rest) => some (c, Cell.pointOr cells stop, rest)
    | none => (footnote? o cells).map fun (c, rest) => (c, Cell.pointOr cells stop, rest)

/-- The containers that begin with a line, outermost first. -/
def opened (o : Options) (stop : Point) : Nat → Bool → List Cell →
    List (Container × Point) × List Cell
  | 0, _, cells => ([], cells)
  | fuel + 1, interrupts, cells =>
    match starts? o interrupts cells stop with
    | some (c, p, rest) =>
      let (more, rest) := opened o stop fuel false rest
      ((c, p) :: more, rest)
    | none => ([], cells)

end Container

end Mdx.Markdown
