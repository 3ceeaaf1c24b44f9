import Mdx.Markdown.Cell
import Mdx.Markdown.Node

/-!
# Targets of links

Labels, destinations and titles, the resource in parentheses after a link, and the definitions that
labels refer to.
-/

namespace Mdx.Markdown

/-- The cell is a backslash that keeps the next one from being read as a mark. -/
def escapesNext (escapes : Char → Bool) (c : Cell) (rest : List Cell) : Bool :=
  c.char = '\\' && (Cell.head? rest).any escapes

/-- Reads cells up to one that satisfies `stops`. A cell after a backslash is only read if it
satisfies `escapes`, which `kept` says of the first one; a cell that satisfies `breaks` is not
allowed. -/
def upTo (stops escapes breaks : Char → Bool) (kept : Bool) :
    List Cell → Option (List Cell × List Cell)
  | [] => none
  | c :: rest =>
    if !kept && stops c.char then some ([], rest)
    else if !kept && breaks c.char then none
    else
      (upTo stops escapes breaks (!kept && escapesNext escapes c rest) rest).map
        fun (inner, r) => (c :: inner, r)

/-- The greatest length of a label. -/
def maxLabel : Nat :=
  999

/-- Reads a label after its opening bracket. It may not be blank. -/
def label? (cells : List Cell) : Option (List Cell × List Cell) := do
  let bracket := fun c => c = '[' || c = ']' || c = '\\'
  let (inner, rest) ← upTo (· = ']') bracket (· = '[') false cells
  if inner.length > maxLabel || inner.all (fun c => c.isSpace || c.isNewline) then none
  else some (inner, rest)

/-- Skips spaces and at most one line end. -/
def skipLine (cells : List Cell) : List Cell :=
  match Cell.trimLeft cells with
  | c :: rest => if c.isNewline then Cell.trimLeft rest else c :: rest
  | [] => []

/-- Space or line end. -/
def atSpace (cells : List Cell) : Bool :=
  cells.head?.any fun c => c.isSpace || c.isNewline

/-- A control character of ASCII. -/
def isControl (c : Char) : Bool :=
  c.toNat < 0x20 || c.toNat = 0x7f

/-- Reads a destination without brackets. Parentheses in it are balanced and nested to at most the
given depth; `depth` counts the open ones, and `kept` says that a backslash stands before. -/
def bareDestination (most : Nat) : Bool → Nat → List Cell → Option (List Cell × List Cell)
  | _, depth, [] => if depth = 0 then some ([], []) else none
  | kept, depth, c :: rest =>
    if depth = 0 && ((!kept && c.char = ')') || c.isSpace || c.isNewline) then some ([], c :: rest)
    else if c.isSpace || isControl c.char then none
    else if !kept && c.char = '(' && depth ≥ most then none
    else
      let inside :=
        if kept then depth
        else if c.char = '(' then depth + 1
        else if c.char = ')' then depth - 1
        else depth
      let escapes := !kept && escapesNext (fun x => x = '(' || x = ')' || x = '\\') c rest
      (bareDestination most escapes inside rest).map fun (inner, r) => (c :: inner, r)

/-- Reads a destination. -/
def destination? (most : Nat) : List Cell → Option (List Cell × List Cell)
  | [] => none
  | c :: rest =>
    if c.char = '<' then
      upTo (· = '>') (fun x => x = '<' || x = '>' || x = '\\') (fun x => x = '<' || x = '\n')
        false rest
    else if c.char = ')' || c.isSpace || isControl c.char then none
    else bareDestination most false 0 (c :: rest)

/-- The mark that closes a title. -/
def titleEnd? (c : Char) : Option Char :=
  if c = '"' || c.toNat = 0x27 then some c else if c = '(' then some ')' else none

/-- Reads a title. -/
def title? : List Cell → Option (List Cell × List Cell)
  | [] => none
  | c :: rest => do
    let close ← titleEnd? c.char
    upTo (· = close) (fun x => x = close || x = '\\') (fun _ => false) false rest

/-- Where a link leads. -/
structure Resource where
  url : String
  title : Option String
  deriving DecidableEq, Repr

/-- The greatest depth of parentheses in the destination of a link. -/
def maxParens : Nat :=
  32

/-- The closing parenthesis of a resource. -/
def resourceEnd (r : Resource) (cells : List Cell) : Option (Resource × List Cell) :=
  match skipLine cells with
  | c :: rest => if c.char = ')' then some (r, rest) else none
  | [] => none

/-- Reads a resource after its opening parenthesis. -/
def resource? (cells : List Cell) : Option (Resource × List Cell) :=
  let cells := skipLine cells
  if Cell.head? cells = some ')' then some (⟨"", none⟩, cells.drop 1)
  else do
    let (url, rest) ← destination? maxParens cells
    let r : Resource := ⟨stringText url, none⟩
    if atSpace rest && ((Cell.head? (skipLine rest)).bind titleEnd?).isSome then do
      let (title, rest) ← title? (skipLine rest)
      resourceEnd { r with title := some (stringText title) } rest
    else resourceEnd r rest

/-- The cells after spaces and the end of a line, if nothing else is left of it. -/
def lineEnds? (cells : List Cell) : Option (List Cell) :=
  match Cell.trimLeft cells with
  | [] => some []
  | c :: rest => if c.isNewline then some rest else none

/-- Reads a title and the end of its line. -/
def definitionTitle? (cells : List Cell) : Option (String × List Cell) := do
  if atSpace cells then
    let (title, rest) ← title? (skipLine cells)
    let rest ← lineEnds? rest
    return (stringText title, rest)
  else none

/-- Reads a definition at the start of a line. Without limit, any indentation is allowed. -/
def definition? (unlimited : Bool) (cells : List Cell) : Option (Node × List Cell) := do
  if !unlimited && Cell.indent cells > 3 then none
  else
    match Cell.trimLeft cells with
    | c :: rest =>
      if c.char = '[' then
        let (label, rest) ← label? rest
        if Cell.head? rest = some ':' then
          let (url, rest) ← destination? rest.length (skipLine (rest.drop 1))
          let name := identifier (Cell.text label)
          match definitionTitle? rest with
          | some (title, rest) => return (.definition name (stringText url) (some title), rest)
          | none =>
            let rest ← lineEnds? rest
            return (.definition name (stringText url) none, rest)
        else none
      else none
    | [] => none

/-- Reads the definitions that some cells begin with. -/
def definitions (unlimited : Bool) : Nat → List Cell → List Node × List Cell
  | 0, cells => ([], cells)
  | fuel + 1, cells =>
    match definition? unlimited cells with
    | some (d, rest) =>
      let (ds, rest) := definitions unlimited fuel rest
      (d :: ds, rest)
    | none => ([], cells)

end Mdx.Markdown
