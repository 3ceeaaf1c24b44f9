import Mdx.Markdown.Block
import Mdx.Markdown.Markup
import Mdx.Markdown.Piece

/-!
# Text

Reads the text of a block from left to right. Brackets that may begin a link are kept open until
the bracket that closes them shows what they are.
-/

namespace Mdx.Markdown

/-- What the text of a document may refer to. -/
structure Scope where
  options : Options
  definitions : List String
  footnotes : List String

/-! ## Code -/

/-- Reads up to a run of exactly `size` marks. -/
def upToRun (marker : Char) (size : Nat) : Nat → List Cell → Option (List Cell × List Cell)
  | 0, _ => none
  | _, [] => none
  | fuel + 1, c :: rest =>
    if c.char = marker then
      let run := (c :: rest).takeWhile (·.char = marker)
      let after := (c :: rest).drop run.length
      if run.length = size then some ([], after)
      else (upToRun marker size fuel after).map fun (inner, r) => (run ++ inner, r)
    else (upToRun marker size fuel rest).map fun (inner, r) => (c :: inner, r)

/-- Bars of a table are escaped even in code. -/
def unescapeBars : List Char → List Char
  | [] => []
  | c :: rest =>
    if c = '\\' && rest.head? = some '|' then unescapeBars rest else c :: unescapeBars rest

/-- The text of code: line ends are spaces, and one space on each side is dropped unless there are
only spaces. -/
def spanText (inTable : Bool) (cells : List Cell) : String :=
  let chars := Cell.chars (cells.map fun c =>
    if c.isNewline then { c with char := ' ', spelling := [' '] } else c)
  let chars := if inTable then unescapeBars chars else chars
  let padded := chars.length > 2 && chars.head? = some ' ' && chars.getLast? = some ' ' &&
    chars.any (· ≠ ' ')
  String.ofList (if padded then (chars.drop 1).dropLast else chars)

/-- Reads code or a formula, whose opening marks the cells begin with. -/
def codeSpan? (inTable : Bool) (marker : Char) (cells : List Cell) : Option (Node × List Cell) := do
  let size := (cells.takeWhile (·.char = marker)).length
  let (inner, rest) ← upToRun marker size cells.length (cells.drop size)
  let value := spanText inTable inner
  return (if marker = '$' then .inlineMath value else .inlineCode value, rest)

/-! ## Brackets -/

/-- What an opening bracket may begin. -/
inductive BracketKind where
  | link
  | image
  | footnote
  deriving DecidableEq, Repr

/-- An opening bracket. -/
structure Bracket where
  kind : BracketKind
  /-- The cells of the bracket itself. -/
  cells : List Cell
  /-- What follows it. -/
  inside : List Cell
  /-- The items before it, last first. -/
  before : List Item
  /-- It can no longer begin a link, because there is a link inside it. -/
  closed : Bool := false

/-- What the text is read into: the items since the last open bracket, last first, and the open
brackets, innermost first. -/
structure Phrase where
  items : List Item := []
  brackets : List Bracket := []
  /-- The last character. -/
  previous : Option Char := none
  /-- An escape stands before. -/
  escaped : Bool := false

namespace Phrase

/-- Adds an item. -/
def push (s : Phrase) (i : Item) : Phrase :=
  { s with items := i :: s.items }

/-- Adds a piece. -/
def add (s : Phrase) (p : Piece) : Phrase :=
  s.push (.piece p)

/-- Gives up the innermost bracket: it is text. -/
def dropBracket (s : Phrase) (b : Bracket) (outer : List Bracket) : Phrase :=
  { s with items := s.items ++ .piece (.data b.cells) :: b.before, brackets := outer }

/-- The items of all open brackets, in order. -/
def flat (s : Phrase) : List Item :=
  (s.brackets.foldl (fun items b => items ++ .piece (.data b.cells) :: b.before) s.items).reverse

/-- What a closing bracket makes of the text after its opening one. -/
inductive Closing where
  | call (identifier : String)
  | resource (resource : Resource)
  | reference (identifier label : String) (kind : ReferenceKind)

/-- A reference to the label itself, if it is defined. -/
def shortcut? (sc : Scope) (id label : String) (rest : List Cell) : Option (Closing × List Cell) :=
  if sc.definitions.contains id then some (.reference id label .shortcut, rest) else none

/-- A reference by a label after the text, or by an empty one. -/
def reference? (sc : Scope) (id label : String) (rest : List Cell) :
    Option (Closing × List Cell) :=
  let full := do
    let (other, after) ← label? (rest.drop 1)
    let name := identifier (Cell.text other)
    if sc.definitions.contains name then
      some (Closing.reference name (Cell.text other) .full, after)
    else none
  match full with
  | some r => some r
  | none =>
    if sc.definitions.contains id && Cell.begins "[]".toList rest then
      some (.reference id label .collapsed, rest.drop 2)
    else none

/-- What follows a closing bracket says what the bracket closes. -/
def closing? (sc : Scope) (kind : BracketKind) (label : String) (rest : List Cell) :
    Option (Closing × List Cell) :=
  let id := identifier label
  if kind = .footnote && sc.footnotes.contains id then some (.call id, rest)
  else
    let label := if kind = .footnote then "^" ++ label else label
    let id := if kind = .footnote then "^" ++ id else id
    if Cell.head? rest = some '(' then
      match resource? (rest.drop 1) with
      | some (r, after) => some (.resource r, after)
      | none => shortcut? sc id label rest
    else if Cell.head? rest = some '[' then reference? sc id label rest
    else shortcut? sc id label rest

/-- The piece for a closed bracket with the given items inside, in order. -/
def bracketPiece (b : Bracket) (span : Span) (inside : List Item) : Closing → Piece
  | .call id => .leaf (.footnoteReference id)
  | .resource r =>
    .group (if b.kind = .image then .image r else .link r) span (children)
  | .reference id label kind =>
    .group (if b.kind = .image then .imageReference id label kind else .linkReference id label kind)
      span children
where
  /-- A caret that names no footnote is text. -/
  children : List Piece :=
    (if b.kind = .footnote then [.data (b.cells.drop 1)] else []) ++ emphasize inside

/-- Closes a bracket. The cells are those after the closing one. -/
def close (s : Phrase) (sc : Scope) (bracket : Cell) (rest : List Cell) : Phrase × List Cell :=
  let text := Piece.data [bracket]
  match s.brackets with
  | [] => (s.add text, rest)
  | b :: outer =>
    if b.closed then ((s.dropBracket b outer).add text, rest)
    else
      let label := Cell.text (b.inside.take (b.inside.length - rest.length - 1))
      match closing? sc b.kind label rest with
      | none => ((s.dropBracket b outer).add text, rest)
      | some (c, after) =>
        let start := Cell.pointOr b.cells bracket.point
        let taken := rest.take (rest.length - after.length)
        let piece := bracketPiece b ⟨start, endPoint bracket.after taken⟩ s.items.reverse c
        let outer := if b.kind = .image then outer
          else outer.map fun x => if x.kind = .image then x else { x with closed := true }
        ({ s with items := .piece piece :: b.before, brackets := outer }, after)

/-- Opens a bracket. -/
def openBracket (s : Phrase) (kind : BracketKind) (cells rest : List Cell) : Phrase :=
  { s with
    items := []
    brackets := { kind, cells, inside := rest, before := s.items } :: s.brackets }

/-- Adds a run of marks of emphasis that the cells begin with. -/
def addRun (s : Phrase) (marker : Char) (cells : List Cell) : Phrase × List Cell :=
  let run := cells.takeWhile (·.char = marker)
  let rest := cells.drop run.length
  (s.push (.run (Run.between s.previous (Cell.head? rest) run marker)), rest)

/-- A piece that begins with an angle bracket. -/
def angle (s : Phrase) (o : Options) (limit : Limit) (c : Cell) (rest : List Cell) :
    Except Fault (Phrase × List Cell) :=
  match bracketed? rest with
  | some (address, after) => .ok (s.add (.leaf address.node), after)
  | none =>
    if o.mdx then
      match tag limit c rest with
      | .ok (t, after) => .ok (s.add (.tag t), after)
      | .error .absent => .ok (s.add (.data [c]), rest)
      | .error (.fault f) => .error f
    else
      match Markup.inline? rest with
      | some after =>
        let cells := c :: rest.take (rest.length - after.length)
        .ok (s.add (.leaf (.html (Cell.text (lineStarts false cells)))), after)
      | none => .ok (s.add (.data [c]), rest)
where
  /-- Drops the spaces after line ends. -/
  lineStarts (fresh : Bool) : List Cell → List Cell
    | [] => []
    | c :: rest =>
      if fresh && c.isSpace then lineStarts true rest else c :: lineStarts c.isNewline rest

/-- Reads a backslash: an escape, a line break, or itself. -/
def backslash (s : Phrase) (c : Cell) (rest : List Cell) : Phrase × List Cell :=
  match rest with
  | d :: after =>
    if Text.isAsciiPunctuation d.char then
      ({ s.add (.verbatim [d.char]) with escaped := true }, after)
    else if d.isNewline then (s.add .lineBreak, rest)
    else (s.add (.data [c]), rest)
  | [] => (s.add (.data [c]), rest)

/-- Notes the last character that was read when cells have been read up to `after`. -/
def past (cells : List Cell) (r : Phrase × List Cell) : Phrase × List Cell :=
  let taken := cells.take (cells.length - r.2.length)
  ({ r.1 with previous := taken.getLast?.map (·.char) }, r.2)

/-- Reads one piece. -/
def step (s : Phrase) (sc : Scope) (inTable : Bool) (limit : Limit) (c : Cell) (rest : List Cell) :
    Except Fault (Phrase × List Cell) :=
  let o := sc.options
  let cells := c :: rest
  let fresh := { s with escaped := false, previous := some c.char }
  let text : Phrase × List Cell := (fresh.add (.data [c]), rest)
  match c.char with
  | '\n' => .ok (fresh.add (.newline c), rest)
  | '\\' => .ok (past cells (fresh.backslash c rest))
  | '&' =>
    match Markdown.reference? (rest.map (·.char)) with
    | some (chars, size) => .ok (past cells (fresh.add (.verbatim chars), rest.drop (size - 1)))
    | none => .ok text
  | '<' => (fresh.angle o limit c rest).map (past cells)
  | ']' => .ok (past cells (fresh.close sc c rest))
  | '[' =>
    if o.gfm && Cell.head? rest = some '^' then
      .ok (past cells (fresh.openBracket .footnote (cells.take 2) (rest.drop 1), rest.drop 1))
    else .ok (fresh.openBracket .link [c] rest, rest)
  | '!' =>
    if Cell.head? rest = some '[' && !(o.gfm && Cell.head? (rest.drop 1) = some '^') then
      .ok (past cells (fresh.openBracket .image (cells.take 2) (rest.drop 1), rest.drop 1))
    else .ok text
  | x =>
    if x = '*' || x = '_' || (o.gfm && x = '~') then
      .ok (past cells ({ fresh with previous := s.previous }.addRun x cells))
    else if (x.toNat = 0x60 || (o.math && x = '$')) && (s.previous ≠ some x || s.escaped) then
      match codeSpan? inTable x cells with
      | some (node, after) => .ok (past cells (fresh.add (.leaf node), after))
      | none => .ok text
    else if o.mdx && x.toNat = 0x7b then
      match expression limit rest with
      | .ok (source, after) => .ok (past cells (fresh.add (.leaf (.textExpression source)), after))
      | .error .absent => .ok text
      | .error (.fault f) => .error f
    else if o.gfm && (x = 'h' || x = 'H' || x = 'w' || x = 'W') then
      match literal? s.previous cells with
      | some (address, after) => .ok (past cells (fresh.add (.leaf address.node), after))
      | none => .ok text
    else .ok text

/-- Reads pieces up to the end. -/
def read (sc : Scope) (inTable : Bool) (limit : Limit) : Nat → Phrase → List Cell →
    Except Fault Phrase
  | 0, s, _ => .ok s
  | _, s, [] => .ok s
  | fuel + 1, s, c :: rest => do
    let (s, rest) ← s.step sc inTable limit c rest
    read sc inTable limit fuel s rest

end Phrase

/-- The pieces of a text. -/
def pieces (sc : Scope) (text : Chunk) : Except Fault (List Piece) := do
  let s ← Phrase.read sc text.inTable (.eof text.stop) (text.cells.length + 1) {} text.cells
  return settleText sc.options.gfm text.trims (emphasize s.flat)

end Mdx.Markdown
