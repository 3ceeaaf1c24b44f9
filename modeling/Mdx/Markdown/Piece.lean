import Mdx.Markdown.Address
import Mdx.Markdown.Tag

/-!
# Pieces of text

What a row of cells holds: characters, line ends, code, links and so on. Runs of the marks of
emphasis are matched once all else is known.
-/

namespace Mdx.Markdown

/-- What encloses other pieces. -/
inductive Group where
  | emphasis
  | strong
  | delete
  | link (resource : Resource)
  | image (resource : Resource)
  | linkReference (identifier label : String) (kind : ReferenceKind)
  | imageReference (identifier label : String) (kind : ReferenceKind)
  deriving DecidableEq, Repr

/-- A piece of text. -/
inductive Piece where
  | data (cells : List Cell)
  | newline (cell : Cell)
  /-- Characters that an escape or a reference stands for. -/
  | verbatim (chars : List Char)
  | lineBreak
  | leaf (node : Node)
  | tag (tag : Tag)
  | group (kind : Group) (span : Span) (children : List Piece)

/-! ## Emphasis -/

/-- A run of marks of emphasis. -/
structure Run where
  marker : Char
  cells : List Cell
  opens : Bool
  closes : Bool

/-- A piece, or a run that is not matched yet. -/
inductive Item where
  | piece (piece : Piece)
  | run (run : Run)

/-- How a character next to a run counts; the end of the text counts as white space. -/
inductive CharKind where
  | space
  | punctuation
  | other
  deriving DecidableEq, Repr

/-- The kind of a character. -/
def CharKind.of : Option Char → CharKind
  | none => .space
  | some c =>
    if Text.isBlank c then .space else if Text.isPunctuation c then .punctuation else .other

/-- The run between two characters. An asterisk or underscore may stand next to another mark. -/
def Run.between (before after : Option Char) (cells : List Cell) (marker : Char) : Run :=
  let b := CharKind.of before
  let a := CharKind.of after
  let isMark (c : Option Char) : Bool :=
    marker ≠ '~' && c.any fun x => x = '*' || x = '_' || x = '~'
  let opens := a = .other || (a = .punctuation && b ≠ .other) || isMark after
  let closes := b = .other || (b = .punctuation && a ≠ .other) || isMark before
  if marker = '_' then
    ⟨marker, cells, opens && (b ≠ .other || !closes), closes && (a ≠ .other || !opens)⟩
  else ⟨marker, cells, opens, closes⟩

/-- The number of marks. -/
def Run.size (r : Run) : Nat :=
  r.cells.length

/-- The first run opens what the second closes. Where one of them could do both, their sizes must
not add up to a multiple of three unless both are one; strikethrough takes one or two marks and the
same number on both sides. -/
def Run.fits (a b : Run) : Bool :=
  a.opens && a.marker = b.marker &&
    !((a.closes || b.opens) && b.size % 3 ≠ 0 && (a.size + b.size) % 3 = 0) &&
    (a.marker ≠ '~' || (a.size = b.size && b.size ≤ 2))

/-- A run that may still open something, and the pieces after it, last first. -/
structure Pending where
  run : Run
  after : List Piece

/-- The runs that may still open something, innermost first, and the pieces before them all, last
first. -/
structure Pendings where
  runs : List Pending := []
  base : List Piece := []

namespace Pendings

/-- Adds a piece at the end. -/
def push (s : Pendings) (p : Piece) : Pendings :=
  match s.runs with
  | r :: rest => { s with runs := { r with after := p :: r.after } :: rest }
  | [] => { s with base := p :: s.base }

/-- The pieces of runs that open nothing, last first. -/
def flat (runs : List Pending) : List Piece :=
  runs.flatMap fun r => r.after ++ [.data r.run.cells]

/-- The innermost run that the given one closes, with the runs inside and outside it. -/
def find (r : Run) : List Pending → Option (List Pending × Pending × List Pending)
  | [] => none
  | p :: rest =>
    if p.run.fits r then some ([], p, rest)
    else (find r rest).map fun (inner, found, outer) => (p :: inner, found, outer)

/-- What a number of marks makes of the pieces between them. -/
def groupOf (marker : Char) (marks : Nat) : Group :=
  if marker = '~' then .delete else if marks = 1 then .emphasis else .strong

/-- Closes as much as a run can close. Gives what is left of it. -/
def close : Nat → Run → Pendings → Run × Pendings
  | 0, r, s => (r, s)
  | fuel + 1, r, s =>
    if r.cells.isEmpty then (r, s)
    else
      match find r s.runs with
      | none => (r, s)
      | some (inner, found, outer) =>
        let marks := if found.run.size > 1 && r.size > 1 then 2 else 1
        let kept := found.run.cells.take (found.run.size - marks)
        let used := found.run.cells.drop (found.run.size - marks)
        let ends := r.cells.take marks
        let origin : Point := ⟨1, 1⟩
        let span : Span := ⟨Cell.pointOr used origin, endPoint origin ends⟩
        let children := (flat inner ++ found.after).reverse
        let group := Piece.group (groupOf r.marker marks) span children
        let s : Pendings :=
          if kept.isEmpty then { s with runs := outer }.push group
          else
            let rest := { found.run with cells := kept }
            { s with runs := { run := rest, after := [group] } :: outer }
        close fuel { r with cells := r.cells.drop marks } s

/-- Adds a run. -/
def run (s : Pendings) (r : Run) : Pendings :=
  let (r, s) := if r.closes then close r.size r s else (r, s)
  if r.cells.isEmpty then s
  else if r.opens then { s with runs := { run := r, after := [] } :: s.runs }
  else s.push (.data r.cells)

end Pendings

/-- Matches the runs among items. -/
def emphasize (items : List Item) : List Piece :=
  let s := items.foldl (fun (s : Pendings) i =>
    match i with
    | .piece p => s.push p
    | .run r => s.run r) {}
  (Pendings.flat s.runs ++ s.base).reverse

/-! ## White space and mail addresses -/

/-- Joins characters that follow one another. -/
def joinData : List Piece → List Piece
  | [] => []
  | .data a :: rest =>
    match joinData rest with
    | .data b :: more => .data (a ++ b) :: more
    | more => .data a :: more
  | p :: rest => p :: joinData rest

/-- A piece of characters, if there are any. -/
def dataPiece (cells : List Cell) : List Piece :=
  if cells.isEmpty then [] else [.data cells]

/-- Spaces before a line end that stand for a line break: two or more, and no tab. -/
def isHardBreak (spaces : List Cell) : Bool :=
  spaces.length ≥ 2 && spaces.all fun c => c.spelling = [' ']

/-- Drops the spaces around line ends, before the first piece if `fresh` says so, and after the last
if `ends` does. -/
def trimPieces (ends : Bool) : Bool → List Piece → List Piece
  | _, [] => []
  | fresh, .data cells :: rest =>
    let body := Cell.trimRight cells
    let spaces := cells.drop body.length
    let lead := fun (cs : List Cell) => if fresh then Cell.trimLeft cs else cs
    match rest with
    | [] => dataPiece (lead (if ends then body else cells))
    | .newline c :: more =>
      dataPiece (lead body) ++ (if isHardBreak spaces then [.lineBreak] else []) ++
        trimPieces ends false (.newline c :: more)
    | p :: more => dataPiece (lead cells) ++ trimPieces ends false (p :: more)
  | _, .newline c :: rest => .newline c :: trimPieces ends true rest
  | _, p :: rest => p :: trimPieces ends false rest

/-- Finds the mail addresses in a row of characters; `before` holds those since the last address,
last first. -/
def mails : Nat → List Cell → List Cell → List Piece
  | 0, before, cells => dataPiece (before.reverse ++ cells)
  | _, before, [] => dataPiece before.reverse
  | fuel + 1, before, c :: rest =>
    if c.char = '@' then
      match mail? before c rest with
      | some (left, right, address) =>
        dataPiece (before.drop left).reverse ++ .leaf address.node ::
          mails fuel [] (rest.drop right)
      | none => mails fuel (c :: before) rest
    else mails fuel (c :: before) rest

/-- A link, in which there are no other links. -/
def Group.isLink : Group → Bool
  | .link _ => true
  | .linkReference .. => true
  | _ => false

/-- Finds the mail addresses in pieces. -/
def mailPieces : List Piece → List Piece
  | [] => []
  | .data cells :: rest => mails (cells.length + 1) [] cells ++ mailPieces rest
  | p :: rest => p :: mailPieces rest

mutual

/-- Settles white space and addresses inside a piece. -/
def Piece.settle (gfm inLink : Bool) : Piece → Piece
  | .group kind span children =>
    let inside := inLink || kind.isLink
    let pieces := trimPieces false false (joinData (settleAll gfm inside children))
    .group kind span (if gfm && !inside then mailPieces pieces else pieces)
  | p => p

/-- Settles white space and addresses inside pieces. -/
def settleAll (gfm inLink : Bool) : List Piece → List Piece
  | [] => []
  | p :: rest => p.settle gfm inLink :: settleAll gfm inLink rest

end

/-- Settles white space and addresses in the text of a block. -/
def settleText (gfm trims : Bool) (pieces : List Piece) : List Piece :=
  let pieces := trimPieces true trims (joinData (settleAll gfm false pieces))
  if gfm then mailPieces pieces else pieces

end Mdx.Markdown
