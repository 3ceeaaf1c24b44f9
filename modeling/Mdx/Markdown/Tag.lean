import Mdx.Markdown.Cell
import Mdx.Markdown.Node
import Mdx.Text.Identifier

/-!
# Tags and expressions

Reads a JSX tag or a braced expression from cells. A reader may find that there is none, or that
there is one and it is malformed; the latter is a fault of the document. Readers give their result
and the cells after it.
-/

namespace Mdx.Markdown

/-- Why no more cells follow. -/
inductive Limit where
  /-- The text ends. -/
  | eof (point : Point)
  /-- The next line does not belong to the block that began here. -/
  | outside (point : Point)
  deriving DecidableEq, Repr

/-- What stops a reader. -/
inductive Halt where
  /-- There is no such construct here. -/
  | absent
  | fault (fault : Fault)
  deriving DecidableEq, Repr

/-- A JSX tag. -/
structure Tag where
  span : Span
  name : Option String
  attributes : List Attribute
  /-- The place of the first attribute. -/
  attributeAt : Option Point := none
  /-- The place of the slash of a closing tag. -/
  closing : Option Point := none
  /-- The place of the slash at the end of a tag that closes itself. -/
  selfClosing : Option Point := none
  deriving Repr

/-- The tag without its attributes, as messages show it. -/
def Tag.brief (t : Tag) : String :=
  "<" ++ (if t.closing.isSome then "/" else "") ++ t.name.getD "" ++ ">"

/-! ## Faults -/

/-- The code of a character in four hexadecimal digits or more. -/
def codeText (c : Char) : String :=
  let digits := (Nat.toDigits 16 c.toNat).map Char.toUpper
  "U+" ++ String.ofList (List.replicate (4 - digits.length) '0' ++ digits)

/-- A character as messages show it. -/
def showChar (c : Char) : String :=
  if c.toNat = 0x60 then "\x60\x60 \x60 \x60\x60 (" ++ codeText c ++ ")"
  else if 0x20 ≤ c.toNat && c.toNat ≤ 0x7e then
    "\x60" ++ String.ofList [c] ++ "\x60 (" ++ codeText c ++ ")"
  else codeText c

/-- A line in the middle of a construct does not belong to the block that it began in. -/
def outsideFault (what : String) (p : Point) : Fault :=
  ⟨"Unexpected lazy line in " ++ what ++ " in container, expected line to be prefixed with " ++
    "\x60>\x60 when in a block quote, whitespace when in a list, etc", p⟩

/-- What follows is not what should. -/
def unexpected (limit : Limit) (place wanted : String) : List Cell → Halt
  | c :: _ =>
    .fault ⟨"Unexpected character " ++ showChar c.char ++ " " ++ place ++ ", expected " ++ wanted,
      c.point⟩
  | [] =>
    match limit with
    | .eof p => .fault ⟨"Unexpected end of file " ++ place ++ ", expected " ++ wanted, p⟩
    | .outside p => .fault (outsideFault "jsx" p)

/-! ## Expressions -/

/-- Reads up to the brace that closes an expression; `depth` counts the braces open inside it, and
`lead` how many more spaces of the line are its indentation. -/
def braced (limit : Limit) : Nat → Nat → List Cell → Except Halt (List Cell × List Cell)
  | _, _, [] =>
    match limit with
    | .eof p =>
      throw (.fault ⟨"Unexpected end of file in expression, expected a corresponding closing " ++
        "brace for \x60\x7b\x60", p⟩)
    | .outside p => throw (.fault (outsideFault "expression" p))
  | depth, lead, c :: rest =>
    if c.isNewline then do
      let (inner, after) ← braced limit depth 4 rest
      return (c :: inner, after)
    else if c.isSpace && lead > 0 then braced limit depth (lead - 1) rest
    else if c.char.toNat = 0x7d then
      match depth with
      | 0 => return ([], rest)
      | depth + 1 => do
        let (inner, after) ← braced limit depth 0 rest
        return (c :: inner, after)
    else do
      let (inner, after) ← braced limit (if c.char.toNat = 0x7b then depth + 1 else depth) 0 rest
      return (c :: inner, after)

/-- Reads an expression after its opening brace. -/
def expression (limit : Limit) (cells : List Cell) : Except Halt (String × List Cell) := do
  let (inner, rest) ← braced limit 0 0 cells
  return (Cell.text inner, rest)

/-! ## Tags -/

/-- White space between the parts of a tag. -/
def isTagSpace (c : Cell) : Bool :=
  c.isNewline || Text.isBlank c.char

/-- Skips white space. A tag that the text ends in the middle of is no tag. -/
def skipSpace (limit : Limit) (cells : List Cell) : Except Halt (List Cell) :=
  match cells.dropWhile isTagSpace with
  | [] =>
    match limit with
    | .eof _ => throw .absent
    | .outside p => throw (.fault (outsideFault "jsx" p))
  | rest => return rest

/-- The next character. -/
def nextIs (p : Char → Bool) (cells : List Cell) : Bool :=
  (Cell.head? cells).any p

/-- The next character begins a name. -/
def startsName (cells : List Cell) : Bool :=
  nextIs Text.isNameStart cells

/-- Braces, slash or angle bracket: what can follow a name in a tag. -/
def endsName (c : Char) : Bool :=
  c = '/' || c = '>' || c.toNat = 0x7b

def nameStartWanted : String :=
  "a character that can start a name, such as a letter, \x60$\x60, or \x60_\x60"

def namePartWanted : String :=
  "a name character such as letters, digits, \x60$\x60, or \x60_\x60; whitespace before " ++
    "attributes; or the end of the tag"

def afterNameWanted : String :=
  "a character that can start an attribute name, such as a letter, \x60$\x60, or \x60_\x60; " ++
    "whitespace before attributes; or the end of the tag"

def attributePartWanted : String :=
  "an attribute name character such as letters, digits, \x60$\x60, or \x60_\x60; \x60=\x60 to " ++
    "initialize a value; whitespace before attributes; or the end of the tag"

def afterAttributeWanted : String :=
  "a character that can start an attribute name, such as a letter, \x60$\x60, or \x60_\x60; " ++
    "\x60=\x60 to initialize a value; or the end of the tag"

def valueWanted : String :=
  "a character that can start an attribute value, such as \x60\"\x60, \x60'\x60, or \x60\x7b\x60"

def elementNote : String :=
  " (note: to use an element or fragment as a prop value in MDX, use " ++
    "\x60\x7b<element />\x7d\x60)"

def markupCommentNote : String :=
  " (note: to create a comment in MDX, use \x60\x7b/* text */\x7d\x60)"

def linkNote : String :=
  " (note: to create a link in MDX, use \x60[text](url)\x60)"

def commentNote : String :=
  " (note: JS comments in JSX tags are not supported in MDX)"

/-- A note that is added if the next character is one of the given ones. -/
def noteIf (chars : List Char) (note : String) (cells : List Cell) : String :=
  if nextIs chars.contains cells then note else ""

/-- Reads a part of a name and the white space after it. The part ends before white space, at the
end, or before a character that satisfies `stops`; `place` and `wanted` describe other ends. -/
def namePart (limit : Limit) (stops : Char → Bool) (place : String) (wanted : List Cell → String)
    (cells : List Cell) : Except Halt (String × List Cell) := do
  let part := cells.takeWhile fun c => c.char = '-' || Text.isNamePart c.char
  let rest := cells.drop part.length
  if rest.isEmpty || rest.head?.any isTagSpace || nextIs stops rest then
    return (Cell.text part, ← skipSpace limit rest)
  else throw (unexpected limit place (wanted rest) rest)

/-- Reads the parts of a name that each follow a dot. -/
def members (limit : Limit) : Nat → String → List Cell → Except Halt (String × List Cell)
  | 0, _, _ => throw .absent
  | fuel + 1, name, cells => do
    let cells ← skipSpace limit cells
    if startsName cells then
      let (part, rest) ← namePart limit (fun c => c = '.' || endsName c) "in member name"
        (fun r => namePartWanted ++ noteIf ['@'] linkNote r) cells
      let name := name ++ "." ++ part
      if nextIs (· = '.') rest then members limit fuel name (rest.drop 1)
      else if nextIs endsName rest || startsName rest then return (name, rest)
      else throw (unexpected limit "after member name" afterNameWanted rest)
    else throw (unexpected limit "before member name" afterNameWanted cells)

/-- Reads the part of a name that follows a colon. -/
def localName (limit : Limit) (name : String) (cells : List Cell) :
    Except Halt (String × List Cell) := do
  let cells ← skipSpace limit cells
  if startsName cells then
    let (part, rest) ← namePart limit endsName "in local name"
      (fun r => namePartWanted ++ noteIf ['@'] linkNote r) cells
    if nextIs endsName rest || startsName rest then return (name ++ ":" ++ part, rest)
    else throw (unexpected limit "after local name" afterNameWanted rest)
  else
    throw (unexpected limit "before local name"
      (nameStartWanted ++ noteIf ['+', '/'] linkNote cells) cells)

/-- Reads the name of a tag. -/
def tagName (limit : Limit) (cells : List Cell) : Except Halt (String × List Cell) := do
  let (name, rest) ← namePart limit (fun c => c = '.' || c = ':' || endsName c) "in name"
    (fun r => namePartWanted ++ noteIf ['@'] linkNote r) cells
  if nextIs (· = '.') rest then members limit (rest.length + 1) name (rest.drop 1)
  else if nextIs (· = ':') rest then localName limit name (rest.drop 1)
  else if nextIs endsName rest || startsName rest then return (name, rest)
  else throw (unexpected limit "after name" afterNameWanted rest)

/-- Reads the name of an attribute. -/
def attributeName (limit : Limit) (cells : List Cell) : Except Halt (String × List Cell) := do
  let (name, rest) ← namePart limit (fun c => c = ':' || c = '=' || endsName c)
    "in attribute name" (fun _ => attributePartWanted) cells
  if nextIs (· = ':') rest then
    let rest ← skipSpace limit (rest.drop 1)
    if startsName rest then
      let (part, rest) ← namePart limit (fun c => c = '=' || endsName c)
        "in local attribute name" (fun _ => attributePartWanted) rest
      if nextIs (fun c => c = '=' || endsName c) rest || startsName rest then
        return (name ++ ":" ++ part, rest)
      else throw (unexpected limit "after local attribute name" afterAttributeWanted rest)
    else throw (unexpected limit "before local attribute name" afterAttributeWanted rest)
  else if nextIs (fun c => c = '=' || endsName c) rest || startsName rest then return (name, rest)
  else throw (unexpected limit "after attribute name" afterAttributeWanted rest)

/-- Reads up to a quote. White space after a line end is left out. -/
def quoted (limit : Limit) (quote : Char) (fresh : Bool) :
    List Cell → Except Halt (List Cell × List Cell)
  | [] =>
    match limit, fresh with
    | .eof _, true => throw .absent
    | _, _ => throw (unexpected limit "in attribute value"
        ("a corresponding closing quote " ++ showChar quote) [])
  | c :: rest =>
    if c.isNewline then do
      let (inner, after) ← quoted limit quote true rest
      return (c :: inner, after)
    else if fresh && isTagSpace c then quoted limit quote true rest
    else if c.char = quote then return ([], rest)
    else do
      let (inner, after) ← quoted limit quote false rest
      return (c :: inner, after)

/-- Reads the value of an attribute. -/
def attributeValue (limit : Limit) (cells : List Cell) :
    Except Halt (AttributeValue × List Cell) := do
  let cells ← skipSpace limit cells
  match cells with
  | c :: rest =>
    if c.char = '"' || c.char.toNat = 0x27 then
      let (value, rest) ← quoted limit c.char false rest
      return (.literal (String.ofList (decodeReferences (Cell.chars value))), rest)
    else if c.char.toNat = 0x7b then
      let (source, rest) ← expression limit rest
      return (.expression source, rest)
    else
      throw (unexpected limit "before attribute value"
        (valueWanted ++ noteIf ['<'] elementNote cells) cells)
  | [] => throw .absent

/-- What ends a tag: the place of the slash, if there is one, and the cell of the bracket. -/
structure TagEnd where
  slash : Option Point
  bracket : Cell

/-- Reads attributes up to the end of a tag. -/
def attributes (limit : Limit) : Nat → List Attribute → List Cell →
    Except Halt ((List Attribute × TagEnd) × List Cell)
  | 0, _, _ => throw .absent
  | fuel + 1, read, cells =>
    match cells with
    | [] => throw .absent
    | c :: rest =>
      if c.char = '>' then return ((read.reverse, ⟨none, c⟩), rest)
      else if c.char = '/' then do
        let rest ← skipSpace limit rest
        match rest with
        | b :: after =>
          if b.char = '>' then return ((read.reverse, ⟨some c.point, b⟩), after)
          else
            throw (unexpected limit "after self-closing slash"
              ("\x60>\x60 to end the tag" ++ noteIf ['*', '/'] commentNote rest) rest)
        | [] => throw .absent
      else if c.char.toNat = 0x7b then do
        let (source, rest) ← expression limit rest
        attributes limit fuel (.spread source :: read) (← skipSpace limit rest)
      else if Text.isNameStart c.char then do
        let (name, rest) ← attributeName limit cells
        if nextIs (· = '=') rest then
          let (value, rest) ← attributeValue limit (rest.drop 1)
          attributes limit fuel (.property name (some value) :: read) (← skipSpace limit rest)
        else attributes limit fuel (.property name none :: read) rest
      else throw (unexpected limit "before attribute name" afterNameWanted cells)

/-- Reads a tag that begins with the cell `start`. White space after the bracket makes it no tag. -/
def tag (limit : Limit) (start : Cell) (cells : List Cell) : Except Halt (Tag × List Cell) := do
  if cells.head?.any fun c => c.isSpace || c.isNewline then throw .absent
  else
    let cells ← skipSpace limit cells
    let slash := (cells.head?.filter (·.char = '/')).map (·.point)
    let body ← if slash.isSome then skipSpace limit (cells.drop 1) else pure cells
    let (name, rest) ←
      if nextIs (· = '>') body then pure (none, body)
      else if startsName body then do
        let (name, rest) ← tagName limit body
        pure (some name, rest)
      else
        let note := if slash.isSome then noteIf ['*', '/'] commentNote body
          else noteIf ['!'] markupCommentNote body
        throw (unexpected limit "before name" (nameStartWanted ++ note) body)
    let first := rest.head?.filter fun c => c.char ≠ '>' && c.char ≠ '/'
    let ((list, ending), after) ← attributes limit (rest.length + 1) [] rest
    return ({ span := ⟨start.point, ending.bracket.after⟩, name, attributes := list
              attributeAt := first.map (·.point), closing := slash, selfClosing := ending.slash },
      after)

end Mdx.Markdown
