import Mdx.Yaml.Scalar

/-!
# Tokens

The tokens of a YAML text. Indentation is made explicit: a block collection is opened by a token
of its own and closed by `blockEnd`, and the key of a mapping is announced by `key` even where the
text shows it only by the colon after it.
-/

namespace Mdx.Yaml

/-- A token. -/
inductive Token where
  | version (major minor : Nat)
  | tagDirective (handle root : String)
  | documentStart
  | documentEnd
  | blockSequence
  | blockMapping
  | blockEnd
  | flowSequence
  | flowSequenceEnd
  | flowMapping
  | flowMappingEnd
  | flowEntry
  | blockEntry
  | key
  | value
  | alias (name : String)
  | anchor (name : String)
  | tag (handle suffix : String)
  | scalar (text : String) (style : Style)
  deriving DecidableEq, Repr

/-! ## Tags and directives -/

/-- Characters of a tag. Between angle brackets, commas and square brackets are allowed too. -/
def isTagChar (verbatim : Bool) (c : Char) : Bool :=
  isWord c || (";/?:@&=+$.%!~*()".toList.contains c) || c.toNat = 0x27 ||
    (verbatim && (c = ',' || c = '[' || c = ']'))

/-- How many bytes of the encoding the first one announces. -/
def byteCount? (first : Nat) : Option Nat :=
  if first < 0x80 then some 1
  else if first / 0x20 = 0x6 then some 2
  else if first / 0x10 = 0xe then some 3
  else if first / 0x8 = 0x1e then some 4
  else none

/-- One byte written with a percent sign and two digits. -/
def percentByte? : List Char → Option Nat
  | '%' :: a :: b :: _ => do return (← Json.Spelling.hex? a) * 16 + (← Json.Spelling.hex? b)
  | _ => none

/-- A character whose encoding is written in percent signs, and how many bytes it has. -/
def percentChar? (text : List Char) : Option (Char × Nat) := do
  let first ← percentByte? text
  let count ← byteCount? first
  let lead := if count = 1 then first else first % Nat.pow 2 (7 - count)
  let value ← (List.range (count - 1)).foldlM
    (fun acc i => do
      let byte ← percentByte? (text.drop (3 * (i + 1)))
      if byte / 0x40 = 2 then some (acc * 0x40 + byte % 0x40) else none)
    lead
  if value.isValidChar then some (Char.ofNat value, count) else none

/-- Reads the characters of a tag, none if an escape in it is malformed. -/
def tagText (verbatim : Bool) : Nat → List Char → Cursor → Option (List Char × Cursor)
  | 0, text, c => some (text, c)
  | fuel + 1, text, c =>
    match c.peek with
    | some '%' => do
      let (x, count) ← percentChar? c.rest
      tagText verbatim fuel (text ++ [x]) (c.skip (3 * count))
    | some x =>
      if isTagChar verbatim x then tagText verbatim fuel (text ++ [x]) c.next else some (text, c)
    | none => some (text, c)

/-- Reads the characters of a tag. -/
def tagChars (verbatim : Bool) (c : Cursor) : Option (List Char × Cursor) :=
  tagText verbatim (c.rest.length + 1) [] c

/-- Reads a handle: an exclamation mark, and a name closed by another one if there is such. -/
def tagHandle (c : Cursor) : Option (List Char × Cursor) :=
  if c.at? '!' then
    let (name, d) := c.next.readWhile isWord
    if d.at? '!' then some ('!' :: name ++ ['!'], d.next) else some ('!' :: name, d)
  else none

/-- Reads a tag. A tag that has no named handle has the handle `!`; the lone `!` has none. -/
def tagToken (inFlow : Bool) (c : Cursor) : Option (Token × Cursor) := do
  let (handle, suffix, c) ←
    if c.peekAt 1 = some '<' then do
      let (text, c) ← tagChars true (c.skip 2)
      if text.isEmpty || !c.at? '>' then none else some ([], text, c.next)
    else do
      let (handle, c) ← tagHandle c
      let (text, c) ← tagChars false c
      if handle.length > 1 && handle.getLast? = some '!' then
        if text.isEmpty then none else some (handle, text, c)
      else if handle.tail.isEmpty && text.isEmpty then some ([], ['!'], c)
      else some (['!'], handle.tail ++ text, c)
  if endsWord c.peek || (inFlow && c.at? ',') then
    some (.tag (String.ofList handle) (String.ofList suffix), c)
  else none

/-- Reads a number of a version, of at most nine digits. -/
def versionNumber (c : Cursor) : Option (Nat × Cursor) :=
  let (digits, c) := c.readWhile Char.isDigit
  if digits.isEmpty || digits.length > 9 then none
  else some (Nat.ofDigitChars 10 digits 0, c)

/-- Reads a directive, up to the end of its line. -/
def directive (c : Cursor) : Option (Token × Cursor) := do
  let (name, c) := c.next.readWhile isWord
  if name.isEmpty || !endsWord c.peek then none
  else
    let c := c.skipWhile isBlank
    let (token, c) ←
      if name = "YAML".toList then do
        let (major, c) ← versionNumber c
        if c.at? '.' then
          let (minor, c) ← versionNumber c.next
          some (Token.version major minor, c)
        else none
      else if name = "TAG".toList then do
        let (handle, c) ← tagHandle c
        if (handle.length > 1 && handle.getLast? ≠ some '!') || !c.nextIs isBlank then none
        else
          let (root, c) ← tagChars true (c.skipWhile isBlank)
          if root.isEmpty || !endsWord c.peek then none
          else some (Token.tagDirective (String.ofList handle) (String.ofList root), c)
      else none
    let c := (c.skipWhile isBlank).skipComment
    if endsLine c.peek then some (token, c.skipBreak) else none

/-- A mark that may follow the name of an anchor or alias directly. -/
def followsAnchor (c : Char) : Bool :=
  "?:,]%@".toList.contains c || c.toNat = 0x7d || c.toNat = 0x60

/-- Reads the name of an anchor or alias after its mark. -/
def anchorName (c : Cursor) : Option (String × Cursor) :=
  let (name, c) := c.next.readWhile isWord
  if name.isEmpty then none
  else if endsWord c.peek || c.nextIs followsAnchor then some (String.ofList name, c)
  else none

/-! ## Scanning -/

/-- A place where the key of a mapping may begin, which only the colon after it will tell. -/
structure KeyStart where
  /-- The number of tokens before it. -/
  token : Nat
  index : Nat
  line : Nat
  column : Nat
  /-- At this place of a block mapping nothing but a key can stand. -/
  required : Bool

/-- What has been scanned, and what is open. -/
structure Scan where
  cursor : Cursor
  tokens : Array Token := #[]
  /-- The column of the innermost block collection, negative outside all of them. -/
  indent : Int := -1
  /-- The columns of the collections around it. -/
  outer : List Int := []
  /-- The possible key at each level of flow collections, innermost first. -/
  keys : List (Option KeyStart) := [none]
  /-- A key may begin here. -/
  keyAllowed : Bool := true

namespace Scan

/-- Inside a flow collection. -/
def inFlow (s : Scan) : Bool :=
  s.keys.length > 1

/-- Adds a token. -/
def push (s : Scan) (t : Token) : Scan :=
  { s with tokens := s.tokens.push t }

/-- Adds a token and goes on behind it. -/
def emit (s : Scan) (t : Token) (c : Cursor) : Scan :=
  { s.push t with cursor := c }

/-- Puts a token in front of the token number `n`. -/
def insert (s : Scan) (n : Nat) (t : Token) : Scan :=
  { s with tokens := s.tokens.insertIdxIfInBounds n t }

/-- Says whether a key may begin here. -/
def allowKey (s : Scan) (b : Bool) : Scan :=
  { s with keyAllowed := b }

/-- Opens a block collection at a column deeper than the current one, in front of the token
number `n`. -/
def roll (s : Scan) (column : Nat) (n : Nat) (t : Token) : Scan :=
  if !s.inFlow && s.indent < column then
    { s with outer := s.indent :: s.outer, indent := column }.insert n t
  else s

/-- Closes the block collections that are deeper than a column. -/
def unrollTo (column : Int) : List Int → Scan → Scan
  | [], s => s
  | o :: outer, s =>
    if s.indent > column then
      unrollTo column outer ({ s with indent := o, outer := outer }.push .blockEnd)
    else s

/-- Closes the block collections that are deeper than a column. -/
def unroll (s : Scan) (column : Int) : Scan :=
  if s.inFlow then s else unrollTo column s.outer s

/-- Gives up the possible key of this level; none if it was required. -/
def dropKey (s : Scan) : Option Scan :=
  match s.keys with
  | some k :: keys => if k.required then none else some { s with keys := none :: keys }
  | _ => some s

/-- Notes that a key may begin here. -/
def saveKey (s : Scan) : Option Scan :=
  if s.keyAllowed then do
    let s ← s.dropKey
    let k : KeyStart :=
      { token := s.tokens.size, index := s.cursor.index, line := s.cursor.line
        column := s.cursor.column, required := !s.inFlow && s.indent = s.cursor.column }
    return { s with keys := some k :: s.keys.tail }
  else some s

/-- A key lies within one line and has at most 1024 characters. -/
def isStale (s : Scan) (k : KeyStart) : Bool :=
  k.line < s.cursor.line || k.index + 1024 < s.cursor.index

/-- Gives up the possible keys that have become too long; none if one was required. -/
def dropStale (s : Scan) : Option Scan := do
  let keys ← s.keys.mapM fun
    | some k => if s.isStale k then if k.required then none else some none else some (some k)
    | none => some none
  return { s with keys }

/-- Skips white space, comments and line ends up to the next token. -/
def skipBlanks : Nat → Scan → Scan
  | 0, s => s
  | fuel + 1, s =>
    let c := s.cursor
    let c := if c.column = 0 && c.nextIs (·.toNat = 0xfeff) then c.next else c
    let tabs := s.inFlow || !s.keyAllowed
    let c := (c.skipWhile fun x => x = ' ' || (tabs && x = '\t')).skipComment
    if c.nextIs isBreak then
      skipBlanks fuel { s with cursor := c.skipBreak, keyAllowed := s.keyAllowed || !s.inFlow }
    else { s with cursor := c }

/-- Closes everything that is open and forbids a key: what every directive and every document
marker does first. -/
def closeAll (s : Scan) : Option Scan :=
  ((s.unroll (-1)).dropKey).map (·.allowKey false)

/-- A scalar, an alias, an anchor or a tag: it may be a key or stand before one. -/
def word (s : Scan) (read : Scan → Option (Token × Cursor × Bool)) : Option Scan := do
  let s ← s.saveKey
  let (t, c, broken) ← read s
  return (s.emit t c).allowKey broken

/-- Reads a quoted scalar. -/
def quoted (quote : Char) (s : Scan) : Option (Token × Cursor × Bool) :=
  (quotedScalar quote s.cursor).map fun r =>
    (.scalar (String.ofList r.text) .quoted, r.cursor, false)

/-- Reads a plain scalar. -/
def plain (s : Scan) : Option (Token × Cursor × Bool) :=
  (plainScalar s.inFlow (s.indent + 1).toNat s.cursor).map fun r =>
    (.scalar (String.ofList r.text) .plain, r.cursor, r.broken)

/-- Reads a block scalar. -/
def block (s : Scan) (folded : Bool) : Option Scan := do
  let s ← s.dropKey
  let r ← blockScalar folded s.indent s.cursor
  return (s.emit (.scalar (String.ofList r.text) .quoted) r.cursor).allowKey true

/-- Opens a flow collection. -/
def openFlow (s : Scan) (t : Token) : Option Scan := do
  let s ← s.saveKey
  return ({ s with keys := none :: s.keys }.emit t s.cursor.next).allowKey true

/-- Closes a flow collection. -/
def closeFlow (s : Scan) (t : Token) : Option Scan := do
  let s ← s.dropKey
  let keys := if s.inFlow then s.keys.tail else s.keys
  return ({ s with keys }.emit t s.cursor.next).allowKey false

/-- A comma between the entries of a flow collection. -/
def flowEntry (s : Scan) : Option Scan := do
  let s ← s.dropKey
  return (s.emit .flowEntry s.cursor.next).allowKey true

/-- A hyphen before an entry of a block sequence. -/
def blockEntry (s : Scan) : Option Scan := do
  if !s.inFlow && !s.keyAllowed then none
  else
    let s ← (s.roll s.cursor.column s.tokens.size .blockSequence).dropKey
    return (s.emit .blockEntry s.cursor.next).allowKey true

/-- A question mark before a key. -/
def key (s : Scan) : Option Scan := do
  if !s.inFlow && !s.keyAllowed then none
  else
    let s ← (s.roll s.cursor.column s.tokens.size .blockMapping).dropKey
    return (s.emit .key s.cursor.next).allowKey !s.inFlow

/-- A colon before a value. It makes a key of what stood before it, if that can be one. -/
def value (s : Scan) : Option Scan :=
  match s.keys with
  | some k :: keys =>
    let s := { s with keys := none :: keys }.insert k.token .key
    let s := s.roll k.column k.token .blockMapping
    some ((s.emit .value s.cursor.next).allowKey false)
  | _ =>
    if !s.inFlow && !s.keyAllowed then none
    else
      let s := s.roll s.cursor.column s.tokens.size .blockMapping
      some ((s.emit .value s.cursor.next).allowKey !s.inFlow)

/-- Reads an anchor or an alias. -/
def named (make : String → Token) (s : Scan) : Option (Token × Cursor × Bool) :=
  (anchorName s.cursor).map fun (name, c) => (make name, c, false)

/-- Reads a tag. -/
def tag (s : Scan) : Option (Token × Cursor × Bool) :=
  (tagToken s.inFlow s.cursor).map fun (t, c) => (t, c, false)

/-- Characters that cannot begin a plain scalar. -/
def isIndicator (c : Char) : Bool :=
  "-?:,[]#&*!|>\"%@".toList.contains c || c.toNat = 0x7b || c.toNat = 0x7d || c.toNat = 0x27 ||
    c.toNat = 0x60

/-- A plain scalar may begin here. A hyphen, question mark or colon may begin one if the word goes
on. -/
def plainStarts (s : Scan) (x : Char) : Bool :=
  let next := s.cursor.peekAt 1
  !(isBlank x || isBreak x || isIndicator x) || (x = '-' && !next.any isBlank) ||
    (!s.inFlow && (x = '?' || x = ':') && !endsWord next)

/-- Reads the token that begins with the character `x`. -/
def token (s : Scan) (x : Char) : Option Scan :=
  let c := s.cursor
  let wordEnds := endsWord (c.peekAt 1)
  if c.column = 0 && x = '%' then do
    let s ← s.closeAll
    let (t, c) ← directive s.cursor
    return s.emit t c
  else if c.atMarker '-' then s.closeAll.map fun s => s.emit .documentStart (c.skip 3)
  else if c.atMarker '.' then s.closeAll.map fun s => s.emit .documentEnd (c.skip 3)
  else if x = '[' then s.openFlow .flowSequence
  else if x.toNat = 0x7b then s.openFlow .flowMapping
  else if x = ']' then s.closeFlow .flowSequenceEnd
  else if x.toNat = 0x7d then s.closeFlow .flowMappingEnd
  else if x = ',' then s.flowEntry
  else if x = '-' && wordEnds then s.blockEntry
  else if x = '?' && (s.inFlow || wordEnds) then s.key
  else if x = ':' && (s.inFlow || wordEnds) then s.value
  else if x = '*' then s.word (named .alias)
  else if x = '&' then s.word (named .anchor)
  else if x = '!' then s.word tag
  else if x = '|' && !s.inFlow then s.block false
  else if x = '>' && !s.inFlow then s.block true
  else if x.toNat = 0x27 then s.word (quoted (Char.ofNat 0x27))
  else if x = '"' then s.word (quoted '"')
  else if s.plainStarts x then s.word plain
  else none

/-- Ends the text: everything that is open is closed. -/
def finish (s : Scan) : Option (List Token) :=
  s.closeAll.map (·.tokens.toList)

/-- Scans token by token. -/
def run : Nat → Scan → Option (List Token)
  | 0, _ => none
  | fuel + 1, s => do
    let s ← (skipBlanks (s.cursor.rest.length + 1) s).dropStale
    let s := s.unroll s.cursor.column
    match s.cursor.peek with
    | none => s.finish
    | some x => run fuel (← s.token x)

end Scan

/-- Characters that may stand in a YAML text. -/
def isPrintable (c : Char) : Bool :=
  let n := c.toNat
  n = 0x09 || n = 0x0a || n = 0x0d || (0x20 ≤ n && n ≤ 0x7e) || n = 0x85 ||
    (0xa0 ≤ n && n ≤ 0xfffd) || 0x10000 ≤ n

/-- The tokens of a text; none if it is malformed. A byte order mark at its start is skipped. -/
def Token.scan (text : List Char) : Option (List Token) :=
  let text := match text with
    | c :: rest => if c.toNat = 0xfeff then rest else c :: rest
    | [] => []
  if text.all isPrintable then Scan.run (text.length + 2) { cursor := { rest := text } } else none

end Mdx.Yaml
