import Mdx.Json.Spelling
import Mdx.Yaml.Cursor

/-!
# Scalars

The four ways to write a scalar: plain, between single or double quotes, and as a block of lines
that is kept or folded. Each reader gives the text and the place after it; a malformed scalar is
none.
-/

namespace Mdx.Yaml

/-- How a scalar is written, as far as that matters for its meaning. -/
inductive Style where
  | plain
  | quoted
  deriving DecidableEq, Repr

/-! ## Folding -/

/-- White space between the words of a scalar: blanks of one line, or line ends. -/
structure Gap where
  blanks : List Char := []
  /-- The first line end, where there is one. -/
  lead : List Char := []
  /-- The line ends after the first. -/
  more : List Char := []
  /-- The gap reaches into another line. -/
  broken : Bool := false

/-- What a gap stands for: one line end is a space, further ones are kept. -/
def Gap.text (g : Gap) : List Char :=
  if g.broken then
    match g.lead with
    | '\n' :: _ => if g.more.isEmpty then [' '] else g.more
    | lead => lead ++ g.more
  else g.blanks

/-- Reads blanks and line ends. A tab at the start of a line must not stand before the column
`indent`. -/
def gap (indent : Nat) : Nat → Gap → Cursor → Option (Gap × Cursor)
  | 0, g, c => some (g, c)
  | fuel + 1, g, c =>
    match c.peek with
    | some x =>
      if isBlank x then
        if g.broken && c.column < indent && x = '\t' then none
        else
          gap indent fuel (if g.broken then g else { g with blanks := g.blanks ++ [x] }) c.next
      else if isBreak x then
        let (ending, c) := c.readBreak
        if g.broken then gap indent fuel { g with more := g.more ++ ending } c
        else gap indent fuel { lead := ending, broken := true } c
      else some (g, c)
    | none => some (g, c)

/-! ## Plain scalars -/

/-- The brackets, braces and commas of flow collections. -/
def isFlowIndicator (c : Char) : Bool :=
  c = ',' || c = '[' || c = ']' || c.toNat = 0x7b || c.toNat = 0x7d

/-- Reads a word of a plain scalar. Inside flow collections a colon must not stand directly before
an indicator. -/
def plainWord (inFlow : Bool) : List Char → Option (List Char)
  | [] => some []
  | x :: rest =>
    let next := rest.head?
    if isBlank x || isBreak x then some []
    else if x = ':' && endsWord next then some []
    else if inFlow && x = ':' && next.any (fun n => isFlowIndicator n || n = '?') then none
    else if inFlow && isFlowIndicator x then some []
    else (plainWord inFlow rest).map (x :: ·)

/-- A scalar that was read: its text, the place after it, and whether it ended in a new line. -/
structure Scanned where
  text : List Char
  cursor : Cursor
  broken : Bool := false

/-- Reads the words of a plain scalar that continues at the column `indent` or after it. -/
def plainWords (inFlow : Bool) (indent : Nat) : Nat → List Char → Gap → Cursor → Option Scanned
  | 0, text, g, c => some ⟨text, c, g.broken⟩
  | fuel + 1, text, g, c =>
    if c.atDocumentMarker || c.at? '#' then some ⟨text, c, g.broken⟩
    else do
      let word ← plainWord inFlow c.rest
      let text := if word.isEmpty then text else text ++ g.text ++ word
      let g := if word.isEmpty then g else {}
      let c := c.skip word.length
      if c.nextIs (fun x => isBlank x || isBreak x) then
        let (g, c) ← gap indent (c.rest.length + 1) g c
        if !inFlow && c.column < indent then some ⟨text, c, g.broken⟩
        else plainWords inFlow indent fuel text g c
      else some ⟨text, c, g.broken⟩

/-- Reads a plain scalar. -/
def plainScalar (inFlow : Bool) (indent : Nat) (c : Cursor) : Option Scanned :=
  plainWords inFlow indent (c.rest.length + 1) [] {} c

/-! ## Quoted scalars -/

/-- The character of a one-letter escape. -/
def escape? (c : Char) : Option Char :=
  match c with
  | '0' => some (Char.ofNat 0x00)
  | 'a' => some (Char.ofNat 0x07)
  | 'b' => some (Char.ofNat 0x08)
  | 't' => some '\t'
  | '\t' => some '\t'
  | 'n' => some '\n'
  | 'v' => some (Char.ofNat 0x0b)
  | 'f' => some (Char.ofNat 0x0c)
  | 'r' => some '\r'
  | 'e' => some (Char.ofNat 0x1b)
  | ' ' => some ' '
  | '"' => some '"'
  | '/' => some '/'
  | '\\' => some '\\'
  | 'N' => some (Char.ofNat 0x85)
  | '_' => some (Char.ofNat 0xa0)
  | 'L' => some (Char.ofNat 0x2028)
  | 'P' => some (Char.ofNat 0x2029)
  | _ => none

/-- How many hexadecimal digits follow the letter of an escape. -/
def escapeDigits (c : Char) : Nat :=
  if c = 'x' then 2 else if c = 'u' then 4 else if c = 'U' then 8 else 0

/-- The character with the code that the given digits spell. -/
def hexChar? (digits : List Char) : Option Char := do
  let value ← digits.foldlM (fun acc d => (Json.Spelling.hex? d).map (acc * 16 + ·)) 0
  if (0xd800 ≤ value && value ≤ 0xdfff) || value > 0x10ffff then none
  else some (Char.ofNat value)

/-- Reads the words of a quoted scalar up to its closing quote. `broken` says that the scalar just
went on after an escaped line end. -/
def quotedText (quote : Char) : Nat → List Char → Cursor → Option Scanned
  | 0, _, _ => none
  | fuel + 1, text, c =>
    if c.atDocumentMarker then none
    else
      match c.rest with
      | [] => none
      | x :: rest =>
        if x = quote then
          if quote = '"' then some ⟨text, c.next, false⟩
          else if rest.head? = some quote then quotedText quote fuel (text ++ [quote]) (c.skip 2)
          else some ⟨text, c.next, false⟩
        else if isBlank x || isBreak x then do
          let (g, c) ← gap 0 (c.rest.length + 1) {} c
          quotedText quote fuel (text ++ g.text) c
        else if quote = '"' && x = '\\' then
          match rest with
          | [] => none
          | e :: after =>
            if isBreak e then do
              let (g, c) ← gap 0 (c.rest.length + 1) { broken := true } c.next.skipBreak
              quotedText quote fuel (text ++ g.text) c
            else if escapeDigits e = 0 then do
              let ch ← escape? e
              quotedText quote fuel (text ++ [ch]) (c.skip 2)
            else do
              let digits := after.take (escapeDigits e)
              if digits.length < escapeDigits e then none
              else
                let ch ← hexChar? digits
                quotedText quote fuel (text ++ [ch]) (c.skip (2 + escapeDigits e))
        else quotedText quote fuel (text ++ [x]) c.next

/-- Reads a scalar after its opening quote. -/
def quotedScalar (quote : Char) (c : Cursor) : Option Scanned :=
  quotedText quote (c.rest.length + 1) [] c.next

/-! ## Block scalars -/

/-- What becomes of the line ends after a block. -/
inductive Chomp where
  | strip
  | clip
  | keep
  deriving DecidableEq, Repr

/-- The indicator for the line ends after a block. -/
def chomp? (c : Cursor) : Option Chomp :=
  if c.at? '+' then some .keep else if c.at? '-' then some .strip else none

/-- The indicator for the indentation of a block; none if it is malformed. -/
def increment? (c : Cursor) : Option (Nat × Cursor) :=
  match c.peek with
  | some d =>
    if d.isDigit then if d = '0' then none else some (d.toNat - 0x30, c.next) else some (0, c)
  | none => some (0, c)

/-- Reads the indicators of a block, in either order. -/
def blockHeader (c : Cursor) : Option (Chomp × Nat × Cursor) :=
  match chomp? c with
  | some chomp => (increment? c.next).map fun (n, c) => (chomp, n, c)
  | none =>
    (increment? c).map fun (n, d) =>
      if n = 0 then (.clip, 0, d)
      else
        match chomp? d with
        | some chomp => (chomp, n, d.next)
        | none => (.clip, n, d)

/-- Reads empty lines and the indentation of the line after them. With `indent` zero the
indentation is not known, and all spaces are read; `deepest` is the largest column seen. -/
def blockBreaks (indent : Nat) : Nat → Nat → List Char → Cursor → Option (List Char × Nat × Cursor)
  | 0, deepest, ends, c => some (ends, deepest, c)
  | fuel + 1, deepest, ends, c =>
    let spaces := (c.rest.takeWhile (· = ' ')).length
    let c := c.skip (if indent = 0 then spaces else min spaces (indent - c.column))
    let deepest := max deepest c.column
    if (indent = 0 || c.column < indent) && c.at? '\t' then none
    else if c.nextIs isBreak then
      let (ending, c) := c.readBreak
      blockBreaks indent fuel deepest (ends ++ ending) c
    else some (ends, deepest, c)

/-- What a block scalar has gathered so far. -/
structure Block where
  text : List Char := []
  /-- The end of the last line. -/
  lead : List Char := []
  /-- The empty lines after it. -/
  more : List Char := []
  /-- The last line began with white space. -/
  leadBlank : Bool := false

/-- Reads the lines of a block. -/
def blockLines (folded : Bool) (indent : Nat) : Nat → Block → Cursor → Option (Block × Cursor)
  | 0, b, c => some (b, c)
  | fuel + 1, b, c =>
    if c.column = indent && !c.rest.isEmpty then do
      let blank := c.nextIs isBlank
      let joined :=
        if folded && b.lead.head? = some '\n' && !b.leadBlank && !blank then
          if b.more.isEmpty then [' '] else []
        else b.lead
      let (line, c) := c.readWhile (!isBreak ·)
      let (ending, c) := c.readBreak
      let (ends, _, c) ← blockBreaks indent (c.rest.length + 1) 0 [] c
      blockLines folded indent fuel
        { text := b.text ++ joined ++ b.more ++ line
          lead := ending
          more := ends
          leadBlank := blank } c
    else some (b, c)

/-- Reads a block scalar inside a collection of the given indentation, which is negative at the
top. -/
def blockScalar (folded : Bool) (parent : Int) (c : Cursor) : Option Scanned := do
  let (chomp, increment, c) ← blockHeader c.next
  let c := (c.skipWhile isBlank).skipComment
  if !endsLine c.peek then none
  else
    let c := c.skipBreak
    let indent := if increment = 0 then 0 else (max parent 0).toNat + increment
    let (ends, deepest, c) ← blockBreaks indent (c.rest.length + 1) 0 [] c
    let indent := if indent = 0 then max (max deepest (parent + 1).toNat) 1 else indent
    let (b, c) ← blockLines folded indent (c.rest.length + 1) { more := ends } c
    let tail :=
      match chomp with
      | .strip => []
      | .clip => b.lead
      | .keep => b.lead ++ b.more
    return ⟨b.text ++ tail, c, false⟩

end Mdx.Yaml
