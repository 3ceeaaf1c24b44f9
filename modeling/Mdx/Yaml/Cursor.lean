import Mdx.Text.Search

/-!
# Cursors

A place in a YAML text: what is still to be read, and where it stands. Lines and columns count
from zero.
-/

namespace Mdx.Yaml

/-- A place in a text. -/
structure Cursor where
  rest : List Char
  index : Nat := 0
  line : Nat := 0
  column : Nat := 0

/-- A space or a tab. -/
def isBlank (c : Char) : Bool :=
  c = ' ' || c = '\t'

/-- A character that ends a line. -/
def isBreak (c : Char) : Bool :=
  c = '\n' || c = '\r' || c.toNat = 0x85 || c.toNat = 0x2028 || c.toNat = 0x2029

/-- A letter, digit, hyphen or underscore of ASCII. -/
def isWord (c : Char) : Bool :=
  c.isAlphanum || c = '-' || c = '_'

/-- There is no character, or it is blank or ends a line. -/
def endsWord : Option Char → Bool
  | some c => isBlank c || isBreak c
  | none => true

/-- There is no character, or it ends a line. -/
def endsLine : Option Char → Bool
  | some c => isBreak c
  | none => true

namespace Cursor

/-- The next character. -/
def peek (c : Cursor) : Option Char :=
  c.rest.head?

/-- The character `n` places ahead. -/
def peekAt (c : Cursor) (n : Nat) : Option Char :=
  c.rest[n]?

/-- The next character is `x`. -/
def at? (c : Cursor) (x : Char) : Bool :=
  c.peek == some x

/-- The next character satisfies `p`. -/
def nextIs (c : Cursor) (p : Char → Bool) : Bool :=
  c.peek.any p

/-- Goes forward in the line. -/
def skip (c : Cursor) (n : Nat) : Cursor :=
  { c with rest := c.rest.drop n, index := c.index + n, column := c.column + n }

/-- Goes forward by one character. -/
def next (c : Cursor) : Cursor :=
  c.skip 1

/-- Reads the characters that satisfy `p`. -/
def readWhile (c : Cursor) (p : Char → Bool) : List Char × Cursor :=
  let taken := c.rest.takeWhile p
  (taken, c.skip taken.length)

/-- Skips the characters that satisfy `p`. -/
def skipWhile (c : Cursor) (p : Char → Bool) : Cursor :=
  (c.readWhile p).2

/-- Goes to the next line after reading `n` characters. -/
def newline (c : Cursor) (n : Nat) : Cursor :=
  { rest := c.rest.drop n, index := c.index + n, line := c.line + 1, column := 0 }

/-- Reads a line end, if there is one. The usual ones are all read as a line feed. -/
def readBreak (c : Cursor) : List Char × Cursor :=
  match c.rest with
  | '\r' :: '\n' :: _ => (['\n'], c.newline 2)
  | x :: _ =>
    if x = '\n' || x = '\r' || x.toNat = 0x85 then (['\n'], c.newline 1)
    else if isBreak x then ([x], c.newline 1)
    else ([], c)
  | [] => ([], c)

/-- Skips a line end, if there is one. -/
def skipBreak (c : Cursor) : Cursor :=
  c.readBreak.2

/-- Skips a comment, if there is one. -/
def skipComment (c : Cursor) : Cursor :=
  if c.at? '#' then c.skipWhile (!isBreak ·) else c

/-- A line that begins with three of the given characters and no more of the word. -/
def atMarker (c : Cursor) (x : Char) : Bool :=
  c.column = 0 && Text.begins [x, x, x] c.rest && endsWord (c.peekAt 3)

/-- The start or the end of a document. -/
def atDocumentMarker (c : Cursor) : Bool :=
  c.atMarker '-' || c.atMarker '.'

end Cursor

end Mdx.Yaml
