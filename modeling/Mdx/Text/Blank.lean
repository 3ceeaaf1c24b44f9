/-!
# White space

The white space of Unicode, trimming, and the lines of a text.
-/

namespace Mdx.Text

/-- The character has the Unicode property `White_Space`. -/
def isBlank (c : Char) : Bool :=
  let n := c.toNat
  (0x09 ≤ n && n ≤ 0x0d) || n == 0x20 || n == 0x85 || n == 0xa0 || n == 0x1680
    || (0x2000 ≤ n && n ≤ 0x200a) || n == 0x2028 || n == 0x2029 || n == 0x202f || n == 0x205f
    || n == 0x3000

/-- Drops white space at the start. -/
def trimLeft (s : List Char) : List Char :=
  s.dropWhile isBlank

/-- Drops the characters at the end that satisfy `p`. -/
def dropEndWhile (p : Char → Bool) (s : List Char) : List Char :=
  (s.reverse.dropWhile p).reverse

/-- Drops white space at the end. -/
def trimRight (s : List Char) : List Char :=
  dropEndWhile isBlank s

/-- Drops white space at both ends. -/
def trim (s : List Char) : List Char :=
  trimRight (trimLeft s)

/-- The text without white space at both ends. -/
def trimmed (s : String) : String :=
  String.ofList (trim s.toList)

/-- The text holds nothing but white space. -/
def allBlank (s : String) : Bool :=
  s.toList.all isBlank

/-- Splits after every line feed; the pieces keep it. No piece is empty. -/
def splitLines : List Char → List (List Char)
  | [] => []
  | c :: rest =>
    if c == '\n' then [c] :: splitLines rest
    else
      match splitLines rest with
      | [] => [[c]]
      | line :: more => (c :: line) :: more

/-- A line without its line feed, and without the carriage return in front of that. -/
def chomp (line : List Char) : List Char :=
  match line.reverse with
  | '\n' :: '\r' :: rest => rest.reverse
  | '\n' :: rest => rest.reverse
  | _ => line

/-- The lines of a text, without their line ends. -/
def lines (s : List Char) : List (List Char) :=
  (splitLines s).map chomp

end Mdx.Text
