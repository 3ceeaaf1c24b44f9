import Mdx.Text.Search

/-!
# Percent encoding

The encoding of a text in an address: letters, digits and a few marks stand for themselves, and
every other byte of the UTF-8 form is written as `%` and two hexadecimal digits. In a component of
an address five more marks stand for themselves; their escapes are replaced by the marks.
-/

namespace Mdx.Text

/-- A byte that stands for itself everywhere in an address. -/
def isUnreserved (byte : UInt8) : Bool :=
  let c := Char.ofNat byte.toNat
  byte < 0x80 && (c.isAlphanum || "-_.~".toList.contains c)

/-- A hexadecimal digit below sixteen, in upper case. -/
def upperHex (n : Nat) : Char :=
  Char.ofNat (if n < 10 then 0x30 + n else 0x37 + n)

/-- The escape of one byte. -/
def percentEscape (byte : UInt8) : List Char :=
  ['%', upperHex (byte.toNat / 16), upperHex (byte.toNat % 16)]

/-- The encoding of one byte. -/
def percentByte (byte : UInt8) : List Char :=
  if isUnreserved byte then [Char.ofNat byte.toNat] else percentEscape byte

/-- The encoding of a text. -/
def percentEncode (s : String) : List Char :=
  s.toUTF8.data.toList.flatMap percentByte

/-- The escapes of the marks that stand for themselves in a component of an address. -/
def componentMarks : List (String × String) :=
  [("%21", "!"), ("%27", "'"), ("%28", "("), ("%29", ")"), ("%2A", "*")]

/-- The encoding of a text as a component of an address. -/
def encodeComponent (s : String) : String :=
  String.ofList (componentMarks.foldl (fun text (escape, mark) =>
    replaceAll escape.toList mark.toList text) (percentEncode s))

end Mdx.Text
