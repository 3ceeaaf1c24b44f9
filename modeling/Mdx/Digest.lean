/-!
# Digests

A digest of bytes in 64 bits: SipHash under the key zero, with one round for each word of eight
bytes and three at the end.
-/

namespace Mdx

/-- The four words that bytes are mixed into. -/
structure Digest where
  a : UInt64 := 0x736f6d6570736575
  b : UInt64 := 0x646f72616e646f6d
  c : UInt64 := 0x6c7967656e657261
  d : UInt64 := 0x7465646279746573

namespace Digest

/-- A word turned to the left. -/
def rotate (word count : UInt64) : UInt64 :=
  word <<< count ||| word >>> (64 - count)

def round (s : Digest) : Digest :=
  let a := s.a + s.b
  let b := rotate s.b 13 ^^^ a
  let c := s.c + s.d
  let d := rotate s.d 16 ^^^ c
  let a := rotate a 32 + d
  let c := c + b
  { a := a, b := rotate b 17 ^^^ c, c := rotate c 32, d := rotate d 21 ^^^ a }

/-- Mixes in one word. -/
def absorb (s : Digest) (word : UInt64) : Digest :=
  let s := { s with d := s.d ^^^ word }.round
  { s with a := s.a ^^^ word }

/-- A word of at most eight bytes, the lowest first. -/
def word (bytes : List UInt8) : UInt64 :=
  bytes.foldr (fun byte word => word <<< 8 ||| byte.toUInt64) 0

/-- The words of bytes. The last one has fewer than eight of them, and the length on top. -/
def words (length : UInt64) : List UInt8 → List UInt64
  | b₀ :: b₁ :: b₂ :: b₃ :: b₄ :: b₅ :: b₆ :: b₇ :: rest =>
    word [b₀, b₁, b₂, b₃, b₄, b₅, b₆, b₇] :: words length rest
  | rest => [word rest ||| length <<< 56]

/-- The digest of bytes. -/
def ofBytes (bytes : List UInt8) : UInt64 :=
  let s := (words (UInt64.ofNat bytes.length) bytes).foldl absorb {}
  let s := { s with c := s.c ^^^ 0xff }.round.round.round
  s.a ^^^ s.b ^^^ s.c ^^^ s.d

end Digest

end Mdx
