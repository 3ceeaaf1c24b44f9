/-!
# Searching texts

Prefixes, first and last occurrences, and splitting, over lists of characters.
-/

namespace Mdx.Text

/-- The rest of `s` after `start`, when `s` begins with it. -/
def after? : (start s : List Char) → Option (List Char)
  | [], s => some s
  | _ :: _, [] => none
  | p :: ps, c :: cs => if p = c then after? ps cs else none

/-- `s` begins with `start`. -/
def begins (start s : List Char) : Bool :=
  (after? start s).isSome

/-- The parts of `s` before and after the first occurrence of `mark`. -/
def cut? (mark : List Char) : List Char → Option (List Char × List Char)
  | [] => if mark.isEmpty then some ([], []) else none
  | c :: cs =>
    match after? mark (c :: cs) with
    | some rest => some ([], rest)
    | none => (cut? mark cs).map fun (before, rest) => (c :: before, rest)

/-- The parts of `s` before and after the last occurrence of `mark`. -/
def cutLast? (mark s : List Char) : Option (List Char × List Char) :=
  (cut? mark.reverse s.reverse).map fun (rest, before) => (before.reverse, rest.reverse)

/-- `s` with `new` in place of every occurrence of `mark`, which is not empty, from left to right;
`skip` more characters belong to the occurrence before. -/
def replaceFrom (mark new : List Char) : (skip : Nat) → List Char → List Char
  | _, [] => []
  | skip + 1, _ :: cs => replaceFrom mark new skip cs
  | 0, c :: cs =>
    if begins mark (c :: cs) then new ++ replaceFrom mark new (mark.length - 1) cs
    else c :: replaceFrom mark new 0 cs

/-- `s` with `new` in place of every occurrence of `mark`, which is not empty. -/
def replaceAll (mark new s : List Char) : List Char :=
  replaceFrom mark new 0 s

/-- The pieces of `s` between the characters that satisfy `p`; there is always one more piece than
there are separators. -/
def splitAt (p : Char → Bool) : List Char → List (List Char)
  | [] => [[]]
  | c :: cs =>
    if p c then [] :: splitAt p cs
    else
      match splitAt p cs with
      | [] => [[c]]
      | piece :: more => (c :: piece) :: more

/-- The text after `start`, when `s` begins with it. -/
def afterPrefix? (start s : String) : Option String :=
  (after? start.toList s.toList).map String.ofList

/-- `s` begins with `start`. -/
def hasPrefix (start s : String) : Bool :=
  begins start.toList s.toList

/-- `s` ends with `tail`. -/
def hasSuffix (tail s : String) : Bool :=
  begins tail.toList.reverse s.toList.reverse

end Mdx.Text
