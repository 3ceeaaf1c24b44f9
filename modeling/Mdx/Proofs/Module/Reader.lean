import Mdx.Json.Spelling
import Mdx.Module.Binding
import Mdx.Module.Expr

/-!
# A reader of element expressions

Reads the expression of a generated module back from its text: calls with a reference, an object of
props, position and children, and literals. It knows nothing of the tree or of the names the module
binds. A prop whose source was kept as a string is read as that string, since the text is the same.
-/

namespace Mdx.Module.Reader

open Text (after?)

/-- A string literal. -/
def string? : List Char → Option (String × List Char)
  | '"' :: rest =>
    match Json.Spelling.string? rest with
    | some (some s, rest) => some (s, rest)
    | _ => none
  | _ => none

/-- A JSON literal of any depth. -/
def literal? (s : List Char) : Option (Json × List Char) :=
  match Json.Spelling.value s.length s with
  | some (spelling, rest) => (spelling.value? s.length).map fun v => (v, rest)
  | none => none

/-- The value of a prop: a file to be loaded or a literal. -/
def value? (s : List Char) : Option (PropValue × List Char) :=
  match after? "require(".toList s with
  | some rest =>
    match string? rest with
    | some (path, ')' :: rest) => some (.localAsset path, rest)
    | _ => none
  | none => (literal? s).map fun (v, rest) => (.literal v, rest)

/-- A character of a name with dots. -/
def isDottedChar (c : Char) : Bool :=
  isNameChar c || c = '.'

/-- A reference: a look-up, or a name. -/
def reference? (s : List Char) : Option (Reference × List Char) :=
  let name := s.takeWhile isDottedChar
  let rest := s.dropWhile isDottedChar
  match after? "(components, ".toList rest with
  | some rest =>
    match string? rest with
    | some (key, ')' :: rest) =>
      if name = "_builtinComponent".toList then some (.builtin key, rest)
      else if name = "_customComponent".toList then some (.custom key, rest)
      else none
    | _ => none
  | none => if name.isEmpty then none else some (.bound (String.ofList name), rest)

/-- Props, each with a comma after it, up to the first key that is not quoted. -/
def props? : Nat → List Char → Option (List (String × PropValue) × List Char)
  | 0, _ => none
  | fuel + 1, s =>
    match string? s with
    | none => some ([], s)
    | some (key, rest) =>
      match after? ": ".toList rest with
      | none => none
      | some rest =>
        match value? rest with
        | none => none
        | some (value, rest) =>
          match after? ", ".toList rest with
          | none => none
          | some rest => (props? fuel rest).map fun (more, rest) => ((key, value) :: more, rest)

/-- A truth value. -/
def bool? (s : List Char) : Option (Bool × List Char) :=
  match after? "true".toList s with
  | some rest => some (true, rest)
  | none => (after? "false".toList s).map fun rest => (false, rest)

/-- A number in decimal digits. -/
def natural? (s : List Char) : Option (Nat × List Char) :=
  match s.takeWhile Char.isDigit with
  | [] => none
  | digits => some (Nat.ofDigitChars 10 digits 0, s.dropWhile Char.isDigit)

/-- The entries that describe a position, the first of which passes the components on. -/
def order? (s : List Char) : Option (Order × List Char) := do
  let s ← after? "components: components, index: ".toList s
  let (index, s) ← natural? s
  let s ← after? ", firstChild: ".toList s
  let (firstChild, s) ← bool? s
  let s ← after? ", lastChild: ".toList s
  let (lastChild, s) ← bool? s
  let s ← after? ", firstOfType: ".toList s
  let (firstOfType, s) ← bool? s
  let s ← after? ", prevSiblingName: ".toList s
  let (prevSiblingName, s) ← string? s
  return (⟨index, firstChild, lastChild, firstOfType, prevSiblingName⟩, s)

/-- The function that is called; the flag says that it takes an array of children. -/
def callee? (s : List Char) : Option (Bool × List Char) :=
  match after? "_jsx(".toList s with
  | some rest => some (false, rest)
  | none => (after? "_jsxs(".toList s).map fun rest => (true, rest)

/-- A call up to its children. -/
structure Head where
  /-- The children are given as an array. -/
  many : Bool
  reference : Reference
  props : List (String × PropValue)
  order : Option Order

/-- The host library's fragment has no position, other components do. -/
def settle (reference : Reference) (order : Option Order) : Reference :=
  if order.isNone && reference = .bound "_Fragment" then .fragment else reference

/-- The start of a call, with the comma that stands between position and children. -/
def head? (s : List Char) : Option (Head × List Char) := do
  let (many, s) ← callee? s
  let (reference, s) ← reference? s
  let s ← after? ", \x7b".toList s
  let (props, s) ← props? (s.length + 1) s
  match order? s with
  | some (order, s) =>
    return (⟨many, reference, props, some order⟩, (after? ", ".toList s).getD s)
  | none => return (⟨many, settle reference none, props, none⟩, s)

mutual

/-- An expression at the start of a text, and the rest. -/
def expr? : Nat → List Char → Option (Expr × List Char)
  | 0, _ => none
  | fuel + 1, s =>
    match string? s with
    | some (value, rest) => some (.text value, rest)
    | none =>
      match head? s with
      | none => none
      | some (head, rest) =>
        match children? fuel head.many rest with
        | none => none
        | some (children, rest) =>
          (after? "\x7d)".toList rest).map fun rest =>
            (.call head.reference head.props head.order children, rest)

/-- The children of a call: none, one, or an array. -/
def children? : Nat → Bool → List Char → Option (List Expr × List Char)
  | 0, _, _ => none
  | fuel + 1, many, s =>
    match after? "children: ".toList s with
    | none => if many then none else some ([], s)
    | some rest =>
      if many then
        match rest with
        | '[' :: rest => row? fuel rest
        | _ => none
      else (expr? fuel rest).map fun (child, rest) => ([child], rest)

/-- One or more expressions, up to the closing bracket. -/
def row? : Nat → List Char → Option (List Expr × List Char)
  | 0, _ => none
  | fuel + 1, s =>
    match expr? fuel s with
    | none => none
    | some (child, ']' :: rest) => some ([child], rest)
    | some (child, rest) =>
      match after? ", ".toList rest with
      | none => none
      | some rest => (row? fuel rest).map fun (more, rest) => (child :: more, rest)

end

/-- The expression at the start of a text, and the rest. -/
def read? (s : List Char) : Option (Expr × List Char) :=
  expr? s.length s

end Mdx.Module.Reader
