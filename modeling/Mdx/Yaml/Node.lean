import Mdx.Yaml.Token

/-!
# Nodes

The tree that the tokens of a YAML document describe, before scalars are given a meaning and
aliases are followed.
-/

namespace Mdx.Yaml

/-- What may be said of a node besides its content. -/
structure Props where
  anchor : Option Nat := none
  tag : Option String := none
  deriving Repr

/-- A node of a document. An alias has the number of the anchor it stands for. -/
inductive Node where
  | alias (anchor : Nat)
  | scalar (props : Props) (text : String) (style : Style)
  | sequence (props : Props) (items : List Node)
  | mapping (props : Props) (entries : List (Node × Node))

/-- A node with no content. -/
def Node.empty : Node :=
  .scalar {} "" .plain

/-! ## Reading tokens -/

/-- What is left to read, the numbers of the anchors seen, and the tags that directives define. -/
structure Reading where
  tokens : List Token
  anchors : List (String × Nat) := []
  roots : List (String × String) := []

/-- A reader of tokens, which may fail. -/
abbrev Reader := StateT Reading Option

namespace Reader

/-- The next token. -/
def peek : Reader (Option Token) := do
  return (← get).tokens.head?

/-- Goes past a token. -/
def advance : Reader Unit :=
  modify fun r => { r with tokens := r.tokens.tail }

/-- Goes past the given token if it is next. -/
def skip? (t : Token) : Reader Bool := do
  if (← peek) = some t then
    advance
    return true
  else return false

/-- One of the given tokens is next, or the tokens are at their end. -/
def stops (ts : List Token) : Reader Bool := do
  match ← peek with
  | some t => return ts.contains t
  | none => return true

/-- Gives an anchor the next number: how many names there are so far. -/
def bind (name : String) : Reader Nat := do
  let r ← get
  let n := r.anchors.length
  set { r with anchors := (name, n) :: r.anchors.filter (·.1 ≠ name) }
  return n

/-- The number of an anchor that has been bound. -/
def lookup (name : String) : Reader Nat := do
  (← get).anchors.lookup name

/-- The full tag that a handle and a suffix stand for. -/
def fullTag (handle suffix : String) : Reader String := do
  if handle.isEmpty then return suffix
  else return (← (← get).roots.lookup handle) ++ suffix

/-- Reads an anchor, if there is one. -/
def anchor? : Reader (Option Nat) := do
  match ← peek with
  | some (.anchor name) =>
    advance
    return some (← bind name)
  | _ => return none

/-- Reads a tag, if there is one. -/
def tag? : Reader (Option String) := do
  match ← peek with
  | some (.tag handle suffix) =>
    advance
    return some (← fullTag handle suffix)
  | _ => return none

/-- Reads an anchor and a tag in either order. -/
def props : Reader Props := do
  match ← anchor? with
  | some n => return { anchor := some n, tag := ← tag? }
  | none =>
    match ← tag? with
    | some t => return { anchor := ← anchor?, tag := some t }
    | none => return {}

end Reader

open Reader

/-- The lone `!` says nothing of a scalar that is written out. -/
def Props.ofScalar (p : Props) : Props :=
  if p.tag = some "!" then { p with tag := none } else p

mutual

/-- Reads a node. Block collections are allowed only outside flow collections, and a sequence that
is not indented only as a key or a value of a mapping. -/
def node (inBlock flush : Bool) : Nat → Reader Node
  | 0 => failure
  | fuel + 1 => do
    match ← peek with
    | some (.alias name) =>
      advance
      return .alias (← lookup name)
    | _ =>
      let p ← props
      match ← peek with
      | some .blockEntry =>
        if flush then return .sequence p (← flushItems fuel)
        else bare p
      | some (.scalar text style) =>
        advance
        return .scalar p.ofScalar text style
      | some .flowSequence =>
        advance
        return .sequence p (← flowItems true fuel)
      | some .flowMapping =>
        advance
        return .mapping p (← flowEntries true fuel)
      | some .blockSequence =>
        if inBlock then
          advance
          return .sequence p (← blockItems fuel)
        else bare p
      | some .blockMapping =>
        if inBlock then
          advance
          return .mapping p (← blockEntries fuel)
        else bare p
      | _ => bare p
where
  /-- A node that has only an anchor or a tag. -/
  bare (p : Props) : Reader Node :=
    if p.anchor.isSome || p.tag.isSome then return .scalar p "" .plain else failure

/-- Reads a node, or an empty one if one of the given tokens is next. -/
def nodeUnless (ts : List Token) (inBlock flush : Bool) : Nat → Reader Node
  | 0 => failure
  | fuel + 1 => do
    if ← stops ts then return .empty else node inBlock flush fuel

/-- Reads the items of a block sequence and its end. -/
def blockItems : Nat → Reader (List Node)
  | 0 => failure
  | fuel + 1 => do
    if ← skip? .blockEntry then
      let item ← nodeUnless [.blockEntry, .blockEnd] true false fuel
      return item :: (← blockItems fuel)
    else if ← skip? .blockEnd then return []
    else failure

/-- Reads the items of a sequence that is not indented. -/
def flushItems : Nat → Reader (List Node)
  | 0 => failure
  | fuel + 1 => do
    if ← skip? .blockEntry then
      let item ← nodeUnless [.blockEntry, .key, .value, .blockEnd] true false fuel
      return item :: (← flushItems fuel)
    else return []

/-- Reads the entries of a block mapping and its end. -/
def blockEntries : Nat → Reader (List (Node × Node))
  | 0 => failure
  | fuel + 1 => do
    if ← skip? .key then
      let key ← nodeUnless [.key, .value, .blockEnd] true true fuel
      let value ←
        if ← skip? .value then nodeUnless [.key, .value, .blockEnd] true true fuel
        else pure .empty
      return (key, value) :: (← blockEntries fuel)
    else if ← skip? .blockEnd then return []
    else failure

/-- Reads the items of a flow sequence and its end. An item may be a single entry of a mapping. -/
def flowItems (first : Bool) : Nat → Reader (List Node)
  | 0 => failure
  | fuel + 1 => do
    if ← skip? .flowSequenceEnd then return []
    else
      if !first && !(← skip? .flowEntry) then failure
      else if ← skip? .key then
        let key ←
          if ← stops [.value, .flowEntry, .flowSequenceEnd] then
            advance
            pure .empty
          else node false false fuel
        let value ←
          if ← skip? .value then nodeUnless [.flowEntry, .flowSequenceEnd] false false fuel
          else pure .empty
        return .mapping {} [(key, value)] :: (← flowItems false fuel)
      else if ← skip? .flowSequenceEnd then return []
      else
        let item ← node false false fuel
        return item :: (← flowItems false fuel)

/-- Reads the entries of a flow mapping and its end. -/
def flowEntries (first : Bool) : Nat → Reader (List (Node × Node))
  | 0 => failure
  | fuel + 1 => do
    if ← skip? .flowMappingEnd then return []
    else
      if !first && !(← skip? .flowEntry) then failure
      else if ← skip? .key then
        let key ← nodeUnless [.value, .flowEntry, .flowMappingEnd] false false fuel
        let value ←
          if ← skip? .value then nodeUnless [.flowEntry, .flowMappingEnd] false false fuel
          else pure .empty
        return (key, value) :: (← flowEntries false fuel)
      else if ← skip? .flowMappingEnd then return []
      else
        let key ← node false false fuel
        return (key, .empty) :: (← flowEntries false fuel)

end

/-! ## Documents -/

/-- The tags that hold without directives. -/
def defaultRoots : List (String × String) :=
  [("!", "!"), ("!!", "tag:yaml.org,2002:")]

/-- Reads the directives of a document. There is at most one version, of the known ones, and at
most one directive for each handle. -/
def directives : List Token → Bool → List (String × String) →
    Option (List (String × String) × List Token)
  | .version major minor :: rest, versioned, roots =>
    if versioned || major ≠ 1 || (minor ≠ 1 && minor ≠ 2) then none
    else directives rest true roots
  | .tagDirective handle root :: rest, versioned, roots =>
    if (roots.lookup handle).isSome then none
    else directives rest versioned ((handle, root) :: roots)
  | tokens, _, roots => some (roots, tokens)

/-- Tokens that can follow the start of a document that has no content. -/
def endsDocument : Option Token → Bool
  | some (.version ..) => true
  | some (.tagDirective ..) => true
  | some .documentStart => true
  | some .documentEnd => true
  | some _ => false
  | none => true

/-- Reads the content of a document. -/
def content (explicit : Bool) (fuel : Nat) : Reader Node := do
  if explicit && endsDocument (← peek) then return .empty else node true false fuel

/-- The node of the only document that the tokens hold. The inner value is none if there is no
document; the outer one if there is more than one, or it is malformed. -/
def Node.ofTokens? (tokens : List Token) : Option (Option Node) := do
  if tokens.isEmpty then return none
  else
    let (roots, rest) ← directives tokens false []
    let start : Reading := { tokens := rest, roots := roots ++ defaultRoots }
    let fuel := 3 * tokens.length + 3
    let (n, after) ←
      if rest.head? = some .documentStart then
        (content true fuel).run { start with tokens := rest.tail }
      else if rest.length < tokens.length then none
      else (content false fuel).run start
    if after.tokens.all (· = .documentEnd) then return some n else none

end Mdx.Yaml
