import Mdx.Decimal
import Mdx.Json.Number
import Mdx.Yaml.Node

/-!
# Values

What a YAML document means: scalars are resolved to numbers, truth values or text, aliases are
replaced by what they stand for, and the result is turned into a JSON value.
-/

namespace Mdx.Yaml

/-- A YAML value. -/
inductive Value where
  | null
  | bool (b : Bool)
  | int (n : Int)
  | float (x : Float)
  | text (s : String)
  | sequence (items : List Value)
  | mapping (entries : List (Value × Value))
  | tagged (tag : String) (value : Value)

/-! ## Equality of keys -/

mutual

/-- Equal as keys of a mapping. All numbers that are no numbers count as one. -/
def Value.same : Value → Value → Bool
  | .null, .null => true
  | .bool a, .bool b => a = b
  | .int a, .int b => a = b
  | .float a, .float b => a == b || (a.isNaN && b.isNaN)
  | .text a, .text b => a = b
  | .sequence a, .sequence b => sameItems a b
  | .mapping a, .mapping b => a.length = b.length && sameEntries a b
  | .tagged t a, .tagged u b => t = u && a.same b
  | _, _ => false

/-- Equal item by item. -/
def sameItems : List Value → List Value → Bool
  | [], [] => true
  | a :: as, b :: bs => a.same b && sameItems as bs
  | _, _ => false

/-- Every entry of the first mapping is one of the second, in any order. -/
def sameEntries : List (Value × Value) → List (Value × Value) → Bool
  | [], _ => true
  | (k, v) :: rest, bs => hasEntry k v bs && sameEntries rest bs

/-- The mapping has the given entry. -/
def hasEntry (k v : Value) : List (Value × Value) → Bool
  | [] => false
  | (a, b) :: rest => (k.same a && v.same b) || hasEntry k v rest

end

/-- A mapping in which two entries have the same key is refused. -/
def distinctKeys : List (Value × Value) → Bool
  | [] => true
  | (k, _) :: rest => !rest.any (fun e => k.same e.1) && distinctKeys rest

/-! ## Scalars -/

/-- What is found in a text that may be an integer. -/
inductive Whole where
  /-- It is one, and small enough. -/
  | found (n : Int)
  /-- It is one that needs more than 64 bits and no more than 128. -/
  | wide
  /-- It is none, or needs more than 128 bits. -/
  | no

/-- The integers of 64 bits, with or without sign, are kept. Those of 128 bits are refused. -/
def Whole.ofInt (n : Int) : Whole :=
  if -0x8000000000000000 ≤ n && n < 0x10000000000000000 then .found n
  else if -0x80000000000000000000000000000000 ≤ n && n < 0x100000000000000000000000000000000 then
    .wide
  else .no

/-- The value of a digit in a base of up to sixteen. -/
def digit? (base : Nat) (c : Char) : Option Nat :=
  (Json.Spelling.hex? c).filter (· < base)

/-- The number that digits of a base spell; there must be one. -/
def digits? (base : Nat) (cs : List Char) : Option Nat :=
  if cs.isEmpty then none else cs.foldlM (fun acc c => (digit? base c).map (acc * base + ·)) 0

/-- A number of several digits that begins with a zero is text. -/
def zeroPadded (cs : List Char) : Bool :=
  let ds := match cs with
    | '-' :: r => r
    | '+' :: r => r
    | r => r
  match ds with
  | '0' :: d :: r => (d :: r).all Char.isDigit
  | _ => false

/-- The digits of a number without sign, with the base that its beginning gives. -/
def based? : List Char → Option Nat
  | '0' :: 'x' :: r => digits? 16 r
  | '0' :: 'o' :: r => digits? 8 r
  | '0' :: 'b' :: r => digits? 2 r
  | cs => digits? 10 cs

/-- Reads an integer. -/
def whole (cs : List Char) : Whole :=
  if zeroPadded cs then .no
  else
    let n : Option Int := match cs with
      | '-' :: r => (based? r).map fun n => -(n : Int)
      | '+' :: r => (based? r).map Int.ofNat
      | r => (based? r).map Int.ofNat
    match n with
    | some n => .ofInt n
    | none => .no

/-- Drops the sign of a number, and tells whether it was a minus. -/
def unsigned : List Char → Bool × List Char
  | '-' :: r => (true, r)
  | '+' :: r => (false, r)
  | r => (false, r)

/-- The exponent of a number. -/
def exponent? : List Char → Option Int
  | [] => some 0
  | e :: r =>
    if e = 'e' || e = 'E' then
      let (negative, ds) := unsigned r
      (digits? 10 ds).map fun n => if negative then -(n : Int) else n
    else none

/-- The number with the given digits and the given power of ten. -/
def scientific (mantissa : Nat) (exponent : Int) : Float :=
  if mantissa = 0 then 0
  else
    let size := (Nat.toDigits 10 mantissa).length + exponent
    if size > 400 then 1.0 / 0.0
    else if size < -400 then 0
    else Float.ofScientific mantissa (exponent < 0) exponent.natAbs

/-- Reads a decimal number. -/
def decimal? (cs : List Char) : Option Float := do
  let (negative, cs) := unsigned cs
  let before := cs.takeWhile Char.isDigit
  let rest := cs.dropWhile Char.isDigit
  let (after, rest) := match rest with
    | '.' :: r => (r.takeWhile Char.isDigit, r.dropWhile Char.isDigit)
    | r => ([], r)
  let mantissa ← digits? 10 (before ++ after)
  let exponent ← exponent? rest
  let x := scientific mantissa (exponent - after.length)
  return if negative then -x else x

/-- Reads a number that need not be whole; the infinities have names of their own. -/
def float? (s : String) : Option Float :=
  let body := if s.startsWith "+" then (s.drop 1).toString else s
  if [".inf", ".Inf", ".INF"].contains body then some (1.0 / 0.0)
  else if ["-.inf", "-.Inf", "-.INF"].contains s then some (-1.0 / 0.0)
  else if [".nan", ".NaN", ".NAN"].contains s then some (0.0 / 0.0)
  else (decimal? s.toList).filter (·.isFinite)

/-- Reads a truth value. -/
def bool? (s : String) : Option Bool :=
  if ["true", "True", "TRUE"].contains s then some true
  else if ["false", "False", "FALSE"].contains s then some false
  else none

/-- The texts that mean nothing. -/
def isNull (s : String) : Bool :=
  ["null", "Null", "NULL", "~"].contains s

/-- What a plain scalar means. -/
def resolve (s : String) : Option Value :=
  if s.isEmpty || isNull s then some .null
  else
    match bool? s with
    | some b => some (.bool b)
    | none =>
      match whole s.toList with
      | .found n => some (.int n)
      | .wide => none
      | .no =>
        if zeroPadded s.toList then some (.text s)
        else
          match float? s with
          | some x => some (.float x)
          | none => some (.text s)

/-- What a scalar with a tag of the standard means. -/
def resolveAs (tag s : String) : Option Value :=
  if tag = "tag:yaml.org,2002:bool" then (bool? s).map .bool
  else if tag = "tag:yaml.org,2002:int" then
    match whole s.toList with
    | .found n => some (.int n)
    | _ => none
  else if tag = "tag:yaml.org,2002:float" then (float? s).map .float
  else if tag = "tag:yaml.org,2002:null" then if isNull s then some .null else none
  else some (.text s)

/-- What an untagged scalar means. -/
def scalarValue (s : String) : Style → Option Value
  | .plain => resolve s
  | .quoted => some (.text s)

/-! ## Following aliases -/

/-- The name of a local tag, with its mark. The lone mark is a name of its own. -/
def localTag? (tag : Option String) : Option String :=
  (tag.filter (·.startsWith "!")).map fun t => if t = "!" then "!!" else t

mutual

/-- The nodes that have an anchor, in the order of the text. -/
def Node.anchored : Node → List (Nat × Node)
  | .alias _ => []
  | .scalar p s style => anchorOf p (.scalar p s style)
  | .sequence p items => anchorOf p (.sequence p items) ++ anchoredItems items
  | .mapping p entries => anchorOf p (.mapping p entries) ++ anchoredEntries entries
where
  /-- The anchor of one node. -/
  anchorOf (p : Props) (n : Node) : List (Nat × Node) :=
    match p.anchor with
    | some a => [(a, n)]
    | none => []

/-- The nodes with an anchor in the items of a sequence. -/
def anchoredItems : List Node → List (Nat × Node)
  | [] => []
  | n :: rest => n.anchored ++ anchoredItems rest

/-- The nodes with an anchor in the entries of a mapping. -/
def anchoredEntries : List (Node × Node) → List (Nat × Node)
  | [] => []
  | (k, v) :: rest => k.anchored ++ v.anchored ++ anchoredEntries rest

end

mutual

/-- How large a node is; a collection counts at its start and at its end. -/
def Node.size : Node → Nat
  | .alias _ => 1
  | .scalar .. => 1
  | .sequence _ items => 2 + sizeItems items
  | .mapping _ entries => 2 + sizeEntries entries

/-- The size of the items of a sequence. -/
def sizeItems : List Node → Nat
  | [] => 0
  | n :: rest => n.size + sizeItems rest

/-- The size of the entries of a mapping. -/
def sizeEntries : List (Node × Node) → Nat
  | [] => 0
  | (k, v) :: rest => k.size + v.size + sizeEntries rest

end

/-- What aliases stand for, and how many may still be followed. -/
abbrev Expansion := StateT Nat Option

/-- Follows an alias. -/
def follow (anchors : List (Nat × Node)) : Node → Expansion Node
  | .alias a => do
    match ← get with
    | 0 => failure
    | left + 1 =>
      set left
      anchors.lookup a
  | n => return n

/-- Marks a value with its local tag, if it has one. -/
def withTag (p : Props) (v : Value) : Value :=
  match localTag? p.tag with
  | some t => .tagged t v
  | none => v

/-- The value of a node. The first argument is one more than the depth to which collections may
still be nested, and `anchors` holds what each alias stands for. -/
def Node.value (anchors : List (Nat × Node)) : Nat → Node → Expansion Value
  | 0, _ => failure
  | depth + 1, n => do
    match ← follow anchors n with
    | .alias _ => failure
    | .scalar p s style =>
      match p.tag with
      | none => scalarValue s style
      | some t =>
        if (localTag? (some t)).isSome then return withTag p (← scalarValue s style)
        else resolveAs t s
    | .sequence p items =>
      if depth = 0 then failure
      else return withTag p (.sequence (← items.mapM (Node.value anchors depth)))
    | .mapping p entries =>
      if depth = 0 then failure
      else
        let entries ← entries.mapM fun (k, v) => do
          return (← Node.value anchors depth k, ← Node.value anchors depth v)
        if distinctKeys entries then return withTag p (.mapping entries) else failure

/-- The greatest depth to which collections may be nested. -/
def maxDepth : Nat :=
  128

/-- How many aliases may be followed for each part of a document. -/
def aliasesPerPart : Nat :=
  100

/-- The value of a text that holds one document; none if it is malformed. -/
def Value.read? (text : List Char) : Option Value := do
  match ← Node.ofTokens? (← Token.scan text) with
  | none => return .null
  | some n => (n.value n.anchored.reverse (maxDepth + 1)).run' (n.size * aliasesPerPart)

/-! ## JSON -/

/-- The text of a key. -/
def Value.keyText? : Value → Option String
  | .text s => some s
  | .bool b => some (if b then "true" else "false")
  | .int n => some (Json.num (.int n)).text
  | .float x => if x.isFinite then some (Json.num (.float x)).text else none
  | _ => none

mutual

/-- The JSON value; none if a key has no text. Numbers that JSON cannot write are null. -/
def Value.json? : Value → Option Json
  | .null => some .null
  | .bool b => some (.bool b)
  | .int n => some (.num (.int n))
  | .float x => some (.ofFloat x)
  | .text s => some (.str s)
  | .sequence items => (jsonItems? items).map .arr
  | .mapping entries => (jsonEntries? entries).map fun fields => .obj (Dict.ofList fields)
  | .tagged t v => v.json?.map fun j => .obj (Dict.ofList [(t, j)])

/-- The items of an array. -/
def jsonItems? : List Value → Option (List Json)
  | [] => some []
  | v :: rest => do return (← v.json?) :: (← jsonItems? rest)

/-- The fields of an object. -/
def jsonEntries? : List (Value × Value) → Option (List (String × Json))
  | [] => some []
  | (k, v) :: rest => do
    let key ← k.keyText?
    let value ← v.json?
    return (key, value) :: (← jsonEntries? rest)

end

/-- Reads a YAML text as a JSON value. -/
def read? (text : String) : Option Json := do
  (← Value.read? text.toList).json?

end Mdx.Yaml
