import Mdx.Decimal
import Mdx.Dict

/-!
# JSON values

Values, their accessors and their compact text. The fields of an object are a dictionary, so every
object is written with its keys in increasing order.
-/

namespace Mdx

/-- A number: an integer of the signed or unsigned 64-bit range, or a double. -/
inductive Json.Number where
  | int (value : Int)
  | float (value : Float)

/-- A JSON value. -/
inductive Json where
  | null
  | bool (value : Bool)
  | num (value : Json.Number)
  | str (value : String)
  | arr (items : List Json)
  | obj (fields : List (String × Json))

namespace Json

instance : Inhabited Json := ⟨.null⟩

/-- An integer value. -/
def ofNat (n : Nat) : Json :=
  .num (.int n)

/-- A double as a value: a number where it is finite, and else null. -/
def ofFloat (x : Float) : Json :=
  if x.isFinite then .num (.float x) else .null

/-- The text of a string value. -/
def str? : Json → Option String
  | .str s => some s
  | _ => none

/-- The fields of an object. -/
def obj? : Json → Option (Dict Json)
  | .obj fields => some fields
  | _ => none

/-- The value of a field of an object. -/
def field? (key : String) : Json → Option Json
  | .obj fields => Dict.get? key fields
  | _ => none

/-! ## Text -/

/-- A hexadecimal digit below sixteen, in lower case. -/
def hexDigit (n : Nat) : Char :=
  Char.ofNat (if n < 10 then 0x30 + n else 0x57 + n)

/-- The escape of one character inside a string. -/
def escapeChar (c : Char) : List Char :=
  if c = '"' then ['\\', '"']
  else if c = '\\' then ['\\', '\\']
  else if c.toNat = 0x08 then ['\\', 'b']
  else if c.toNat = 0x0c then ['\\', 'f']
  else if c = '\n' then ['\\', 'n']
  else if c = '\r' then ['\\', 'r']
  else if c = '\t' then ['\\', 't']
  else if c.toNat < 0x20 then
    ['\\', 'u', '0', '0', hexDigit (c.toNat / 16), hexDigit (c.toNat % 16)]
  else [c]

/-- A string between quotes. -/
def quote (s : String) : List Char :=
  '"' :: (s.toList.flatMap escapeChar ++ ['"'])

/-- Doubles are written with a fraction, and with an exponent from `1e16` up and below `1e-5`. -/
def numberLayout : Decimal.Layout :=
  { tie := .toEven, bounds := some (-5, 16), fraction := true }

/-- The text of a number. -/
def Number.chars : Number → List Char
  | .int value => (if value < 0 then ['-'] else []) ++ Nat.toDigits 10 value.natAbs
  | .float value => (Decimal.text numberLayout value).toList

mutual

/-- The compact text of a value. -/
def chars : Json → List Char
  | .null => ['n', 'u', 'l', 'l']
  | .bool true => ['t', 'r', 'u', 'e']
  | .bool false => ['f', 'a', 'l', 's', 'e']
  | .num n => n.chars
  | .str s => quote s
  | .arr items => '[' :: (itemChars items ++ [']'])
  | .obj fields => '\x7b' :: (fieldChars fields ++ ['\x7d'])

/-- The items of an array, separated by commas. -/
def itemChars : List Json → List Char
  | [] => []
  | [item] => chars item
  | item :: rest => chars item ++ ',' :: itemChars rest

/-- The fields of an object, separated by commas. -/
def fieldChars : List (String × Json) → List Char
  | [] => []
  | [(key, value)] => quote key ++ ':' :: chars value
  | (key, value) :: rest => quote key ++ ':' :: (chars value ++ ',' :: fieldChars rest)

end

/-- The compact text of a value. -/
def text (value : Json) : String :=
  String.ofList value.chars

/-- A string literal. -/
def quoted (s : String) : String :=
  String.ofList (quote s)

end Json

end Mdx
