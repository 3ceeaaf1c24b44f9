import Mdx.Json.Basic

/-!
# Reading JSON numbers

The spelling of a number and the value it stands for. A spelling without fraction and exponent is
an integer where it fits into 64 bits. Everything else is the double nearest to the first nineteen
or so digits, multiplied or divided by a power of ten; a result beyond the doubles is no value.
-/

namespace Mdx.Json.Number

/-- A number as spelled: sign, whole digits, fraction digits, and the exponent's sign and digits. -/
structure Numeral where
  negative : Bool
  whole : List Char
  fraction : Option (List Char)
  exponent : Option (Bool × List Char)

/-- The longest run of digits at the start, and the rest. -/
def spanDigits (s : List Char) : List Char × List Char :=
  (s.takeWhile Char.isDigit, s.dropWhile Char.isDigit)

/-- Whole digits: a lone zero, or digits that do not begin with zero. -/
def whole? (s : List Char) : Option (List Char × List Char) :=
  match spanDigits s with
  | ([], _) => none
  | ('0' :: _ :: _, _) => none
  | (digits, rest) => some (digits, rest)

/-- An optional point with at least one digit after it. -/
def fraction? (s : List Char) : Option (Option (List Char) × List Char) :=
  match s with
  | '.' :: rest =>
    match spanDigits rest with
    | ([], _) => none
    | (digits, rest) => some (some digits, rest)
  | _ => some (none, s)

/-- An optional exponent. -/
def exponent? (s : List Char) : Option (Option (Bool × List Char) × List Char) :=
  match s with
  | e :: rest =>
    if e = 'e' || e = 'E' then
      let (negative, rest) :=
        match rest with
        | '-' :: rest => (true, rest)
        | '+' :: rest => (false, rest)
        | _ => (false, rest)
      match spanDigits rest with
      | ([], _) => none
      | (digits, rest) => some (some (negative, digits), rest)
    else some (none, s)
  | [] => some (none, [])

/-- The numeral at the start of a text. -/
def numeral? (s : List Char) : Option (Numeral × List Char) := do
  let (negative, s) :=
    match s with
    | '-' :: rest => (true, rest)
    | _ => (false, s)
  let (whole, s) ← whole? s
  let (fraction, s) ← fraction? s
  let (exponent, s) ← exponent? s
  return (⟨negative, whole, fraction, exponent⟩, s)

/-- Reads digits into `start` for as long as the result fits into 64 bits; gives the result and the
digits left over. -/
def accumulate (start : Nat) : List Char → Nat × List Char
  | [] => (start, [])
  | c :: rest =>
    let next := start * 10 + (c.toNat - 0x30)
    if next < 0x10000000000000000 then accumulate next rest else (start, c :: rest)

/-- The double `significand · 10 ^ exponent`, by one multiplication or by divisions through powers
of ten up to `10 ^ 308`; none when it is too large. -/
def scale (fuel : Nat) (value : Float) (exponent : Int) : Option Float :=
  if exponent.natAbs ≤ 308 then
    let power := Float.ofScientific 1 false exponent.natAbs
    if exponent ≥ 0 then
      let product := value * power
      if product.isInf then none else some product
    else some (value / power)
  else if value == 0 then some value
  else if exponent ≥ 0 then none
  else
    match fuel with
    | 0 => some 0
    | fuel + 1 => scale fuel (value / Float.ofScientific 1 false 308) (exponent + 308)

/-- The double of a significand and a power of ten. -/
def double? (negative : Bool) (significand : Nat) (exponent : Int) : Option Number :=
  (scale 4 significand.toUInt64.toFloat exponent).map fun x =>
    .float (if negative then -x else x)

/-- The double of a significand, a power of ten and a spelled exponent. An exponent of more than
31 bits makes zero, or is too large. -/
def withExponent? (negative : Bool) (significand : Nat) (shift : Int) :
    Option (Bool × List Char) → Option Number
  | none => double? negative significand shift
  | some (down, digits) =>
    let e := Nat.ofDigitChars 10 digits 0
    if e < 0x80000000 then double? negative significand (if down then shift - e else shift + e)
    else if significand != 0 && !down then none
    else some (.float (if negative then -0.0 else 0.0))

/-- The value of a numeral. -/
def Numeral.value? (n : Numeral) : Option Number :=
  let (significand, left) := accumulate 0 n.whole
  match n.fraction, n.exponent, left with
  | none, none, [] =>
    if !n.negative then some (.int significand)
    else if significand == 0 || significand > 0x8000000000000000 then
      some (.float (-significand.toUInt64.toFloat))
    else some (.int (-significand))
  | fraction, exponent, left =>
    let digits := fraction.getD []
    let (significand, unread) := accumulate significand digits
    let shift : Int := left.length - (digits.length - unread.length : Nat)
    withExponent? n.negative significand shift exponent

end Mdx.Json.Number
