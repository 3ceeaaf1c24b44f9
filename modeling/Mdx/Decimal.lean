/-!
# Decimal texts of binary fractions

A finite double is `m · 2 ^ q`. `Decimal.shortest` gives the fewest decimal digits that read back as
the same double, in exact arithmetic: on the grids of 1, 2, … 17 digits it looks at the two
neighbours of the value and takes the first that lies in the interval of reals rounding to it.
-/

namespace Mdx

/-- The decimal `0.d₁d₂… · 10 ^ point`. -/
structure Decimal where
  digits : List Char
  point : Int
  deriving Repr, DecidableEq

namespace Decimal

/-- Which of two equally near neighbours is taken. -/
inductive Tie where
  | toEven
  | up
  deriving DecidableEq, Repr

/-- The least `e` with `num / den < 10 ^ e`, for a positive value. -/
def magnitude (num den : Nat) : Int :=
  if den ≤ num then ((Nat.toDigits 10 (num / den)).length : Int)
  else
    match (List.range 400).find? fun k => den ≤ num * Nat.pow 10 (k + 1) with
    | some k => -(k : Int)
    | none => -400

/-- Drops zeros at the end of a digit list. -/
def dropZeros (ds : List Char) : List Char :=
  (ds.reverse.dropWhile (· == '0')).reverse

/-- The decimal `k · 10 ^ scale` without zeros at its end. -/
def ofScaled (k : Nat) (scale : Int) : Decimal :=
  let ds := Nat.toDigits 10 k
  ⟨dropZeros ds, scale + ds.length⟩

/-- A neighbour on the grid of `n` digits that reads back, if there is one. The value is `4m · s`,
and `4m - below` and `4m + 2` times `s` bound the reals that round to it; `s = num / den`. -/
def onGrid? (tie : Tie) (m num den : Nat) (below : Nat) (e : Int) (n : Nat) : Option Decimal :=
  let scale := e - n
  -- one grid step in units of `1 / (den · 10 ^ k)`
  let up := if scale ≥ 0 then Nat.pow 10 scale.toNat else 1
  let down := if scale ≥ 0 then 1 else Nat.pow 10 (-scale).toNat
  let step := den * up
  let scaled (x : Nat) := x * num * down
  let value := scaled (4 * m)
  let low := scaled (4 * m - below)
  let high := scaled (4 * m + 2)
  let closed := m % 2 == 0
  let inside (x : Nat) := if closed then low ≤ x && x ≤ high else low < x && x < high
  let k := value / step
  let dLow := value - k * step
  let dHigh := (k + 1) * step - value
  match inside (k * step), inside ((k + 1) * step) with
  | true, true =>
    let takeLow := dLow < dHigh || (dLow == dHigh && tie == .toEven && k % 2 == 0)
    some (ofScaled (if takeLow then k else k + 1) scale)
  | true, false => some (ofScaled k scale)
  | false, true => some (ofScaled (k + 1) scale)
  | false, false => none

/-- The shortest decimal that reads back as `m · 2 ^ q`, nearest to it among those; `narrow` says
that the gap below is half the gap above. -/
def shortest (tie : Tie) (m : Nat) (q : Int) (narrow : Bool) : Decimal :=
  let num := if q ≥ 0 then Nat.pow 2 q.toNat else 1
  let den := 4 * (if q ≥ 0 then 1 else Nat.pow 2 (-q).toNat)
  let e := magnitude (4 * m * num) den
  let below := if narrow then 1 else 2
  ((List.range 17).findSome? fun n => onGrid? tie m num den below e (n + 1)).getD ⟨['0'], 1⟩

/-- Sign bit, fraction and scale of a double: the value is `± m · 2 ^ q`, with the flag for the
narrower gap below powers of two. -/
structure Binary where
  negative : Bool
  mantissa : Nat
  scale : Int
  narrow : Bool

/-- The parts of a finite double. -/
def Binary.ofFloat (x : Float) : Binary :=
  let bits := x.toBits.toNat
  let fraction : Nat := bits % 0x10000000000000
  let exponent : Nat := bits / 0x10000000000000 % 0x800
  { negative := bits / 0x8000000000000000 == 1
    mantissa := if exponent == 0 then fraction else fraction + 0x10000000000000
    scale := (if exponent == 0 then 1 else (exponent : Int)) - 1075
    narrow := fraction == 0 && exponent > 1 }

/-- How a decimal is laid out. -/
structure Layout where
  tie : Tie
  /-- The texts of numbers with `low < point ≤ high` are positional, the others have an exponent. -/
  bounds : Option (Int × Int)
  /-- Whole numbers are written with a fraction `.0`. -/
  fraction : Bool

/-- Writes digits with the decimal point after the first `point` of them. -/
def positional (fraction : Bool) (d : Decimal) : List Char :=
  let n : Int := d.digits.length
  if n ≤ d.point then
    d.digits ++ List.replicate (d.point - n).toNat '0' ++ (if fraction then ['.', '0'] else [])
  else if 0 < d.point then
    d.digits.take d.point.toNat ++ '.' :: d.digits.drop d.point.toNat
  else
    '0' :: '.' :: (List.replicate (-d.point).toNat '0' ++ d.digits)

/-- Writes one digit before the point, and the power of ten after an `e`. -/
def scientific (d : Decimal) : List Char :=
  let exponent := d.point - 1
  let power := (if exponent < 0 then ['-'] else []) ++ Nat.toDigits 10 exponent.natAbs
  match d.digits with
  | [] => ['0']
  | [c] => c :: 'e' :: power
  | c :: rest => c :: '.' :: (rest ++ 'e' :: power)

/-- The text of a finite double in the given layout. -/
def text (layout : Layout) (x : Float) : String :=
  let b := Binary.ofFloat x
  let sign := if b.negative then ['-'] else []
  let body :=
    if b.mantissa == 0 then '0' :: (if layout.fraction then ['.', '0'] else [])
    else
      let d := shortest layout.tie b.mantissa b.scale b.narrow
      match layout.bounds with
      | some (low, high) =>
        if low < d.point && d.point ≤ high then positional layout.fraction d else scientific d
      | none => positional layout.fraction d
  String.ofList (sign ++ body)

/-- Never an exponent, and no fraction for whole numbers. -/
def plain : Layout := { tie := .up, bounds := none, fraction := false }

/-- The plain text of any double, the infinities and what is no number included. -/
def display (x : Float) : String :=
  if x.isNaN then "NaN"
  else if x.isInf then (if x < 0 then "-inf" else "inf")
  else text plain x

end Decimal

end Mdx
