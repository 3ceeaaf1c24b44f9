import Mdx.Json.Number

/-!
# Reading JSON texts

Reading goes in two steps. `Spelling.read?` checks the grammar and keeps everything as it is
spelled: repeated fields, numbers without a value, strings with unpaired surrogates, nesting of any
depth. `Spelling.value?` then gives the meaning, where there is one. A reader of records works on
the spelling, so that a field it does not know is only held to the grammar.
-/

namespace Mdx.Json

/-- A JSON text as spelled. Scalars that stand for nothing are `none`. -/
inductive Spelling where
  | null
  | bool (value : Bool)
  | num (value : Option Number)
  | str (value : Option String)
  | arr (items : List Spelling)
  | obj (fields : List (Option String × Spelling))

namespace Spelling

/-! ## Grammar -/

/-- Space, tab, line feed and carriage return separate tokens. -/
def isSpace (c : Char) : Bool :=
  c = ' ' || c = '\t' || c = '\n' || c = '\r'

/-- Drops separating space. -/
def skip (s : List Char) : List Char :=
  s.dropWhile isSpace

/-- The value of a hexadecimal digit. -/
def hex? (c : Char) : Option Nat :=
  if c.isDigit then some (c.toNat - 0x30)
  else if 'a' ≤ c && c ≤ 'f' then some (c.toNat - 0x57)
  else if 'A' ≤ c && c ≤ 'F' then some (c.toNat - 0x37)
  else none

/-- The value of four hexadecimal digits. -/
def hex4? (a b c d : Char) : Option Nat := do
  return (((← hex? a) * 16 + (← hex? b)) * 16 + (← hex? c)) * 16 + (← hex? d)

/-- The character a one-letter escape stands for. -/
def escaped? (c : Char) : Option Char :=
  if c = '"' || c = '\\' || c = '/' then some c
  else if c = 'b' then some (Char.ofNat 0x08)
  else if c = 'f' then some (Char.ofNat 0x0c)
  else if c = 'n' then some '\n'
  else if c = 'r' then some '\r'
  else if c = 't' then some '\t'
  else none

/-- The code units of a string up to its closing quote, and the text after it. A character is one
unit, an escaped surrogate is half of one. -/
def units : List Char → Option (List Nat × List Char)
  | [] => none
  | '"' :: rest => some ([], rest)
  | '\\' :: 'u' :: a :: b :: c :: d :: rest =>
    match hex4? a b c d, units rest with
    | some n, some (us, rest) => some (n :: us, rest)
    | _, _ => none
  | '\\' :: c :: rest =>
    match escaped? c, units rest with
    | some c, some (us, rest) => some (c.toNat :: us, rest)
    | _, _ => none
  | c :: rest =>
    if c.toNat < 0x20 || c = '\\' then none
    else (units rest).map fun (us, rest) => (c.toNat :: us, rest)

/-- The first half of a surrogate pair. -/
def isHigh (n : Nat) : Bool := 0xd800 ≤ n && n ≤ 0xdbff

/-- The second half of a surrogate pair. -/
def isLow (n : Nat) : Bool := 0xdc00 ≤ n && n ≤ 0xdfff

/-- The characters of code units, with surrogate pairs joined; none if a half stands alone. -/
def joinUnits : List Nat → Option (List Char)
  | [] => some []
  | n :: rest =>
    if isLow n then none
    else if isHigh n then
      match rest with
      | [] => none
      | m :: rest =>
        if isLow m then
          (joinUnits rest).map (Char.ofNat (0x10000 + (n - 0xd800) * 0x400 + (m - 0xdc00)) :: ·)
        else none
    else (joinUnits rest).map (Char.ofNat n :: ·)

/-- A string after its opening quote. -/
def string? (s : List Char) : Option (Option String × List Char) :=
  (units s).map fun (us, rest) => ((joinUnits us).map String.ofList, rest)

mutual

/-- A value at the start of a text, and the rest. -/
def value : Nat → List Char → Option (Spelling × List Char)
  | 0, _ => none
  | fuel + 1, s =>
    match skip s with
    | 'n' :: 'u' :: 'l' :: 'l' :: rest => some (.null, rest)
    | 't' :: 'r' :: 'u' :: 'e' :: rest => some (.bool true, rest)
    | 'f' :: 'a' :: 'l' :: 's' :: 'e' :: rest => some (.bool false, rest)
    | '"' :: rest => (string? rest).map fun (text, rest) => (.str text, rest)
    | '[' :: rest =>
      match skip rest with
      | ']' :: rest => some (.arr [], rest)
      | rest => (items fuel rest).map fun (list, rest) => (.arr list, rest)
    | '\x7b' :: rest =>
      match skip rest with
      | '\x7d' :: rest => some (.obj [], rest)
      | rest => (fields fuel rest).map fun (list, rest) => (.obj list, rest)
    | s => (Number.numeral? s).map fun (n, rest) => (.num n.value?, rest)

/-- One or more items, up to the closing bracket. -/
def items : Nat → List Char → Option (List Spelling × List Char)
  | 0, _ => none
  | fuel + 1, s =>
    match value fuel s with
    | none => none
    | some (item, rest) =>
      match skip rest with
      | ',' :: rest => (items fuel rest).map fun (list, rest) => (item :: list, rest)
      | ']' :: rest => some ([item], rest)
      | _ => none

/-- One or more fields, up to the closing brace. -/
def fields : Nat → List Char → Option (List (Option String × Spelling) × List Char)
  | 0, _ => none
  | fuel + 1, s =>
    match skip s with
    | '"' :: rest =>
      match string? rest with
      | none => none
      | some (key, rest) =>
        match skip rest with
        | ':' :: rest =>
          match value fuel rest with
          | none => none
          | some (item, rest) =>
            match skip rest with
            | ',' :: rest => (fields fuel rest).map fun (list, rest) => ((key, item) :: list, rest)
            | '\x7d' :: rest => some ([(key, item)], rest)
            | _ => none
        | _ => none
    | _ => none

end

/-- The spelling of a whole text. -/
def read? (s : String) : Option Spelling :=
  match value (s.length + 1) s.toList with
  | some (spelling, rest) => if (skip rest).isEmpty then some spelling else none
  | none => none

/-! ## Meaning -/

mutual

/-- The value of a spelling with at most `depth` nested arrays and objects. Of repeated fields the
last one counts. -/
def value? (depth : Nat) : Spelling → Option Json
  | .null => some .null
  | .bool b => some (.bool b)
  | .num n => n.map .num
  | .str s => s.map .str
  | .arr list =>
    match depth with
    | 0 => none
    | depth + 1 => (itemValues? depth list).map .arr
  | .obj list =>
    match depth with
    | 0 => none
    | depth + 1 => (fieldValues? depth list).map fun entries => .obj (Dict.ofList entries)

/-- The values of items. -/
def itemValues? (depth : Nat) : List Spelling → Option (List Json)
  | [] => some []
  | item :: rest =>
    match value? depth item, itemValues? depth rest with
    | some v, some vs => some (v :: vs)
    | _, _ => none

/-- The keys and values of fields, as spelled. -/
def fieldValues? (depth : Nat) : List (Option String × Spelling) → Option (List (String × Json))
  | [] => some []
  | (key, item) :: rest =>
    match key, value? depth item, fieldValues? depth rest with
    | some k, some v, some entries => some ((k, v) :: entries)
    | _, _, _ => none

end

mutual

/-- The spelling of a value. -/
def ofJson : Json → Spelling
  | .null => .null
  | .bool b => .bool b
  | .num n => .num (some n)
  | .str s => .str (some s)
  | .arr list => .arr (ofItems list)
  | .obj list => .obj (ofFields list)

/-- The spellings of items. -/
def ofItems : List Json → List Spelling
  | [] => []
  | item :: rest => ofJson item :: ofItems rest

/-- The spellings of fields. -/
def ofFields : List (String × Json) → List (Option String × Spelling)
  | [] => []
  | (key, item) :: rest => (some key, ofJson item) :: ofFields rest

end

/-! ## Records -/

/-- The fields of a record by position: as an array it lists them in order, perhaps not to the end;
as an object it names each at most once, beside names that do not matter. -/
def record? (names : List String) : Spelling → Option (List (Option Spelling))
  | .arr list =>
    if list.length ≤ names.length then
      some (list.map some ++ List.replicate (names.length - list.length) none)
    else none
  | .obj list =>
    if list.all (fun (key, _) => key.isSome) then
      names.mapM fun name =>
        match list.filter (fun (key, _) => key == some name) with
        | [] => some none
        | [(_, item)] => some (some item)
        | _ => none
    else none
  | _ => none

/-- The text of a string. -/
def text? : Spelling → Option String
  | .str s => s
  | _ => none

/-- A truth value. -/
def bool? : Spelling → Option Bool
  | .bool b => some b
  | _ => none

end Spelling

/-- Arrays and objects nest at most this deep in a text that is read. -/
def maxDepth : Nat := 127

/-- The value of a JSON text. -/
def read? (s : String) : Option Json :=
  match Spelling.read? s with
  | some spelling => spelling.value? maxDepth
  | none => none

end Mdx.Json
