import Mdx.Json.Spelling
import Mdx.Text.Percent

/-!
# Assets

What an image may name as its source: the number of a registered file, an address, or a description
that has an address. Registered files exist in several scales; the one nearest to the scale of the
device is taken.
-/

namespace Mdx

namespace Asset

/-- A registered file. -/
structure Entry where
  name : String
  /-- The file extension. -/
  type : String
  /-- The scales the file exists in, smallest first. -/
  scales : List Float
  width : Option Float := none
  height : Option Float := none
  httpServerLocation : String

/-- The registered files, numbered from one. -/
abbrev Registry := List Entry

/-- The file with the given number. -/
def Registry.get? (registry : Registry) : Nat → Option Entry
  | 0 => none
  | id + 1 => registry[id]?

/-- What an image may name as its source. -/
inductive Source where
  | id (number : Nat)
  | uri (address : String)
  | descriptor (address : Option String) (width height : Option Float)

/-- An address with the dimensions that are known. -/
structure Resolved where
  uri : String
  width : Option Float := none
  height : Option Float := none

/-- Why a source has no address. -/
inductive Error where
  | notFound (id : Nat)
  | unresolved (value : String)
  deriving DecidableEq, Repr

def Error.message : Error → String
  | .notFound id =>
    "Image: asset with ID \"" ++ toString id
      ++ "\" could not be found. Please check the image source."
  | .unresolved value => "Unknown image source \"" ++ value ++ "\" used in MDX."

/-! ## Reading sources -/

/-- The double of a number. -/
def number (n : Json.Number) : Float :=
  match n with
  | .int value =>
    let x := value.natAbs.toUInt64.toFloat
    if value < 0 then -x else x
  | .float value => value

/-- An optional number: left out or null it is none. -/
def number? : Option Json.Spelling → Option (Option Float)
  | none => some none
  | some .null => some none
  | some (.num (some n)) => some (some (number n))
  | some _ => none

/-- An optional text: left out or null it is none. -/
def address? : Option Json.Spelling → Option (Option String)
  | none => some none
  | some .null => some none
  | some (.str (some s)) => some (some s)
  | some _ => none

/-- The source of a JSON value: a number of 32 bits, a text, or a description. -/
def Source.ofJson? (value : Json) : Option Source :=
  match value with
  | .num (.int n) => if 0 ≤ n && n < 0x100000000 then some (.id n.toNat) else none
  | .str s => some (.uri s)
  | value =>
    match Json.Spelling.record? ["uri", "width", "height"] (.ofJson value) with
    | some [address, width, height] =>
      match address? address, number? width, number? height with
      | some address, some width, some height => some (.descriptor address width height)
      | _, _, _ => none
    | _ => none

/-- A field of an object, where it has a value. -/
def dimension (key : String) (value : Option Float) : List (String × Json) :=
  (value.map fun x => (key, Json.ofFloat x)).toList

/-- The JSON value of a source; the fields of a description keep their order. -/
def Source.toJson : Source → Json
  | .id n => .ofNat n
  | .uri s => .str s
  | .descriptor address width height =>
    .obj ((address.map fun s => ("uri", Json.str s)).toList ++ dimension "width" width
      ++ dimension "height" height)

/-- The JSON value of a resolved source. -/
def Resolved.toJson (r : Resolved) : Json :=
  .obj (("uri", Json.str r.uri) :: (dimension "width" r.width ++ dimension "height" r.height))

/-! ## Resolution -/

/-- The scale nearest to the target; of equally near ones the first. -/
def selectScale? (scales : List Float) (target : Float) : Option Float :=
  match scales with
  | [] => none
  | first :: rest =>
    some (rest.foldl (fun best candidate =>
      if (candidate - target).abs < (best - target).abs then candidate else best) first)

/-- How an address with an SVG image in it begins. -/
def svgPrefix : String := "data:image/svg+xml;utf8,"

/-- The address with its SVG image percent-encoded; none for any other address. -/
def encodeSvg? (uri : String) : Option String :=
  (Text.afterPrefix? svgPrefix uri).map fun svg => svgPrefix ++ Text.encodeComponent svg

/-- The registered files and the scale of the device. -/
structure Resolver where
  registry : Registry := []
  scale : Float := 1.0

/-- The address of a file in the scale nearest to the device's. A scale other than one is part of
the file's name. -/
def Resolver.entry (r : Resolver) (entry : Entry) : Resolved :=
  let scale := (selectScale? entry.scales r.scale).getD 1.0
  let suffix := if scale == 1.0 then "" else "@" ++ Decimal.display scale ++ "x"
  { uri := entry.httpServerLocation ++ "/" ++ entry.name ++ suffix ++ "." ++ entry.type
    width := entry.width
    height := entry.height }

/-- The address of a source. An SVG image in it is encoded, unless it stands in a description. -/
def Resolver.resolve (r : Resolver) (source : Source) : Except Error Resolved :=
  let encoded (resolved : Resolved) : Resolved :=
    match encodeSvg? resolved.uri with
    | some uri => { uri := uri }
    | none => resolved
  match source with
  | .id n =>
    match r.registry.get? n with
    | some entry => .ok (encoded (r.entry entry))
    | none => .error (.notFound n)
  | .descriptor (some uri) width height => .ok { uri := uri, width := width, height := height }
  | .uri s =>
    if s.isEmpty then .error (.unresolved source.toJson.text) else .ok (encoded { uri := s })
  | .descriptor none _ _ => .error (.unresolved source.toJson.text)

end Asset

end Mdx
