import Mdx.Digest
import Mdx.Json.Spelling
import Mdx.Module.Text
import Mdx.Tag

/-!
# Configurations

The settings of a compiler, reading them from JSON, and their fingerprint.
-/

namespace Mdx

/-- The settings of a compiler. -/
structure Config where
  tagPrefix : String := Tag.defaultPrefix
  componentLibrary : String := "@natmdx/runtime"
  jsxImportSource : String := "react"
  /-- Image sources that start with one of these are local files. -/
  localAssetPrefixes : List String := [".", "@"]
  /-- Fold the annotations of code fences into the code. -/
  codeMeta : Bool := false
  math : Bool := false
  deriving DecidableEq, Repr

namespace Config

/-- The names of the settings in JSON, in order. -/
def names : List String :=
  ["tagPrefix", "componentLibrary", "jsxImportSource", "localAssetPrefixes", "codeMeta", "math"]

open Json (Spelling)

/-- A setting that is left out has its default. -/
def setting {α : Type} (default : α) (read : Spelling → Option α) : Option Spelling → Option α
  | none => some default
  | some spelling => read spelling

/-- A list of texts. -/
def texts? : Spelling → Option (List String)
  | .arr items => items.mapM Spelling.text?
  | _ => none

/-- The settings in a JSON text. -/
def read? (s : String) : Option Config := do
  let spelling ← Spelling.read? s
  let base : Config := {}
  match ← Spelling.record? names spelling with
  | [tagPrefix, library, jsx, prefixes, codeMeta, math] =>
    return {
      tagPrefix := ← setting base.tagPrefix Spelling.text? tagPrefix
      componentLibrary := ← setting base.componentLibrary Spelling.text? library
      jsxImportSource := ← setting base.jsxImportSource Spelling.text? jsx
      localAssetPrefixes := ← setting base.localAssetPrefixes texts? prefixes
      codeMeta := ← setting base.codeMeta Spelling.bool? codeMeta
      math := ← setting base.math Spelling.bool? math }
  | _ => none

/-- The JSON value of the settings. -/
def toJson (c : Config) : Json :=
  .obj (Dict.ofList
    [ ("tagPrefix", .str c.tagPrefix), ("componentLibrary", .str c.componentLibrary),
      ("jsxImportSource", .str c.jsxImportSource),
      ("localAssetPrefixes", .arr (c.localAssetPrefixes.map .str)),
      ("codeMeta", .bool c.codeMeta), ("math", .bool c.math) ])

/-- The settings of generated modules. -/
def moduleOptions (c : Config) : Module.Options :=
  { componentLibrary := c.componentLibrary
    jsxImportSource := c.jsxImportSource
    tagPrefix := c.tagPrefix }

/-! ## Fingerprints -/

/-- The bytes of a text, and one that no text has in it. -/
def textBytes (s : String) : List UInt8 :=
  s.toUTF8.data.toList ++ [0xff]

/-- A number in eight bytes, the lowest first. -/
def countBytes (n : Nat) : List UInt8 :=
  (List.range 8).map fun i => UInt8.ofNat (n >>> (8 * i))

/-- The bytes of all settings, in order. -/
def bytes (c : Config) : List UInt8 :=
  textBytes c.tagPrefix ++ textBytes c.componentLibrary ++ textBytes c.jsxImportSource
    ++ countBytes c.localAssetPrefixes.length ++ c.localAssetPrefixes.flatMap textBytes
    ++ [c.codeMeta.toUInt8, c.math.toUInt8]

/-- A short key of the settings. -/
def fingerprint (c : Config) : UInt64 :=
  Digest.ofBytes c.bytes

end Config

end Mdx
