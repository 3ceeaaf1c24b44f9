import Mdx.Compile.Cache

/-!
# Bundlers

What a bundler needs to import documents as modules: an entry in its configuration, and a
transformer that replaces the text of a document by its module.
-/

namespace Mdx.Bundler

/-- The transformer that is installed. -/
def transformerPath : String := "@natmdx/core/transformer"

/-- The ending of the bundler's own transformer, which may be replaced. -/
def stockTransformer : String := "metro-config/build/babel-transformer.js"

/-- The part of a bundler's configuration that matters here. -/
structure Setup where
  transformerPath : Option String := none
  /-- The extensions that can be imported. -/
  sourceExts : List String := []
  deriving DecidableEq, Repr

namespace Setup

/-- A transformer that was set by the user. -/
def custom? (s : Setup) : Option String :=
  s.transformerPath.filter fun path => !Text.hasSuffix stockTransformer path

/-- Installs the transformer, unless the user has set one, and the extensions of documents. -/
def install (s : Setup) : Setup :=
  { transformerPath := some (s.custom?.getD Bundler.transformerPath)
    sourceExts :=
      if s.sourceExts.contains "md" then s.sourceExts else s.sourceExts ++ ["md", "mdx"] }

/-- The log lines of an installation. -/
def installLog (s : Setup) : List Log :=
  match s.custom? with
  | some path =>
    [ .warn ("Using custom transformer: " ++ path),
      .warn ("Ensure it includes the MDX transformer from " ++ Bundler.transformerPath) ]
  | none => []

end Setup

/-- A file handed over by a bundler. -/
structure File where
  filename : String
  src : String
  deriving DecidableEq, Repr

/-- A file with one of the extensions of documents. -/
def File.isDocument (f : File) : Bool :=
  Text.hasSuffix ".md" f.filename || Text.hasSuffix ".mdx" f.filename

/-- Replaces documents by their modules, and leaves other files alone. -/
structure Transformer where
  config : Config := {}
  isDocument : File → Bool := File.isDocument

/-- Transforms a file with a compiler from the cache. -/
def Transformer.transform (t : Transformer) (cache : Cache) (file : File) :
    (Except CompileError File × List Log) × Cache :=
  if t.isDocument file then
    let grant := cache.get t.config
    match (grant.compiler.compileModule file.src file.filename).outcome with
    | (.ok text, more) => ((.ok { file with src := text }, grant.log ++ more), grant.cache)
    | (.error cause, more) =>
      ((.error (.transform file.filename cause), grant.log ++ more), grant.cache)
  else ((.ok file, []), cache)

end Mdx.Bundler
