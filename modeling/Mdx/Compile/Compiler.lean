import Mdx.Compile.Config
import Mdx.Compile.Error
import Mdx.Convert.Document
import Mdx.Markdown.Parse
import Mdx.Pass.CodeMeta
import Mdx.Pass.Pipeline
import Mdx.Wire.Lower

/-!
# Compilers

A compiler takes the text of a document through reading, document passes, metadata, conversion and
tree passes, and lowers the tree to a module or to a wire document.
-/

namespace Mdx

/-- The kinds of documents. -/
inductive DocumentKind where
  | markdown
  | mdx
  deriving DecidableEq, Repr

/-- The kind of a document, by the extension of its path. -/
def DocumentKind.ofPath (path : String) : DocumentKind :=
  let path := path.map Char.toLower
  if Text.hasSuffix ".md" path || Text.hasSuffix ".markdown" path then .markdown else .mdx

/-- Compiling may fail; what was logged before stays. -/
abbrev CompileM := ExceptT CompileError (StateM (List Log))

namespace CompileM

/-- Adds lines to the log. -/
def note (lines : List Log) : CompileM Unit :=
  modify (· ++ lines)

/-- The result and the log. -/
def outcome {α : Type} (x : CompileM α) : Except CompileError α × List Log :=
  (ExceptT.run x).run []

end CompileM

/-- The passes of a configuration, with those of the caller. -/
structure Compiler where
  config : Config
  documentPasses : List DocumentPass
  pipeline : Pipeline

/-- A document after all passes. -/
structure Compiled where
  root : Element
  frontmatter : Option (Dict Json)
  esm : List String
  path : String

/-- Why a document cannot be compiled after a run of its passes: one of them failed. -/
def Pipeline.Run.error (run : Pipeline.Run) (path : String) : Option CompileError :=
  run.failure.map fun (name, cause) => .pass name path cause

namespace Compiler

/-- The compiler of a configuration. -/
def ofConfig (config : Config) : Compiler :=
  { config := config
    documentPasses := if config.codeMeta then [CodeMeta.pass] else []
    pipeline := .new config.tagPrefix
      (Pass.localAssets config.tagPrefix (Pass.startsWithAny config.localAssetPrefixes)) }

/-- Replaces the test for local files. -/
def withLocalTest (c : Compiler) (isLocal : String → Bool) : Compiler :=
  { c with pipeline := c.pipeline.setLocalAssets (Pass.localAssets c.config.tagPrefix isLocal) }

/-- Adds a pass over the document, after those that are there. -/
def addDocumentPass (c : Compiler) (pass : DocumentPass) : Compiler :=
  { c with documentPasses := c.documentPasses ++ [pass] }

/-- Adds a pass over the tree, after all built-in ones. -/
def addPass (c : Compiler) (pass : Pass) : Compiler :=
  { c with pipeline := c.pipeline.push pass }

/-- Adds a pass over the tree, in front of a built-in one. -/
def addPassBefore (c : Compiler) (slot : Builtin) (pass : Pass) : Compiler :=
  { c with pipeline := c.pipeline.insertBefore slot pass }

/-- The names of the passes over the tree, in the order in which they run. -/
def passNames (c : Compiler) : List String :=
  c.pipeline.passNames

/-- Reads a text by the kind of its path. -/
def read (c : Compiler) (source path : String) : Except CompileError Markdown.Node :=
  let options : Markdown.Options :=
    match DocumentKind.ofPath path with
    | .markdown => .plain
    | .mdx => .jsx
  match Markdown.parse { options with math := c.config.math } source with
  | .ok document => .ok document
  | .error fault => .error (.parse fault.reason ((Location.ofPoint fault.point).inFile path))

/-- Applies document passes in turn, up to the first failure. -/
def runDocumentPasses (path : String) :
    List DocumentPass → Markdown.Node → Except CompileError Markdown.Node
  | [], document => .ok document
  | pass :: rest, document =>
    match pass.run document with
    | (_, some cause) => .error (.pass pass.name path cause)
    | (document, none) => runDocumentPasses path rest document

/-- Takes a text through all passes. -/
def compile (c : Compiler) (source path : String) : CompileM Compiled := do
  let document ← c.read source path
  let document ← runDocumentPasses path c.documentPasses document
  let extracted := Frontmatter.extract document
  CompileM.note extracted.log
  match extracted.result with
  | .error cause => throw (.frontmatter path cause)
  | .ok frontmatter =>
    let converted := convert extracted.document
    CompileM.note converted.log
    let run := c.pipeline.run converted.root
    CompileM.note run.log
    match run.error path with
    | some error => throw error
    | none =>
      return { root := run.root, frontmatter := frontmatter, esm := converted.esm, path := path }

/-- Compiles a text to a module. -/
def compileModule (c : Compiler) (source path : String) : CompileM String := do
  let compiled ← c.compile source path
  return Module.text c.config.moduleOptions compiled.root compiled.frontmatter compiled.esm

/-- Compiles a text to a wire document, with the addresses of local files. -/
def compileWireWith (c : Compiler) (assets : Wire.AssetMap) (source path : String) :
    CompileM Wire.Lowered := do
  let compiled ← c.compile source path
  let lowered := Wire.lower assets c.config.tagPrefix compiled.root compiled.frontmatter
  CompileM.note lowered.log
  return lowered

/-- Compiles a text to a wire document without local files. -/
def compileWire (c : Compiler) (source path : String) : CompileM Wire.Document := do
  return (← c.compileWireWith (fun _ => none) source path).document

end Compiler

/-- The path of documents that are compiled on their own. -/
def remotePath : String := "remote.mdx"

/-- Compiles a document on its own, with the default settings and the given passes. -/
def compileRemote (source : String) (documentPasses : List DocumentPass := [])
    (passes : List Pass := []) : CompileM Wire.Document :=
  let compiler := documentPasses.foldl Compiler.addDocumentPass (.ofConfig {})
  let compiler := passes.foldl Compiler.addPass compiler
  ExceptT.adapt CompileError.remote (compiler.compileWire source remotePath)

end Mdx
