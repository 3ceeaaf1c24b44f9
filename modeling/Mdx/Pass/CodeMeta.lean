import Mdx.Markdown.Node
import Mdx.Pass.Basic
import Mdx.Text.Search

/-!
# Annotations of code

The words after the language of a code fence can be folded into the code itself, between two
delimiters, so that they survive where only the code is kept.
-/

namespace Mdx

/-- A change of documents that may fail. -/
structure DocumentPass where
  name : String
  run : Markdown.Node → Markdown.Node × Option PassError

namespace CodeMeta

/-- Stands before and after a folded annotation. -/
def delimiter : String := "@@@"

/-- The code with its annotation in front. -/
def fold (info code : String) : String :=
  delimiter ++ info ++ delimiter ++ code

/-- The annotation and the code of a folded text; a text that was not folded is all code. -/
def split (value : String) : Option String × String :=
  match (Text.after? delimiter.toList value.toList).bind (Text.cut? delimiter.toList) with
  | some (info, code) => (some (String.ofList info), String.ofList code)
  | none => (none, value)

open Markdown (Node)

mutual

/-- Folds the annotations of all code in a document. -/
def foldNode : Node → Node
  | .code value lang (some info) => .code (fold info value) lang none
  | .root cs => .root (foldRow cs)
  | .paragraph cs => .paragraph (foldRow cs)
  | .heading depth cs => .heading depth (foldRow cs)
  | .blockquote cs => .blockquote (foldRow cs)
  | .list ordered start spread cs => .list ordered start spread (foldRow cs)
  | .listItem spread checked cs => .listItem spread checked (foldRow cs)
  | .footnoteDefinition id cs => .footnoteDefinition id (foldRow cs)
  | .table align cs => .table align (foldRow cs)
  | .tableRow cs => .tableRow (foldRow cs)
  | .tableCell cs => .tableCell (foldRow cs)
  | .emphasis cs => .emphasis (foldRow cs)
  | .strong cs => .strong (foldRow cs)
  | .delete cs => .delete (foldRow cs)
  | .link url title cs => .link url title (foldRow cs)
  | .linkReference id label kind cs => .linkReference id label kind (foldRow cs)
  | .jsxFlow name attributes cs => .jsxFlow name attributes (foldRow cs)
  | .jsxText name attributes cs => .jsxText name attributes (foldRow cs)
  | node => node

/-- Folds the annotations of all code in a row of nodes. -/
def foldRow : List Node → List Node
  | [] => []
  | n :: rest => foldNode n :: foldRow rest

end

/-- The pass that folds the annotations of all code. -/
def pass : DocumentPass :=
  { name := "code-meta", run := fun document => (foldNode document, none) }

end CodeMeta

end Mdx
