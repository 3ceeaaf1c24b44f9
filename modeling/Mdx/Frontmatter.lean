import Mdx.Json.Basic
import Mdx.Log
import Mdx.Markdown.Node
import Mdx.Text.Blank
import Mdx.Yaml.Value

/-!
# Metadata blocks

The block at the head of a document holds its metadata as a YAML mapping.
-/

namespace Mdx.Frontmatter

/-- Why a metadata block cannot be used. -/
inductive Error where
  | malformed
  | notMapping
  deriving DecidableEq, Repr

def Error.message : Error → String
  | .malformed => "Frontmatter parse error"
  | .notMapping => "Frontmatter must be a YAML mapping at the top level"

/-- The metadata in a block; an empty block or mapping is none. -/
def read (block : String) : Except Error (Option (Dict Json)) :=
  if Text.allBlank block then .ok none
  else
    match Yaml.read? block with
    | some .null => .ok none
    | some (.obj []) => .ok none
    | some (.obj fields) => .ok (some fields)
    | some _ => .error .notMapping
    | none => .error .malformed

/-- A document without its metadata block, and what that block held. -/
structure Extracted where
  document : Markdown.Node
  result : Except Error (Option (Dict Json))
  log : List Log := []

/-- Takes the metadata block from the head of a document. A TOML block is dropped unread. -/
def extract (document : Markdown.Node) : Extracted :=
  match document.children with
  | .yaml block :: rest => { document := document.withChildren rest, result := read block }
  | .toml _ :: rest =>
    { document := document.withChildren rest
      result := .ok none
      log := [.warn "TOML frontmatter is not supported; block removed"] }
  | _ => { document := document, result := .ok none }

end Mdx.Frontmatter
