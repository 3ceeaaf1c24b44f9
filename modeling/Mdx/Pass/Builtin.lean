import Mdx.Pass.Basic
import Mdx.Tag

/-!
# Built-in passes

Three passes every tree goes through: HTML tags get their prefix, local image sources become assets
to be loaded by the host, and white space goes from where a table cannot hold text. Each recognises
its elements with and without the prefix.
-/

namespace Mdx.Pass

/-! ## Tag names -/

/-- Marks HTML tags with the prefix. -/
def markTags (mark : String) : Edit :=
  { rename := fun name => (Tag.marked? mark name).getD name }

/-- The pass that marks HTML tags. -/
def tagNames (mark : String) : Pass :=
  .ofEdit "prefix-tag-names" (markTags mark)

/-! ## Local assets -/

/-- The source starts with one of the prefixes. The empty prefix matches nothing. -/
def startsWithAny (prefixes : List String) (source : String) : Bool :=
  prefixes.any fun p => !p.isEmpty && Text.hasPrefix p source

/-- A string that names a local file, and is not a load already. -/
def localPath? (isLocal : String → Bool) (value : PropValue) : Option String :=
  match value.str? with
  | some source => if Text.hasPrefix "require(" source || !isLocal source then none else some source
  | none => none

/-- Turns a prop that names a local file into an asset. -/
def deferProp (isLocal : String → Bool) (key : String) (props : Props) : Props :=
  match props.get? key with
  | some value =>
    match localPath? isLocal value with
    | some path => props.insert key (.localAsset path)
    | none => props
  | none => props

/-- The props of an image that may name a local file. -/
def sourceProps : List String := ["src", "source"]

/-- Turns the sources of images that name local files into assets. -/
def deferAssets (mark : String) (isLocal : String → Bool) : Edit :=
  { props := fun name props =>
      if Tag.bare mark name == "img" then
        sourceProps.foldl (fun props key => deferProp isLocal key props) props
      else props }

/-- The log lines for the assets of one element. -/
def deferNotes (mark : String) (isLocal : String → Bool) (name : String) (props : Props) :
    List Log :=
  if Tag.bare mark name == "img" then
    sourceProps.filterMap fun key =>
      ((props.get? key).bind (localPath? isLocal)).map fun path =>
        .debug ("Deferring local asset \x60" ++ path ++ "\x60 on <" ++ name ++ ">")
  else []

mutual

/-- The log lines for the assets of a tree, parents first. -/
def deferTreeNotes (mark : String) (isLocal : String → Bool) : Tree → List Log
  | .element name props cs => deferNotes mark isLocal name props ++ deferRowNotes mark isLocal cs
  | .text _ => []
  | .fragment cs => deferRowNotes mark isLocal cs

/-- The log lines for the assets of a row of trees. -/
def deferRowNotes (mark : String) (isLocal : String → Bool) : List Tree → List Log
  | [] => []
  | t :: ts => deferTreeNotes mark isLocal t ++ deferRowNotes mark isLocal ts

end

/-- The pass that turns local image sources into assets. -/
def localAssets (mark : String) (isLocal : String → Bool) : Pass :=
  { Pass.ofEdit "local-assets" (deferAssets mark isLocal) with
    log := fun root => deferTreeNotes mark isLocal root.toTree }

/-! ## Table white space -/

/-- The tags of a table that hold no text of their own. -/
def tableTags : List String := ["table", "thead", "tbody", "tfoot", "tr", "colgroup"]

/-- Drops texts of white space directly inside the structure of a table. -/
def dropTableSpace (mark : String) : Edit :=
  { keep := fun name t => !(tableTags.contains (Tag.bare mark name) && t.isBlankText) }

/-- The pass that drops white space from tables. -/
def tableSpace (mark : String) : Pass :=
  .ofEdit "strip-table-whitespace" (dropTableSpace mark)

end Mdx.Pass
