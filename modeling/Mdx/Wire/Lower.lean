import Mdx.Log
import Mdx.Rendered
import Mdx.Wire.Basic

/-!
# Lowering to wire documents

An element tree becomes a wire document: layout is skipped, fragments become elements with a name
of their own, and local assets become addresses, or are dropped where they have none.
-/

namespace Mdx.Wire

/-- The address of a local file, if it can be served. -/
abbrev AssetMap := String → Option String

/-- The value of a prop on the wire. -/
def propValue? (assets : AssetMap) : PropValue → Option Json
  | .literal value => some value
  | .expression source => some (.str source)
  | .localAsset path => (assets path).map .str

/-- The props that have a value on the wire. -/
def lowerProps (assets : AssetMap) (props : Props) : Dict Json :=
  props.filterMap fun (key, value) => (propValue? assets value).map fun v => (key, v)

mutual

/-- Lowers one tree. -/
def lowerTree (assets : AssetMap) (mark : String) (preformatted : Bool) : Tree → Node
  | .text value => .text value
  | .element name props cs =>
    .element name (lowerProps assets props)
      (lowerRow assets mark (preformatted || Rendered.isPreformatted mark name) cs)
  | .fragment cs => .element fragmentName [] (lowerRow assets mark preformatted cs)

/-- Lowers the rendered ones of a row of trees. -/
def lowerRow (assets : AssetMap) (mark : String) (preformatted : Bool) : List Tree → List Node
  | [] => []
  | t :: ts =>
    if Rendered.skips preformatted t then lowerRow assets mark preformatted ts
    else lowerTree assets mark preformatted t :: lowerRow assets mark preformatted ts

end

/-- A local asset that has no address: the element, the prop and the path. -/
structure Dropped where
  element : String
  key : String
  path : String
  deriving DecidableEq, Repr

/-- The assets of one element that have no address. -/
def droppedProps (assets : AssetMap) (element : String) (props : Props) : List Dropped :=
  props.filterMap fun (key, value) =>
    match value with
    | .localAsset path => if (assets path).isNone then some ⟨element, key, path⟩ else none
    | _ => none

mutual

/-- The assets of a tree that have no address, parents first. -/
def dropped (assets : AssetMap) : Tree → List Dropped
  | .text _ => []
  | .element name props cs => droppedProps assets name props ++ droppedRow assets cs
  | .fragment cs => droppedRow assets cs

/-- The assets of a row of trees that have no address. -/
def droppedRow (assets : AssetMap) : List Tree → List Dropped
  | [] => []
  | t :: ts => dropped assets t ++ droppedRow assets ts

end

/-- The log line for a dropped asset. -/
def Dropped.log (d : Dropped) : Log :=
  .warn ("Local asset \x60" ++ d.path ++ "\x60 on <" ++ d.element ++ "> has no remote URL; \x60"
    ++ d.key ++ "\x60 dropped")

/-- The diagnostic for a dropped asset. -/
def Dropped.diagnostic (d : Dropped) : Diagnostic :=
  .warning ("Local asset \"" ++ d.path ++ "\" cannot be serialized; \x60" ++ d.key
    ++ "\x60 removed from <" ++ d.element ++ ">")

/-- A lowered document with what was dropped on the way. -/
structure Lowered where
  document : Document
  diagnostics : List Diagnostic
  log : List Log

/-- Lowers a tree with its metadata; empty metadata is none. -/
def lower (assets : AssetMap) (mark : String) (root : Element) (frontmatter : Option (Dict Json)) :
    Lowered :=
  let missing := dropped assets root.toTree
  { document :=
      { tree := lowerTree assets mark false root.toTree
        frontmatter := frontmatter.filter fun map => !map.isEmpty }
    diagnostics := missing.map (·.diagnostic)
    log := missing.map (·.log) }

end Mdx.Wire
