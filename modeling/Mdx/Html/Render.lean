import Mdx.Html.Scope
import Mdx.Log
import Mdx.Tree
import Mdx.Wire.Basic

/-!
# Rendering

A wire document becomes HTML through a namespace of components. A custom component that is missing
is reported once and replaced by its children; a built-in one that is missing is an error. An image
without an address becomes a placeholder.
-/

namespace Mdx.Html

/-- A namespace of components with styles, assets and the prefix of built-in tags. -/
structure Renderer where
  components : Dict Component
  styles : Dict Json := []
  assets : Asset.Resolver := {}
  tagPrefix : String := Tag.defaultPrefix

namespace Renderer

/-- The renderer for the components in scope. -/
def withScopes (scopes : ComponentScopes) : Renderer :=
  { components := scopes.merged }

/-- Puts further components over the namespace. -/
def withOverrides (r : Renderer) (overrides : Dict Component) : Renderer :=
  { r with components := r.components.union overrides }

/-- Sets the styles in scope. -/
def withStyles (r : Renderer) (styles : StyleScopes) : Renderer :=
  { r with styles := styles.merged }

/-- What rendering carries along. -/
structure State where
  diagnostics : List Diagnostic := []
  /-- The missing components reported so far. -/
  reported : List String := []
  log : List Log := []

/-- Rendering may fail; what was reported before stays. -/
abbrev RenderM := ExceptT RenderError (StateM State)

/-- Reports a condition to the log and to the reader. -/
def report (line : String) (diagnostic : String) : RenderM Unit :=
  modify fun s =>
    { s with diagnostics := s.diagnostics ++ [.warning diagnostic], log := s.log ++ [.warn line] }

/-- Reports a missing component, once for each key. -/
def reportMissing (key : String) : RenderM Unit := do
  if !(← get).reported.contains key then
    modify fun s => { s with reported := key :: s.reported }
    report
      ("No component found for \"" ++ key ++ "\". Provide it via overrides or ComponentScopes.")
      ("No component found for \"" ++ key ++ "\"; rendered its children")

/-- The component of a key; a custom one may be missing. -/
def lookup (r : Renderer) (key : String) (builtin : Bool) : RenderM (Option Component) := do
  match r.components.get? key with
  | some component => return some component
  | none =>
    if builtin || Tag.startsLower key then throw (.missingBuiltin key)
    reportMissing key
    return none

/-- What stands in place of an image without an address. -/
def placeholder (props : Dict Json) : String :=
  let label := ((props.get? "alt").bind Json.str?).getD "image"
  "<span data-missing-asset=\"true\">[" ++ escape label ++ "]</span>"

/-- Renders with a component; an asset that is missing gives a placeholder. -/
def invoke (component : Component) (ctx : Context) (props : Dict Json) (children : String) :
    RenderM String := do
  match component ctx props children with
  | .ok html => return html
  | .error (.asset cause) =>
    report
      ("Rendering placeholder for <" ++ ctx.name ++ ">: " ++ cause.message)
      ("<" ++ ctx.name ++ "> replaced by a placeholder: " ++ cause.message)
    return placeholder props
  | .error error => throw error

/-- The positions of siblings. -/
def orders (mark : String) (children : List Wire.Node) : List Order :=
  Order.ofNames (children.map fun child => child.name?.map (Tag.bare mark))

mutual

/-- Renders a node at a position. -/
def node (r : Renderer) (order : Order) : Wire.Node → RenderM String
  | .text value => return escape value
  | .element name props cs => do
    if name == fragmentName then
      row r (orders r.tagPrefix cs) cs
    else
      let key := Tag.bare r.tagPrefix name
      let builtin := !r.tagPrefix.isEmpty && Text.hasPrefix r.tagPrefix name
      match ← lookup r key builtin with
      | none => row r (orders r.tagPrefix cs) cs
      | some component =>
        let inner ← row r (orders r.tagPrefix cs) cs
        invoke component
          { name := key, order := order, style := r.styles.get? key, assets := r.assets }
          props inner

/-- Renders siblings, given their positions. -/
def row (r : Renderer) (orders : List Order) : List Wire.Node → RenderM String
  | [] => return ""
  | n :: rest => do
    let here ← node r (orders.head?.getD .alone) n
    return here ++ (← row r orders.tail rest)

end

/-- The outcome of rendering a document. -/
structure Output where
  html : Except RenderError String
  diagnostics : List Diagnostic
  log : List Log

/-- Renders a document. -/
def render (r : Renderer) (document : Wire.Document) : Output :=
  let (html, state) := ((r.node .alone document.tree).run).run {}
  { html := html, diagnostics := state.diagnostics, log := state.log }

end Renderer

end Mdx.Html
