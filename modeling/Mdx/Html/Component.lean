import Mdx.Asset
import Mdx.Html.Element
import Mdx.Order
import Mdx.Tag

/-!
# Components

A component turns props and rendered children into HTML. The default namespace has one for every
HTML tag, with images resolving their sources.
-/

namespace Mdx.Html

/-- Why a document cannot be rendered. -/
inductive RenderError where
  /-- A built-in component is missing. -/
  | missingBuiltin (name : String)
  | asset (cause : Asset.Error)
  /-- A component failed. -/
  | component (name : String) (reason : String)
  deriving DecidableEq, Repr

def RenderError.message : RenderError → String
  | .missingBuiltin name =>
    "No MDX component found for key: \"" ++ name
      ++ "\". Define it using the provider: ComponentScopes::push(\x7b \"" ++ name
      ++ "\": ... \x7d)"
  | .asset cause => cause.message
  | .component name reason => "Component \x60" ++ name ++ "\x60 failed: " ++ reason

/-- What a component is told beside its props and children. -/
structure Context where
  /-- The key the component was found under. -/
  name : String
  order : Order
  /-- The style in scope for this key. -/
  style : Option Json
  assets : Asset.Resolver

/-- Renders props and children. -/
abbrev Component := Context → Dict Json → String → Except RenderError String

namespace Component

/-- Headings that stand first in their parent have no margin above. -/
def flushHeadings : List String := ["h1", "h2", "h3", "h4"]

/-- The element of an HTML tag. -/
def html (tag : String) : Component := fun ctx props children =>
  let extra : Dict Json :=
    if flushHeadings.contains tag && ctx.order.index == 0 then [("marginTop", .ofNat 0)] else []
  .ok (element tag props ctx.style extra children)

/-- The children alone. -/
def passthrough : Component := fun _ _ children => .ok children

/-- Sets a dimension under a key that has no value yet. -/
def fillDimension (key : String) (value : Option Float) (props : Dict Json) : Dict Json :=
  match value with
  | some x => if props.has key then props else props.insert key (.ofFloat x)
  | none => props

/-- The props of an image with the given address. -/
def imageProps (resolved : Asset.Resolved) (props : Dict Json) : Dict Json :=
  fillDimension "height" resolved.height
    (fillDimension "width" resolved.width (props.insert "src" (.str resolved.uri)))

/-- An image, whose source is its `src` or else its `source`. -/
def image : Component := fun ctx props children =>
  let rest : Dict Json := props.filter fun (key, _) => key != "source"
  match (props.get? "src").or (props.get? "source") with
  | none => .ok (element "img" rest ctx.style [] children)
  | some value =>
    match Asset.Source.ofJson? value with
    | none => .error (.asset (.unresolved value.text))
    | some source =>
      match ctx.assets.resolve source with
      | .error cause => .error (.asset cause)
      | .ok resolved => .ok (element "img" (imageProps resolved rest) ctx.style [] children)

end Component

/-- The components that are there by default. -/
def defaultComponents : Dict Component :=
  Dict.ofList (Tag.all.map (fun tag => (tag, Component.html tag))
    ++ [ ("img", Component.image), ("inlineCode", Component.html "code"),
         ("Wrapper", Component.passthrough) ])

end Mdx.Html
