import Mdx.Json.Basic

/-!
# HTML elements

The text of an element: its tag, its attributes with escaped values, its style, and its children.
-/

namespace Mdx.Html

/-! ## Escaping -/

/-- The escape of a character in a text. -/
def escapeChar (c : Char) : List Char :=
  if c = '&' then "&amp;".toList
  else if c = '<' then "&lt;".toList
  else if c = '>' then "&gt;".toList
  else [c]

/-- The escape of a character in a quoted attribute. -/
def escapeAttributeChar (c : Char) : List Char :=
  if c = '"' then "&quot;".toList else escapeChar c

/-- A text with its special characters escaped. -/
def escape (s : String) : String :=
  String.ofList (s.toList.flatMap escapeChar)

/-- The value of an attribute with its special characters escaped. -/
def escapeAttribute (s : String) : String :=
  String.ofList (s.toList.flatMap escapeAttributeChar)

/-! ## Attributes -/

/-- The props that are no attributes. -/
def skippedProps : List String := ["style", "children", "components"]

/-- The attribute a prop is written as. -/
def attributeName (key : String) : String :=
  match key with
  | "className" => "class"
  | "htmlFor" => "for"
  | "ariaDescribedBy" => "aria-describedby"
  | "dataFootnoteRef" => "data-footnote-ref"
  | "dataFootnoteBackref" => "data-footnote-backref"
  | "dataFootnotes" => "data-footnotes"
  | key => key

/-- The texts of a list of strings; none if there is anything else in it. -/
def strings? (items : List Json) : Option (List String) :=
  items.mapM Json.str?

/-- The text of an attribute's value; lists of strings are joined by spaces. -/
def attributeText (value : Json) : String :=
  match value with
  | .str s => s
  | .arr items =>
    match strings? items with
    | some words => String.intercalate " " words
    | none => value.text
  | value => value.text

/-- An attribute with a space before it. True is written without a value, false and null not at
all. -/
def attributeHtml (name : String) (value : Json) : String :=
  match value with
  | .null => ""
  | .bool false => ""
  | .bool true => " " ++ name
  | value => " " ++ name ++ "=\"" ++ escapeAttribute (attributeText value) ++ "\""

/-- The attributes of props. -/
def attributesHtml (props : Dict Json) : String :=
  String.join (props.map fun (key, value) =>
    if skippedProps.contains key then "" else attributeHtml (attributeName key) value)

/-! ## Styles -/

/-- Numbers of these properties have no unit. -/
def unitless : List String :=
  ["flex", "flexGrow", "flexShrink", "fontWeight", "lineHeight", "opacity", "zIndex"]

/-- A property name with hyphens in place of capitals. -/
def hyphenated (key : String) : String :=
  String.ofList (key.toList.flatMap fun c => if c.isUpper then ['-', c.toLower] else [c])

/-- The value of a property, if it is a number or a text. -/
def styleValue? (key : String) : Json → Option String
  | .num n =>
    let digits := String.ofList n.chars
    some (if unitless.contains key then digits else digits ++ "px")
  | .str s => some s
  | _ => none

/-- A style as text. -/
def styleText (style : Dict Json) : String :=
  String.intercalate " " (style.filterMap fun (key, value) =>
    (styleValue? key value).map fun v => hyphenated key ++ ": " ++ v ++ ";")

/-- The fields of an object, and nothing for any other value. -/
def styleFields (value : Option Json) : Dict Json :=
  (value.bind Json.obj?).getD []

/-- The style attribute, where the style is not empty. -/
def styleHtml (style : Dict Json) : String :=
  let text := styleText style
  if text.isEmpty then "" else " style=\"" ++ escapeAttribute text ++ "\""

/-! ## Elements -/

/-- The tags without content and closing tag. -/
def voidTags : List String := ["br", "col", "hr", "img", "input", "wbr"]

/-- The text of an element. Of the three styles, the outer one counts least and that of the props
most. -/
def element (tag : String) (props : Dict Json) (outer : Option Json) (extra : Dict Json)
    (children : String) : String :=
  let style := ((styleFields outer).union extra).union (styleFields (props.get? "style"))
  let opening := "<" ++ tag ++ attributesHtml props ++ styleHtml style ++ ">"
  if voidTags.contains tag then opening else opening ++ children ++ "</" ++ tag ++ ">"

end Mdx.Html
