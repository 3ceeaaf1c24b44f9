import Mdx.Text.Search

/-!
# Tags

The HTML tags with a component of their own, and the prefix that marks them in a tree.
-/

namespace Mdx.Tag

/-- The tags that are marked by the prefix. -/
def all : List String :=
  [ "a", "abbr", "address", "article", "aside", "b", "bdi", "bdo", "blockquote", "br", "caption",
    "cite", "code", "col", "colgroup", "data", "dd", "del", "details", "dfn", "div", "dl", "dt",
    "em", "figcaption", "figure", "footer", "h1", "h2", "h3", "h4", "h5", "h6", "header", "hr",
    "i", "img", "input", "ins", "kbd", "li", "main", "mark", "nav", "ol", "p", "pre", "q", "s",
    "samp", "section", "small", "span", "strong", "sub", "summary", "sup", "table", "tbody", "td",
    "tfoot", "th", "thead", "time", "tr", "u", "ul", "var", "wbr" ]

/-- The prefix used unless another is configured. -/
def defaultPrefix : String := "html."

/-- The name without the prefix, if it carries it. -/
def bare (mark name : String) : String :=
  (Text.afterPrefix? mark name).getD name

/-- The name with the prefix, for a tag that does not carry it yet. -/
def marked? (mark name : String) : Option String :=
  if mark.isEmpty || Text.hasPrefix mark name then none
  else if all.contains name then some (mark ++ name)
  else none

/-- The name starts with an ASCII lower-case letter, as the names of built-in components do. -/
def startsLower (name : String) : Bool :=
  match name.toList with
  | c :: _ => c.isLower
  | [] => false

end Mdx.Tag
