import Mdx.Json.Basic
import Mdx.Rendered

/-!
# Element expressions

The expression a generated module evaluates to build its tree: nested calls, each with the component
it refers to, its props, its position and its children.
-/

namespace Mdx.Module

/-- How a call finds its component. -/
inductive Reference where
  /-- Looked up under a key that has to be there. -/
  | builtin (key : String)
  /-- Looked up under a key, with a stand-in if it is missing. -/
  | custom (key : String)
  /-- A name bound in the module. -/
  | bound (name : String)
  /-- The fragment of the host library. -/
  | fragment
  deriving DecidableEq, Repr

/-- An expression that builds a node. -/
inductive Expr where
  | text (value : String)
  | call (reference : Reference) (props : List (String × PropValue)) (order : Option Order)
      (children : List Expr)

/-- The reference for an element name: with the prefix it is built in, a name bound in the module is
used directly, and of the others those in lower case are built in. -/
def reference (mark : String) (bound : List String) (name : String) : Reference :=
  match (if mark.isEmpty then none else Text.afterPrefix? mark name) with
  | some key => .builtin key
  | none =>
    if bound.contains (String.ofList (name.toList.takeWhile (· ≠ '.'))) then .bound name
    else if Tag.startsLower name then .builtin name
    else .custom name

mutual

/-- The expression of a tree at a position. -/
def ofTree (mark : String) (bound : List String) (preformatted : Bool) (order : Order) :
    Tree → Expr
  | .text value => .text value
  | .element name props cs =>
    let preformatted := preformatted || Rendered.isPreformatted mark name
    .call (reference mark bound name) props (some order)
      (ofRow mark bound preformatted (Rendered.orders mark preformatted cs) cs)
  | .fragment cs =>
    .call .fragment [] none
      (ofRow mark bound preformatted (Rendered.orders mark preformatted cs) cs)

/-- The expressions of the rendered ones of a row of trees, given their positions. -/
def ofRow (mark : String) (bound : List String) (preformatted : Bool) (orders : List Order) :
    List Tree → List Expr
  | [] => []
  | t :: ts =>
    if Rendered.skips preformatted t then ofRow mark bound preformatted orders ts
    else
      ofTree mark bound preformatted (orders.head?.getD .alone) t
        :: ofRow mark bound preformatted orders.tail ts

end

/-! ## Text -/

/-- The text of a reference. -/
def Reference.chars : Reference → List Char
  | .builtin key => "_builtinComponent(components, ".toList ++ Json.quote key ++ [')']
  | .custom key => "_customComponent(components, ".toList ++ Json.quote key ++ [')']
  | .bound name => name.toList
  | .fragment => "_Fragment".toList

/-- The text of a prop's value: a local asset is loaded, an expression is kept as a string. -/
def propChars : PropValue → List Char
  | .literal value => value.chars
  | .expression source => Json.quote source
  | .localAsset path => "require(".toList ++ Json.quote path ++ [')']

/-- An entry of an object literal. -/
def entry (key value : List Char) : List Char :=
  key ++ ':' :: ' ' :: value

/-- Texts with a comma and a space between them. -/
def commaSeparated : List (List Char) → List Char
  | [] => []
  | [t] => t
  | t :: ts => t ++ ',' :: ' ' :: commaSeparated ts

/-- A truth value as text. -/
def boolChars (b : Bool) : List Char :=
  if b then "true".toList else "false".toList

/-- The entries that describe a position. -/
def orderEntries (order : Order) : List (List Char) :=
  [ entry "components".toList "components".toList,
    entry "index".toList (Nat.toDigits 10 order.index),
    entry "firstChild".toList (boolChars order.firstChild),
    entry "lastChild".toList (boolChars order.lastChild),
    entry "firstOfType".toList (boolChars order.firstOfType),
    entry "prevSiblingName".toList (Json.quote order.prevSiblingName) ]

/-- The entry for children, given their texts. -/
def childrenEntry : List (List Char) → List (List Char)
  | [] => []
  | [child] => [entry "children".toList child]
  | children => [entry "children".toList ('[' :: (commaSeparated children ++ [']']))]

mutual

/-- The text of an expression. -/
def Expr.chars : Expr → List Char
  | .text value => Json.quote value
  | .call reference props order children =>
    let function := if children.length < 2 then "_jsx(" else "_jsxs("
    let entries :=
      props.map (fun (key, value) => entry (Json.quote key) (propChars value))
        ++ (order.map orderEntries).getD []
        ++ childrenEntry (Expr.rowChars children)
    function.toList ++ reference.chars
      ++ ',' :: ' ' :: '\x7b' :: (commaSeparated entries ++ ['\x7d', ')'])

/-- The texts of a row of expressions. -/
def Expr.rowChars : List Expr → List (List Char)
  | [] => []
  | e :: es => Expr.chars e :: Expr.rowChars es

end

end Mdx.Module
