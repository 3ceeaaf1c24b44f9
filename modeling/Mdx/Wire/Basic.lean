import Mdx.Json.Spelling

/-!
# Wire documents

The form in which compiled documents travel: a tree of texts and elements whose props are JSON
values, with the document's metadata. The text of a document is JSON with its fields in a fixed
order, and empty parts left out.
-/

namespace Mdx.Wire

/-- A node of a wire document. -/
inductive Node where
  | text (value : String)
  | element (name : String) (props : List (String × Json)) (children : List Node)

instance : Inhabited Node := ⟨.text ""⟩

/-- A compiled document. -/
structure Document where
  tree : Node
  frontmatter : Option (Dict Json) := none

namespace Node

/-- The name of an element. -/
def name? : Node → Option String
  | .element name _ _ => some name
  | .text _ => none

/-- The children of an element. -/
def children : Node → List Node
  | .element _ _ cs => cs
  | .text _ => []

/-! ## Text -/

/-- A field of an object: its name and its text. -/
def field (key : String) (value : List Char) : List Char :=
  Json.quote key ++ ':' :: value

/-- Joins the fields of an object. -/
def braces : List (List Char) → List Char
  | [] => ['\x7b', '\x7d']
  | first :: rest => '\x7b' :: (first ++ rest.flatMap (',' :: ·) ++ ['\x7d'])

mutual

/-- The text of a node. -/
def chars : Node → List Char
  | .text value => braces [field "type" (Json.quote "text"), field "value" (Json.quote value)]
  | .element name props cs =>
    braces
      ([field "type" (Json.quote "element"), field "name" (Json.quote name)]
        ++ (if props.isEmpty then [] else [field "props" (Json.chars (.obj props))])
        ++ (if cs.isEmpty then [] else [field "children" ('[' :: (rowChars cs ++ [']']))]))

/-- The texts of a row of nodes, separated by commas. -/
def rowChars : List Node → List Char
  | [] => []
  | [n] => chars n
  | n :: rest => chars n ++ ',' :: rowChars rest

end

/-! ## Reading -/

open Json (Spelling)

/-- The props of an element as spelled; left out they are empty. -/
def props? : Option Spelling → Option (Dict Json)
  | none => some []
  | some spelling => (spelling.value? Json.maxDepth).bind Json.obj?

mutual

/-- The node of a spelling. The tag is the field `type`, or the first item of an array. -/
def ofSpelling? : Spelling → Option Node
  | .obj fields =>
    match Spelling.record? ["type"] (.obj fields) with
    | some [some (.str (some "text"))] =>
      match Spelling.record? ["value"] (.obj fields) with
      | some [some (.str (some value))] => some (.text value)
      | _ => none
    | some [some (.str (some "element"))] =>
      match Spelling.record? ["name", "props", "children"] (.obj fields) with
      | some [some (.str (some name)), props, _] =>
        match props? props, childField? fields with
        | some props, some children => some (.element name props children)
        | _, _ => none
      | _ => none
    | _ => none
  | .arr (.str (some "text") :: items) =>
    match items with
    | [.str (some value)] => some (.text value)
    | _ => none
  | .arr (.str (some "element") :: items) =>
    match items with
    | [.str (some name)] => some (.element name [] [])
    | [.str (some name), props] => (props? (some props)).map fun props => .element name props []
    | [.str (some name), props, .arr list] =>
      match props? (some props), rowOfSpelling? list with
      | some props, some children => some (.element name props children)
      | _, _ => none
    | _ => none
  | _ => none

/-- The nodes under the first field `children`; left out there are none. -/
def childField? : List (Option String × Spelling) → Option (List Node)
  | [] => some []
  | (key, item) :: rest =>
    if key = some "children" then
      match item with
      | .arr list => rowOfSpelling? list
      | _ => none
    else childField? rest

/-- The nodes of a row of spellings. -/
def rowOfSpelling? : List Spelling → Option (List Node)
  | [] => some []
  | item :: rest =>
    match ofSpelling? item, rowOfSpelling? rest with
    | some n, some ns => some (n :: ns)
    | _, _ => none

end

end Node

namespace Document

/-- The text of a document. -/
def chars (d : Document) : List Char :=
  Node.braces (Node.field "tree" d.tree.chars
    :: (d.frontmatter.map fun map => Node.field "frontmatter" (Json.chars (.obj map))).toList)

/-- The text of a document. -/
def text (d : Document) : String :=
  String.ofList d.chars

open Json (Spelling)

/-- The metadata of a document as spelled. -/
def frontmatter? : Option Spelling → Option (Option (Dict Json))
  | none => some none
  | some .null => some none
  | some spelling => ((spelling.value? (Json.maxDepth - 1)).bind Json.obj?).map some

/-- The document of a spelling. The whole tree must have a meaning, also where it is not used. -/
def ofSpelling? (spelling : Spelling) : Option Document :=
  match Spelling.record? ["tree", "frontmatter"] spelling with
  | some [some tree, frontmatter] =>
    match tree.value? (Json.maxDepth - 1), Node.ofSpelling? tree, frontmatter? frontmatter with
    | some _, some tree, some map => some { tree := tree, frontmatter := map }
    | _, _, _ => none
  | _ => none

/-- The document of a JSON text. -/
def read? (s : String) : Option Document :=
  (Spelling.read? s).bind ofSpelling?

/-- The document of a JSON value. -/
def ofJson? (value : Json) : Option Document :=
  ofSpelling? (.ofJson value)

end Document

end Mdx.Wire
