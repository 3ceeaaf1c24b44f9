import Mdx.Text.Blank
import Mdx.Text.Letter
import Mdx.Text.Search

/-!
# Statements and bindings of host blocks

The `import` and `export` blocks of a document are passed on to the generated module. Two things
are read from them: a default export, which becomes the document's layout, and the names they bind,
which elements may then use directly.
-/

namespace Mdx.Module

open Text

/-! ## The layout -/

/-- The name under which a default export is bound. -/
def layoutName : String := "MDXLayout"

/-- What stands in a line after `export default `. -/
def defaultExport? (line : List Char) : Option (List Char) :=
  after? "export default ".toList (trimLeft line)

/-- Turns the first default export in lines into a binding of the layout; `found` says that there
was one before. -/
def bindLayout (found : Bool) : List (List Char) → Bool × List (List Char)
  | [] => (found, [])
  | line :: rest =>
    match found, defaultExport? line with
    | false, some value =>
      let (_, rest) := bindLayout true rest
      (true, (("const " ++ layoutName ++ " = ").toList ++ value) :: rest)
    | _, _ =>
      let (found, rest) := bindLayout found rest
      (found, line :: rest)

/-- Joins lines with line feeds. -/
def joinLines : List (List Char) → List Char
  | [] => []
  | [line] => line
  | line :: rest => line ++ '\n' :: joinLines rest

/-- Turns the first default export in blocks into a binding of the layout, and says whether there
is one. -/
def bindLayouts (found : Bool) : List (List Char) → Bool × List (List Char)
  | [] => (found, [])
  | block :: rest =>
    let (found, ls) := bindLayout found (lines block)
    let (found, rest) := bindLayouts found rest
    (found, joinLines ls :: rest)

/-! ## Statements -/

/-- The pieces of a line up to and with each semicolon; the flag says that a piece ends with one. -/
def pieces : List Char → List (List Char × Bool)
  | [] => []
  | c :: rest =>
    if c = ';' then ([c], true) :: pieces rest
    else
      match pieces rest with
      | [] => [([c], false)]
      | (piece, ended) :: more => (c :: piece, ended) :: more

/-- A piece without its semicolons and surrounding white space. -/
def bare (piece : List Char) : List Char :=
  trimRight (dropEndWhile (· = ';') (trim piece))

/-- The words that open a statement wherever a piece begins with them. -/
def openers : List String := ["import ", "export ", "const "]

/-- A piece that opens a statement. -/
def opens (piece : List Char) : Bool :=
  openers.any fun word => begins word.toList piece

/-- Gathers pieces into statements; `current` is the statement that is still open. -/
def gather (current : Option (List Char)) : List (List Char × Bool) → List (List Char)
  | [] => current.toList
  | (piece, ended) :: rest =>
    let text := bare piece
    if text.isEmpty then
      if ended then current.toList ++ gather none rest else gather current rest
    else
      match current with
      | some statement =>
        if opens text then
          statement :: (if ended then text :: gather none rest else gather (some text) rest)
        else
          let statement := statement ++ ' ' :: text
          if ended then statement :: gather none rest else gather (some statement) rest
      | none => if ended then text :: gather none rest else gather (some text) rest

/-- The statements of a block, each on one line. -/
def statements (block : List Char) : List (List Char) :=
  gather none ((lines block).flatMap pieces)

/-! ## Bound names -/

/-- A character of a name. -/
def isNameChar (c : Char) : Bool :=
  isAlphanumeric c || c = '_' || c = '$'

/-- The name at the start of a text. -/
def leadingName? (s : List Char) : Option String :=
  match s.takeWhile isNameChar with
  | [] => none
  | c :: cs => if isAlphabetic c || c = '_' || c = '$' then some (String.ofList (c :: cs)) else none

/-- The local name of one item between the braces of an import. -/
def specifierName? (item : List Char) : Option String :=
  let item := trim item
  let name :=
    match cutLast? " as ".toList item with
    | some (_, name) => name
    | none => item
  leadingName? (trim name)

/-- The names between the braces of an import, and what stands before them. -/
def namedImports (clause : List Char) : List String × List Char :=
  match cut? ['\x7b'] clause with
  | some (before, inside) =>
    let list := inside.takeWhile (· ≠ '\x7d')
    ((splitAt (· = ',') list).filterMap specifierName?,
      dropEndWhile (fun c => c = ' ' || c = ',') before)
  | none => ([], clause)

/-- The name of a whole-module import, and what stands before it. -/
def namespaceImport (clause : List Char) : List String × List Char :=
  match cut? "* as ".toList clause with
  | some (before, name) => ((leadingName? (trim name)).toList, before)
  | none => ([], clause)

/-- The names bound by an import, given what follows the word `import`. -/
def importNames (clause : List Char) : List String :=
  match cutLast? " from ".toList clause with
  | none => []
  | some (specifiers, _) =>
    let (named, rest) := namedImports (trim specifiers)
    let (whole, rest) := namespaceImport rest
    let default := trim (dropEndWhile (· = ',') (trim rest))
    named ++ whole ++ (leadingName? default).toList

/-- The words that declare a name in an export. -/
def declarators : List String := ["const ", "let ", "var ", "function ", "class "]

/-- The name declared by an export, given what follows the word `export`. -/
def exportName? (clause : List Char) : Option String :=
  (declarators.findSome? fun word => after? word.toList (trimLeft clause)).bind leadingName?

/-- The names bound by a statement. -/
def statementNames (statement : List Char) : List String :=
  match after? "import ".toList statement with
  | some clause => importNames clause
  | none =>
    match after? "export ".toList statement with
    | some clause => (exportName? clause).toList
    | none =>
      match after? ("const " ++ layoutName).toList statement with
      | some rest => if begins ['='] (trimLeft rest) then [layoutName] else []
      | none => []

/-- The names bound by blocks. -/
def boundNames (blocks : List (List Char)) : List String :=
  (blocks.flatMap statements).flatMap statementNames

end Mdx.Module
