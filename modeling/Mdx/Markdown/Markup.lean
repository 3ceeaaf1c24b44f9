import Mdx.Markdown.Target

/-!
# Raw HTML

Where a block of raw HTML begins and ends, and the tags, comments and declarations of HTML inside
text. They are kept as they stand.
-/

namespace Mdx.Markdown

/-- The kinds of HTML blocks, by what ends them. -/
inductive Markup where
  /-- A closing tag of an element whose content is not markup. -/
  | rawText
  | comment
  | instruction
  | declaration
  | cdata
  /-- A blank line, after the tag of a block element. -/
  | block
  /-- A blank line, after any other tag. -/
  | complete
  deriving DecidableEq, Repr

namespace Markup

/-- Elements whose content is not markup. -/
def rawNames : List String :=
  ["pre", "script", "style", "textarea"]

/-- Elements of which a tag begins a block. -/
def blockNames : List String :=
  ["address", "article", "aside", "base", "basefont", "blockquote", "body", "caption", "center",
    "col", "colgroup", "dd", "details", "dialog", "dir", "div", "dl", "dt", "fieldset",
    "figcaption", "figure", "footer", "form", "frame", "frameset", "h1", "h2", "h3", "h4", "h5",
    "h6", "head", "header", "hr", "html", "iframe", "legend", "li", "link", "main", "menu",
    "menuitem", "nav", "noframes", "ol", "optgroup", "option", "p", "param", "search", "section",
    "summary", "table", "tbody", "td", "tfoot", "th", "thead", "title", "tr", "track", "ul"]

/-- The cells begin with the given text, in any case of letters. -/
def beginsFolded (s : String) (cells : List Cell) : Bool :=
  (cells.take s.length).map (·.char.toLower) = s.toList

/-- The cells after the first occurrence of a text. -/
def after? (s : String) : List Cell → Option (List Cell)
  | [] => if s.isEmpty then some [] else none
  | c :: rest =>
    if Cell.begins s.toList (c :: rest) then some ((c :: rest).drop s.length) else after? s rest

/-- Some place in the cells begins with one of the given texts, in any case of letters. -/
def hasAny (texts : List String) : List Cell → Bool
  | [] => false
  | c :: rest => texts.any (beginsFolded · (c :: rest)) || hasAny texts rest

/-- The line holds what ends a block of this kind. -/
def endsIn (kind : Markup) (cells : List Cell) : Bool :=
  match kind with
  | .rawText => hasAny (rawNames.map fun n => "</" ++ n ++ ">") cells
  | .comment => (after? "-->" cells).isSome
  | .instruction => (after? "?>" cells).isSome
  | .declaration => (after? ">" cells).isSome
  | .cdata => (after? "]]>" cells).isSome
  | .block => false
  | .complete => false

/-- A blank line ends a block of this kind. -/
def endsAtBlank (kind : Markup) : Bool :=
  kind = .block || kind = .complete

/-! ## Tags -/

/-- The name of a tag. -/
def name (cells : List Cell) : List Cell :=
  cells.takeWhile fun c => c.char.isAlphanum || c.char = '-'

/-- Spaces and line ends. -/
def skipSpaces (cells : List Cell) : List Cell :=
  cells.dropWhile fun c => c.isSpace || c.isNewline

/-- Characters of a value that is not quoted. -/
def isBareValue (c : Cell) : Bool :=
  !(c.isSpace || c.isNewline || c.char = '"' || c.char.toNat = 0x27 || c.char = '<' ||
    c.char = '=' || c.char = '>' || c.char.toNat = 0x60)

/-- Reads the value of an attribute. -/
def value? (cells : List Cell) : Option (List Cell) :=
  match cells with
  | c :: rest =>
    if c.char = '"' || c.char.toNat = 0x27 then
      (upTo (· = c.char) (fun _ => false) (fun _ => false) false rest).map (·.2)
    else
      let bare := cells.takeWhile isBareValue
      if bare.isEmpty then none else some (cells.drop bare.length)
  | [] => none

/-- Reads the attributes and the end of an opening tag. -/
def attributes? : Nat → List Cell → Option (List Cell)
  | 0, _ => none
  | fuel + 1, cells =>
    let spaced := atSpace cells
    match skipSpaces cells with
    | c :: rest =>
      if c.char = '>' then some rest
      else if c.char = '/' then
        if Cell.head? rest = some '>' then some (rest.drop 1) else none
      else if spaced && (c.char.isAlpha || c.char = ':' || c.char = '_') then
        let rest := rest.dropWhile fun x =>
          x.char.isAlphanum || x.char = '-' || x.char = '.' || x.char = ':' || x.char = '_'
        let next := skipSpaces rest
        if Cell.head? next = some '=' then
          (value? (skipSpaces (next.drop 1))).bind (attributes? fuel)
        else attributes? fuel rest
      else none
    | [] => none

/-- Reads an opening or a closing tag after its angle bracket. -/
def tag? (cells : List Cell) : Option (List Cell) :=
  match cells with
  | c :: rest =>
    if c.char = '/' then
      if nextIsAlpha rest then
        match skipSpaces (rest.drop (name rest).length) with
        | e :: after => if e.char = '>' then some after else none
        | [] => none
      else none
    else if c.char.isAlpha then
      attributes? (cells.length + 1) (cells.drop (name cells).length)
    else none
  | [] => none
where
  /-- The cells begin with a letter. -/
  nextIsAlpha (cells : List Cell) : Bool := (Cell.head? cells).any Char.isAlpha

/-- Reads HTML inside text after its angle bracket. -/
def inline? (cells : List Cell) : Option (List Cell) :=
  if Cell.begins "!--".toList cells then
    let body := cells.drop 3
    if Cell.begins ">".toList body then some (body.drop 1)
    else if Cell.begins "->".toList body then some (body.drop 2)
    else after? "-->" body
  else if Cell.begins "![CDATA[".toList cells then after? "]]>" (cells.drop 8)
  else if Cell.begins "!".toList cells && ((cells.drop 1).head?.any fun c => c.char.isAlpha) then
    after? ">" (cells.drop 1)
  else if Cell.begins "?".toList cells then after? "?>" (cells.drop 1)
  else tag? cells

/-! ## Blocks -/

/-- What can follow the name of a tag that begins a block. -/
def endsTagName (slash : Bool) (cells : List Cell) : Bool :=
  match cells with
  | [] => true
  | c :: rest =>
    c.isSpace || c.char = '>' || (slash && c.char = '/' && Cell.head? rest = some '>')

/-- The kind of HTML block that begins with the cells after an angle bracket. A tag that is not
of a block element does not interrupt a paragraph. -/
def starts? (interrupts : Bool) (cells : List Cell) : Option Markup :=
  if Cell.begins "!--".toList cells then some .comment
  else if Cell.begins "?".toList cells then some .instruction
  else if Cell.begins "![CDATA[".toList cells then some .cdata
  else if Cell.begins "!".toList cells then
    if (cells.drop 1).head?.any fun c => c.char.isAlpha then some .declaration else none
  else
    let closes := Cell.head? cells = some '/'
    let body := if closes then cells.drop 1 else cells
    let word := name body
    let lower := String.ofList (word.map (·.char.toLower))
    let rest := body.drop word.length
    if !closes && rawNames.contains lower && endsTagName false rest then some .rawText
    else if blockNames.contains lower && endsTagName true rest then some .block
    else if interrupts then none
    else (tag? cells).bind fun after => if Cell.isBlank after then some .complete else none

end Markup

end Mdx.Markdown
