import Mdx.Markdown.Target

/-!
# Addresses

Addresses between angle brackets, and those that are recognised in plain text: web addresses by how
they begin, and mail addresses by the sign in their middle.
-/

namespace Mdx.Markdown

/-- An address that was found: where it leads and the text that shows it. -/
structure Address where
  url : String
  text : String
  deriving DecidableEq, Repr

/-- The link of an address. -/
def Address.node (a : Address) : Node :=
  .link a.url none [.text a.text]

/-! ## Between angle brackets -/

/-- Characters of a scheme. -/
def isSchemeChar (c : Char) : Bool :=
  c.isAlphanum || c = '+' || c = '-' || c = '.'

/-- Characters before the sign of a mail address. -/
def isMailChar (c : Char) : Bool :=
  c.isAlphanum || ".!#$%&*+/=?^_|~-".toList.contains c || c.toNat = 0x27 || c.toNat = 0x60 ||
    c.toNat = 0x7b || c.toNat = 0x7d

/-- Reads an address with a scheme after its angle bracket. -/
def schemeAddress? (cells : List Cell) : Option (Address × List Cell) :=
  let scheme := cells.takeWhile fun c => isSchemeChar c.char
  let rest := cells.drop scheme.length
  if !(Cell.head? scheme).any Char.isAlpha || scheme.length < 2 || scheme.length > 32 ||
      Cell.head? rest ≠ some ':' then none
  else
    let body := rest.takeWhile fun c =>
      !(c.char = '>' || c.char = '<' || c.isSpace || isControl c.char)
    match rest.drop body.length with
    | e :: after =>
      if e.char = '>' then
        let text := Cell.text (scheme ++ body)
        some (⟨text, text⟩, after)
      else none
    | [] => none

/-- A part of a mail domain: letters, digits and inner hyphens. -/
def isMailLabel (cells : List Cell) : Bool :=
  !cells.isEmpty && cells.length ≤ 63 && cells.all (fun c => c.char.isAlphanum || c.char = '-') &&
    Cell.head? cells ≠ some '-' && (cells.getLast?.map (·.char)) ≠ some '-'

/-- Splits cells at the dots. -/
def splitDots : List Cell → List Cell → List (List Cell)
  | current, [] => [current.reverse]
  | current, c :: rest =>
    if c.char = '.' then current.reverse :: splitDots [] rest else splitDots (c :: current) rest

/-- Reads a mail address after its angle bracket. -/
def mailAddress? (cells : List Cell) : Option (Address × List Cell) :=
  let name := cells.takeWhile fun c => isMailChar c.char
  let rest := cells.drop name.length
  if name.isEmpty || Cell.head? rest ≠ some '@' then none
  else
    let domain := (rest.drop 1).takeWhile fun c => c.char.isAlphanum || c.char = '-' || c.char = '.'
    match rest.drop (domain.length + 1) with
    | e :: after =>
      if e.char = '>' && (splitDots [] domain).all isMailLabel then
        let text := Cell.text (name ++ rest.take (domain.length + 1))
        some (⟨"mailto:" ++ text, text⟩, after)
      else none
    | [] => none

/-- Reads an address after its angle bracket. -/
def bracketed? (cells : List Cell) : Option (Address × List Cell) :=
  schemeAddress? cells <|> mailAddress? cells

/-! ## Web addresses in text -/

/-- Neither white space nor punctuation. -/
def isWordChar (c : Char) : Bool :=
  !Text.isBlank c && !Text.isPunctuation c

/-- Marks that do not belong to an address if only such marks follow them. -/
def isTrailing (c : Char) : Bool :=
  "!\")*,.:;?_~".toList.contains c || c.toNat = 0x27

/-- Only trailing marks follow up to the end of an address. -/
def trails : Nat → List Cell → Bool
  | 0, _ => false
  | _, [] => true
  | fuel + 1, c :: rest =>
    if isTrailing c.char then trails fuel rest
    else if c.char = '&' then
      let letters := rest.takeWhile (·.char.isAlpha)
      let after := rest.drop letters.length
      !letters.isEmpty && Cell.head? after = some ';' && trails fuel (after.drop 1)
    else if c.char = '<' then true
    else if c.char = ']' then
      (Cell.head? rest).all (fun d => d = ' ' || d = '\t' || d = '\n' || d = '(' || d = '[') ||
        trails fuel rest
    else Text.isBlank c.char

/-- Only trailing marks follow. -/
def atTrail (cells : List Cell) : Bool :=
  trails (cells.length + 1) cells

/-- How long the domain is that the cells begin with. There is no underscore in its last two parts,
which `last` and `before` tell, and it has a letter or digit, which `seen` tells. -/
def domainLength? (seen last before : Bool) : List Cell → Option Nat
  | [] => if seen && !last && !before then some 0 else none
  | c :: rest =>
    let ends := if seen && !last && !before then some 0 else none
    if c.char = '.' || c.char = '_' then
      if atTrail (c :: rest) then ends
      else if c.char = '_' then (domainLength? seen true before rest).map (· + 1)
      else (domainLength? seen false last rest).map (· + 1)
    else if c.char = '-' then (domainLength? seen last before rest).map (· + 1)
    else if isWordChar c.char then (domainLength? true last before rest).map (· + 1)
    else ends

/-- Marks inside a path that may be trailing. -/
def mayTrail (c : Char) : Bool :=
  isTrailing c || c = '&' || c = '<' || c = ']'

/-- How long the path is that the cells begin with; `opens` and `closes` count parentheses. -/
def pathLength (opens closes : Nat) : List Cell → Nat
  | [] => 0
  | c :: rest =>
    if c.char = '(' then pathLength (opens + 1) closes rest + 1
    else
      let closes' := if c.char = ')' then closes + 1 else closes
      if mayTrail c.char then
        if atTrail (c :: rest) && !(c.char = ')' && closes < opens) then 0
        else pathLength opens closes' rest + 1
      else if Text.isBlank c.char then 0
      else pathLength opens closes rest + 1

/-- An address that begins with the given text, of which the first `lead` cells are no part of the
domain. -/
def webAddress? (lead : Nat) (root : String) (cells : List Cell) :
    Option (Address × List Cell) := do
  let domain ← domainLength? false false false (cells.drop lead)
  let size := lead + domain
  let size := size + pathLength 0 0 (cells.drop size)
  let text := Cell.text (cells.take size)
  return (⟨root ++ text, text⟩, cells.drop size)

/-- The cells begin with a text, in any case of letters. -/
def beginsAnyCase (s : String) (cells : List Cell) : Bool :=
  (cells.take s.length).map (·.char.toLower) = s.toList

/-- An address in text that begins here, after the given character. -/
def literal? (previous : Option Char) (cells : List Cell) : Option (Address × List Cell) :=
  if beginsAnyCase "www." cells then
    if previous.all (fun c => "\t\n (*_[]~".toList.contains c) && cells.length > 4 then
      webAddress? 0 "http://" cells
    else none
  else
    let lead := if beginsAnyCase "http://" cells then 7
      else if beginsAnyCase "https://" cells then 8 else 0
    if lead > 0 && !previous.any Char.isAlpha &&
        ((cells.drop lead).head?.any fun c => isWordChar c.char && !isControl c.char) then
      webAddress? lead "" cells
    else none

/-! ## Mail addresses in text -/

/-- Characters before the sign of a mail address in text. -/
def isNameChar (c : Char) : Bool :=
  c.isAlphanum || c = '+' || c = '-' || c = '.' || c = '_'

/-- How long the mail domain is that the cells begin with; `slash` allows slashes. -/
def mailDomain (slash : Bool) : List Cell → Nat
  | [] => 0
  | c :: rest =>
    if c.char.isAlphanum || c.char = '-' || c.char = '_' || (slash && c.char = '/') then
      mailDomain slash rest + 1
    else if c.char = '.' && (Cell.head? rest).any Char.isAlphanum then mailDomain slash rest + 1
    else 0

/-- How many cells of the row before the sign, which comes last first, belong to a mail address;
and its scheme, if it has one. -/
def mailName? (before : List Cell) : Option (Nat × Option String) :=
  let name := before.takeWhile fun c => isNameChar c.char
  let rest := before.drop name.length
  if name.isEmpty || Cell.head? rest = some '/' then none
  else if Cell.head? rest = some ':' then
    let scheme := (rest.drop 1).takeWhile (·.char.isAlphanum)
    let word := String.ofList (scheme.reverse.map (·.char.toLower))
    if word = "mailto" || word = "xmpp" then some (name.length + 1 + scheme.length, some word)
    else some (name.length, none)
  else some (name.length, none)

/-- The mail address around the sign that stands before `after`: how many cells it takes of each
side, and the address. -/
def mail? (before : List Cell) (sign : Cell) (after : List Cell) :
    Option (Nat × Nat × Address) := do
  let (left, scheme) ← mailName? before
  let right := mailDomain (scheme = some "xmpp") after
  let domain := after.take right
  let last := (domain.getLast?.map (·.char)).any fun c => c.isAlpha || c = '.'
  if domain.any (·.char = '.') && last then
    let text := Cell.text ((before.take left).reverse ++ sign :: domain)
    return (left, right, ⟨(if scheme.isSome then "" else "mailto:") ++ text, text⟩)
  else none

end Mdx.Markdown
