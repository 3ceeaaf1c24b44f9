import Mdx.Convert.Basic
import Mdx.Text.Case

/-!
# Footnotes

References are numbered by the order in which their identifiers first appear. The notes that were
referenced are gathered in a section at the end of the document, each with a link back.
-/

namespace Mdx.Convert

/-- What conversion carries along: the identifiers of footnotes in order of first reference, how
often each was referenced, the host statements met so far, and log lines. -/
structure State where
  order : List String := []
  uses : Dict Nat := []
  esm : List String := []
  log : List Log := []

/-- The part of an anchor that stands for a footnote. -/
def footnoteId (identifier : String) : String :=
  Text.lower (String.ofList (identifier.toList.map fun c => if Text.isBlank c then '-' else c))

/-- The place of an identifier in the order of footnotes, counted from one, and the order with the
identifier in it. -/
def ordinal (identifier : String) (order : List String) : Nat × List String :=
  match order.findIdx? (· == identifier) with
  | some i => (i + 1, order)
  | none => (order.length + 1, order ++ [identifier])

/-- The mark of a reference: the `use`-th to this footnote, shown as `number`. -/
def footnoteMark (identifier : String) (number use : Nat) : Tree :=
  let id := footnoteId identifier
  let again := if use == 1 then "" else "-" ++ toString use
  .plain "sup" [
    .element "a"
      [ ("ariaDescribedBy", .string "footnote-label"),
        ("dataFootnoteRef", .bool true),
        ("href", .string ("#user-content-fn-" ++ id)),
        ("id", .string ("user-content-fnref-" ++ id ++ again)) ]
      [.text (toString number)] ]

/-- Numbers and counts a reference and gives its mark. -/
def footnoteReference (identifier : String) : StateM State Tree := do
  let state ← get
  let (number, order) := ordinal identifier state.order
  let use := (state.uses.get? identifier).getD 0 + 1
  set { state with order := order, uses := state.uses.insert identifier use }
  return footnoteMark identifier number use

/-- The link from a note back to its first reference. -/
def backLink (identifier : String) (position : Nat) : Tree :=
  .element "a"
    [ ("ariaLabel", .string ("Back to reference " ++ toString position)),
      ("className", .string "data-footnote-backref"),
      ("dataFootnoteBackref", .string ""),
      ("href", .string ("#user-content-fnref-" ++ footnoteId identifier)) ]
    [.text "↩"]

/-- Puts the link back at the end of the last paragraph, or after the content if that does not end
with a paragraph. -/
def addBackLink (back : Tree) : List Tree → List Tree
  | [] => [back]
  | [.element "p" props children] => [.element "p" props (children ++ [.text " ", back])]
  | [t] => [t, back]
  | t :: ts => t :: addBackLink back ts

/-- A note around converted content. -/
def footnoteItem (identifier : String) (position : Nat) (content : List Tree) : Tree :=
  .element "li" [("id", .string ("user-content-fn-" ++ footnoteId identifier))]
    (onLines (addBackLink (backLink identifier position) content))

/-- The section of notes. -/
def footnoteSection (items : List Tree) : Tree :=
  .element "section" [("className", .string "footnotes"), ("dataFootnotes", .bool true)]
    (onLines [
      .element "h2" [("className", .string "sr-only"), ("id", .string "footnote-label")]
        [.text "Footnotes"],
      .plain "ol" (onLines items) ])

end Mdx.Convert
