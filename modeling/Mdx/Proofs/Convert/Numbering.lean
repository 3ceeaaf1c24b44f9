import Mdx.Proofs.Convert.Elements

/-!
# Numbers of footnote marks

What the marks in the body of a document show and how they are anchored. The references that stand
outside footnote definitions are read off the nodes of the document, in document order
(`Markdown.Node.cited`). The main statement is `marks_numbered`: without JSX elements, the raised
elements of the body are the marks of these references and nothing else, one for each; a mark shows
the rank of its footnote among those that are referred to, and its anchor counts the references to
this footnote.
-/

namespace Mdx

namespace Markdown.Node

/-- The footnote that a node is a reference to. -/
def cited? : Node → Option String
  | .footnoteReference id => some id
  | _ => none

/-- The footnotes that a document refers to outside of footnote definitions, in document order. -/
def cited (document : Node) : List String :=
  document.outside.filterMap cited?

/-- Outside of footnote definitions there are no JSX elements, and rows and cells stand where they
belong. -/
structure Native (document : Node) : Prop where
  jsx : ∀ n ∈ document.outside, n.isJsx = false
  tables : ∀ n ∈ document.outside, n.isTabular = true
  block : document.isRow = false ∧ document.isCell = false

end Markdown.Node

namespace Convert

open Markdown (Node)

/-! ## Events that are references -/

theorem Event.eq_reference {event : Event} {id : String} (h : event.bare = .reference id) :
    event = .reference id := by
  cases event with
  | jsx name attributes tight => cases h
  | reference other => exact h
  | note other => cases h

/-- A document without JSX elements gives its references and nothing else. -/
theorem events_cited {document : Node} (h : document.Native)
    (targets : Dict (String × Option String)) (tight : Bool) :
    events targets tight document = document.cited.map Event.reference := by
  have hgiven : ∀ n ∈ document.outside, given? n = n.cited?.map Event.reference := by
    intro n hn
    have hjsx := h.jsx n hn
    cases n with
    | jsxFlow name attributes cs | jsxText name attributes cs => cases hjsx
    | _ => rfl
  have hbare : (events targets tight document).map Event.bare
      = document.cited.map Event.reference := by
    rw [events_given targets document h.tables h.block.1 h.block.2, List.filterMap_congr hgiven,
      Node.cited, List.map_filterMap]
  have hsame : ∀ event ∈ events targets tight document, event.bare = id event := by
    intro event hevent
    have hmem := List.mem_map_of_mem (f := Event.bare) hevent
    rw [hbare] at hmem
    obtain ⟨name, -, hname⟩ := List.mem_map.mp hmem
    rw [Event.eq_reference hname.symm]
    rfl
  rw [← hbare, List.map_congr_left hsame, List.map_id]

theorem referred_references (ids : List String) : referred (ids.map Event.reference) = ids := by
  rw [referred, List.filterMap_map]
  exact List.filterMap_some

/-- The references that conversion meets in the body are those of the document. -/
theorem references_eq_cited {document : Node} (h : document.Native) :
    document.references = document.cited := by
  rw [← (node_writes [] document).told false, events_cited h, referred_references]

/-! ## Raised elements -/

mutual

theorem length_named (name : String) (t : Tree) :
    (t.named name).length = t.elements.countP (·.name == name) := by
  cases t with
  | element other props cs =>
      rw [Tree.named, Tree.elements, List.length_append, List.countP_cons, length_rowNamed name cs]
      by_cases hname : other = name
      · simp [hname]
        omega
      · simp [hname]
  | text value => rfl
  | fragment cs => exact length_rowNamed name cs
termination_by sizeOf t

theorem length_rowNamed (name : String) (ts : List Tree) :
    (Tree.rowNamed name ts).length = (Tree.rowElements ts).countP (·.name == name) := by
  cases ts with
  | nil => rfl
  | cons t ts =>
      rw [Tree.rowNamed, Tree.rowElements, List.length_append, List.countP_append, length_named,
        length_rowNamed name ts]
termination_by sizeOf ts

end

theorem length_raised (ts : List Tree) :
    (raised ts).length = (heads ts).countP (·.1 == "sup") := by
  rw [raised, length_rowNamed, heads, List.countP_map]
  rfl

/-- References write one raised element each. -/
theorem countP_written (seen ids : List String) :
    (written seen (ids.map Event.reference)).countP (·.1 == "sup") = ids.length := by
  induction ids generalizing seen with
  | nil => rfl
  | cons id ids ih =>
      rw [List.map_cons, written, List.countP_cons_of_pos rfl,
        List.countP_cons_of_neg (by simp [markHead]), ih, List.length_cons]

theorem length_marks (order earlier refs : List String) :
    (marks order earlier refs).length = refs.length := by
  induction refs generalizing earlier with
  | nil => rfl
  | cons id refs ih => rw [marks, List.length_cons, ih, List.length_cons]

/-- The mark of a reference is told by what it refers to and by the references before it. -/
theorem getElem?_marks (order earlier refs : List String) (i : Nat) :
    (marks order earlier refs)[i]? = refs[i]?.map fun id =>
      footnoteMark id (order.idxOf id + 1) ((earlier ++ refs.take i).count id + 1) := by
  induction refs generalizing earlier i with
  | nil => rfl
  | cons id refs ih =>
      cases i with
      | zero => simp [marks]
      | succ i => simp [marks, ih]

/-- The raised elements of the blocks are the marks of the references. -/
theorem raised_blocks {document : Node} (h : document.Native) :
    raised ((blocks (Definitions.collect {} document) document).run {}).1
      = marks document.cited.eraseDups [] document.cited := by
  have hmarks := (blocks_perform (Definitions.collect {} document) document).marks .empty
    (List.prefix_refl document.numbering)
  rw [Node.numbering, references_eq_cited h] at hmarks
  have hwritten := blocks_written document
  rw [events_cited h] at hwritten
  have hfilter := hwritten.filter_eq (q := (·.1 == "sup")) fun head hmade => by simp [hmade.raised]
  refine (hmarks.eq_of_length ?_).symm
  rw [length_raised, List.countP_eq_length_filter, hfilter, ← List.countP_eq_length_filter,
    countP_written, length_marks]

/-! ## Documents -/

/-- The anchor of the `n`-th reference to a footnote. -/
def useAnchor (id : String) (n : Nat) : String :=
  markAnchor (footnoteId id) n

/-- The anchor of the link in a mark. -/
def linkAnchor? : Tree → Option String
  | .element _ _ [link] => anchor? link
  | _ => none

theorem linkAnchor?_footnoteMark (id : String) (number use : Nat) :
    linkAnchor? (footnoteMark id number use) = some (useAnchor id use) := by
  have hlink : linkAnchor? (footnoteMark id number use)
      = ((markHead id use).2.get? "id").bind PropValue.str? := rfl
  rw [hlink, get?_markHead]
  rfl

theorem eraseDups_eq_nil_iff {ids : List String} : ids.eraseDups = [] ↔ ids = [] := by
  simp [List.eq_nil_iff_forall_not_mem]

/-- Numbers and anchors of footnote marks. A converted document is made of its blocks and, if it
refers to footnotes, of the section of the notes after them. The blocks have one mark for each
reference outside of footnote definitions, in document order. It shows the rank of its footnote
among the footnotes in the order in which they are first referred to, and its anchor is that of the
`n`-th reference to this footnote if it is the `n`-th. -/
theorem marks_numbered {document : Node} (h : document.Native) :
    ∃ blocks lead items : List Tree,
      (convert document).root.children
          = blocks ++ (if document.cited = [] then [] else lead ++ [footnoteSection items])
        ∧ (lead = [] ∨ lead = [newline])
        ∧ (raised blocks).length = document.cited.length
        ∧ ∀ i id, document.cited[i]? = some id →
          ∃ mark, (raised blocks)[i]? = some mark
            ∧ mark.content = toString (document.cited.eraseDups.idxOf id + 1)
            ∧ linkAnchor? mark = some (useAnchor id ((document.cited.take (i + 1)).count id)) := by
  obtain ⟨lead, s, hlead, -, hchildren⟩ := convert_children document
  have hraised := raised_blocks h
  have hnone : document.numbering = [] ↔ document.cited = [] := by
    rw [Node.numbering, references_eq_cited h, eraseDups_eq_nil_iff]
  simp only [hnone] at hchildren
  refine ⟨_, lead, _, hchildren, hlead, by rw [hraised, length_marks], fun i id hid => ?_⟩
  have hcount : (document.cited.take (i + 1)).count id = (document.cited.take i).count id + 1 := by
    rw [List.take_add_one, hid, List.count_append]
    simp
  refine ⟨_, by rw [hraised, getElem?_marks, hid]; rfl, content_footnoteMark _ _ _, ?_⟩
  rw [linkAnchor?_footnoteMark, hcount, List.nil_append]

/-- A document with references in a heading, a quote, a nested list with a task, the cells of a
table, a link, and references to links of which one has no target. A note has another one. -/
def citingDocument : Node :=
  .root
    [ .heading 2 [.text "x", .footnoteReference "B c"],
      .blockquote [.paragraph [.emphasis [.footnoteReference "a"]]],
      .list false none false
        [ .listItem false (some true)
            [ .paragraph [.text "y", .footnoteReference "a"],
              .list true (some 3) false
                [.listItem false none [.paragraph [.footnoteReference "B c"]]] ] ],
      .table [.left, .right]
        [ .tableRow
            [.tableCell [.footnoteReference "d"], .tableCell [.strong [.footnoteReference "a"]]],
          .tableRow [.tableCell [.text "z"], .tableCell [.footnoteReference "B c"]] ],
      .paragraph
        [ .link "/e" none [.footnoteReference "d"],
          .linkReference "f" none .full [.footnoteReference "a"],
          .linkReference "g" (some "G") .full [.footnoteReference "B c"] ],
      .definition "f" "/f" none,
      .footnoteDefinition "a" [.paragraph [.footnoteReference "d", .footnoteReference "h"]] ]

/-- The last mark of this document is that of the fourth reference to the first footnote. -/
theorem marks_numbered_citing :
    citingDocument.Native
      ∧ citingDocument.cited = ["B c", "a", "a", "B c", "d", "a", "B c", "d", "a", "B c"]
      ∧ ∃ blocks lead items : List Tree,
        (convert citingDocument).root.children = blocks ++ (lead ++ [footnoteSection items])
          ∧ (raised blocks).length = 10
          ∧ ∃ mark, (raised blocks)[9]? = some mark ∧ mark.content = "1"
            ∧ linkAnchor? mark = some "user-content-fnref-b-c-4" := by
  have hnative : citingDocument.Native := ⟨by decide, by decide, by decide⟩
  have hcited : citingDocument.cited
      = ["B c", "a", "a", "B c", "d", "a", "B c", "d", "a", "B c"] := rfl
  obtain ⟨blocks, lead, items, hchildren, -, hlength, hmarks⟩ := marks_numbered hnative
  rw [hcited] at hchildren hlength hmarks
  obtain ⟨mark, hmark, hshown, hanchor⟩ := hmarks 9 "B c" rfl
  refine ⟨hnative, hcited, blocks, lead, items, hchildren, hlength, mark, hmark, ?_, ?_⟩
  · rw [hshown]
    decide +kernel
  · rw [hanchor]
    decide +kernel

end Convert

end Mdx
