import Mathlib.Data.List.Forall2
import Mathlib.Data.List.Induction
import Mdx.Proofs.Convert.References

/-!
# Footnotes and their marks

Which marks a document is converted to, and which notes they lead to. The references that conversion
meets are read off the document: those of its body, and then those of the notes that the section at
the end has, which are numbered anew. `Performs` says that a conversion makes the marks of a list of
references, whatever was converted before. The main statement is `marks_agree_iff`: it tells which
marks lead to the note of their footnote and show its place in the list. Those of a footnote that
only a note refers to do not, as `marks_disagree_nested` has it.
-/

namespace Mdx

namespace Tree

mutual

/-- The elements of a name in a tree, parents first. -/
def named (name : String) : Tree → List Tree
  | .element other props cs =>
    (if other = name then [.element other props cs] else []) ++ rowNamed name cs
  | .text _ => []
  | .fragment cs => rowNamed name cs

/-- The elements of a name in a row of trees. -/
def rowNamed (name : String) : List Tree → List Tree
  | [] => []
  | t :: ts => named name t ++ rowNamed name ts

end

end Tree

namespace Markdown.Node

/-! ## The references of a document -/

mutual

/-- The footnotes that a node refers to, in order. What a footnote definition refers to is no part
of the place where it stands, and rows and cells belong to tables alone. -/
def references : Node → List String
  | .footnoteReference id => [id]
  | .table _ cs => tableReferences cs
  | .root cs | .paragraph cs | .heading _ cs | .blockquote cs | .list _ _ _ cs
  | .listItem _ _ cs | .emphasis cs | .strong cs | .delete cs | .link _ _ cs
  | .linkReference _ _ _ cs | .jsxFlow _ _ cs | .jsxText _ _ cs => rowReferences cs
  | _ => []

/-- The footnotes that a row of nodes refers to. -/
def rowReferences : List Node → List String
  | [] => []
  | n :: rest => references n ++ rowReferences rest

/-- The footnotes that the rows of a table refer to. -/
def tableReferences : List Node → List String
  | [] => []
  | .tableRow cs :: rest => cellReferences cs ++ tableReferences rest
  | _ :: rest => tableReferences rest

/-- The footnotes that the cells of a row refer to. -/
def cellReferences : List Node → List String
  | [] => []
  | .tableCell cs :: rest => rowReferences cs ++ cellReferences rest
  | _ :: rest => cellReferences rest

end

/-- The content that the node defines for a footnote. -/
def note? (id : String) : Node → Option (List Node)
  | .footnoteDefinition identifier cs => if identifier = id then some cs else none
  | _ => none

/-- The content of the first definition of a footnote, in document order. -/
def noteOf (document : Node) (id : String) : Option (List Node) :=
  document.all.findSome? (note? id)

/-- The footnotes of the body in the order in which they are numbered. -/
def numbering (document : Node) : List String :=
  document.references.eraseDups

/-- The footnotes that have a note in the section at the end, in its order. -/
def listed (document : Node) : List String :=
  document.numbering.filter fun id => (document.noteOf id).isSome

/-- The references inside the notes, in the order of the notes. -/
def noteReferences (document : Node) : List String :=
  document.numbering.flatMap fun id => ((document.noteOf id).map rowReferences).getD []

/-- The footnotes that notes refer to in the order in which they are numbered there. -/
def noteNumbering (document : Node) : List String :=
  document.noteReferences.eraseDups

end Markdown.Node

namespace Convert

open Markdown (Node)

/-! ## Marks in rows of trees -/

/-- The raised elements of a row; the marks of footnotes are among them. -/
def raised (ts : List Tree) : List Tree :=
  Tree.rowNamed "sup" ts

theorem raised_append (ts us : List Tree) : raised (ts ++ us) = raised ts ++ raised us := by
  induction ts with
  | nil => rfl
  | cons t ts ih =>
      have hcons : ∀ us : List Tree, raised (t :: us) = t.named "sup" ++ raised us := fun _ => rfl
      rw [List.cons_append, hcons, hcons, ih, List.append_assoc]

theorem raised_element {name : String} (h : name ≠ "sup") (props : List (String × PropValue))
    (ts : List Tree) : raised [.element name props ts] = raised ts := by
  simp [raised, Tree.rowNamed, Tree.named, h]

/-- An element around a row hides nothing of it, whatever its name is. -/
theorem raised_sublist_element (name : String) (props : List (String × PropValue))
    (ts : List Tree) : (raised ts).Sublist (raised [.element name props ts]) := by
  simp only [raised, Tree.rowNamed, Tree.named, List.append_nil]
  exact List.sublist_append_right _ _

/-- Marks are not touched where content is arranged. -/
theorem transparent_raised : Transparent raised := by
  have harranging : ∀ name ∈ arranging, name ≠ "sup" := by decide
  exact ⟨raised_append, rfl, rfl, fun name hname => raised_element (harranging name hname)⟩

theorem raised_footnoteMark (id : String) (number use : Nat) :
    raised [footnoteMark id number use] = [footnoteMark id number use] := by
  simp [raised, footnoteMark, Tree.plain, Tree.rowNamed, Tree.named]

theorem raised_footnoteItem (id : String) (position : Nat) (ts : List Tree) :
    raised [footnoteItem id position ts] = raised ts := by
  have hback : raised [backLink id position] = [] := raised_element (by decide) _ _
  rw [transparent_raised.footnoteItem, hback, List.append_nil]

theorem raised_footnoteSection (ts : List Tree) : raised [footnoteSection ts] = raised ts := by
  have hheading : raised [.element "h2"
      [("className", .string "sr-only"), ("id", .string "footnote-label")] [.text "Footnotes"]]
        = [] := raised_element (by decide) _ _
  rw [footnoteSection, raised_element (by decide), transparent_raised.onLines,
    transparent_raised.cons, hheading, List.nil_append]
  exact (raised_element (by decide) _ _).trans (transparent_raised.onLines ts)

/-! ## Numbers and counts -/

/-- The next reference is to a footnote that is known, or to a new one. -/
theorem eraseDups_concat (since : List String) (id : String) :
    (since ++ [id]).eraseDups
      = if id ∈ since then since.eraseDups else since.eraseDups ++ [id] := by
  rw [List.eraseDups_append]
  by_cases h : id ∈ since <;> simp [List.removeAll, h, List.eraseDups_cons]

theorem nodup_eraseDups (ids : List String) : ids.eraseDups.Nodup := by
  induction ids using List.reverseRecOn with
  | nil => simp
  | append_singleton ids id ih =>
      rw [eraseDups_concat]
      split
      · exact ih
      · rename_i hid
        rw [List.nodup_append]
        refine ⟨ih, by simp, fun other hother last hlast => ?_⟩
        rw [List.mem_singleton.mp hlast]
        rintro rfl
        exact hid (List.mem_eraseDups.mp hother)

/-- The order with an identifier in it, and the place of the identifier there. -/
theorem ordinal_eq (id : String) (order : List String) :
    (ordinal id order).2 = (if id ∈ order then order else order ++ [id])
      ∧ (ordinal id order).1 = (ordinal id order).2.idxOf id + 1 := by
  rw [ordinal]
  cases hfind : order.findIdx? (· == id) with
  | none =>
      have hid : id ∉ order := by
        intro hid
        have hnone := List.findIdx?_eq_none_iff.mp hfind id hid
        simp at hnone
      simp [hid, List.idxOf_append]
  | some i =>
      obtain ⟨hi, hidx⟩ := List.findIdx?_eq_some_iff_findIdx_eq.mp hfind
      have hidx : order.idxOf id = i := hidx
      have hid : id ∈ order := List.idxOf_lt_length_iff.mp (hidx ▸ hi)
      simp [hid, hidx]

/-- The numbers of a longer order are those of the shorter one. -/
theorem idxOf_of_prefix {known order : List String} (h : known <+: order) {id : String}
    (hid : id ∈ known) : order.idxOf id = known.idxOf id := by
  obtain ⟨rest, rfl⟩ := h
  rw [List.idxOf_append, if_pos hid]

/-- The marks of references that are numbered by an order, after earlier references. -/
def marks (order earlier : List String) : List String → List Tree
  | [] => []
  | id :: rest =>
    footnoteMark id (order.idxOf id + 1) (earlier.count id + 1)
      :: marks order (earlier ++ [id]) rest

theorem marks_append (order earlier refs more : List String) :
    marks order earlier (refs ++ more)
      = marks order earlier refs ++ marks order (earlier ++ refs) more := by
  induction refs generalizing earlier with
  | nil => simp [marks]
  | cons id rest ih => simp [marks, ih]

/-- The state has numbered and counted references: `since` are those that are numbered together, and
`seen` are all of them. -/
structure State.Counts (s : State) (since seen : List String) : Prop where
  order : s.order = since.eraseDups
  uses : ∀ id, (s.uses.get? id).getD 0 = seen.count id

theorem State.Counts.empty : State.Counts {} [] [] :=
  ⟨rfl, fun _ => rfl⟩

/-- What does not number or count keeps the counts. -/
theorem State.Counts.same {s s' : State} {since seen : List String} (h : s.Counts since seen)
    (hsame : s'.order = s.order ∧ s'.uses = s.uses) : s'.Counts since seen := by
  obtain ⟨horder, huses⟩ := hsame
  exact ⟨horder.trans h.order, fun id => huses ▸ h.uses id⟩

theorem State.Counts.reference {s : State} {since seen : List String} (h : s.Counts since seen)
    (id : String) :
    ((footnoteReference id).run s).2.Counts (since ++ [id]) (seen ++ [id])
      ∧ ((footnoteReference id).run s).1
        = footnoteMark id ((since ++ [id]).eraseDups.idxOf id + 1) (seen.count id + 1) := by
  have hrun : (footnoteReference id).run s
      = (footnoteMark id (ordinal id s.order).1 ((s.uses.get? id).getD 0 + 1),
        { s with
          order := (ordinal id s.order).2
          uses := s.uses.insert id ((s.uses.get? id).getD 0 + 1) }) := rfl
  obtain ⟨hafter, hnumber⟩ := ordinal_eq id s.order
  have horder : (ordinal id s.order).2 = (since ++ [id]).eraseDups := by
    rw [hafter, eraseDups_concat, h.order]
    simp
  rw [hrun]
  refine ⟨⟨horder, fun other => ?_⟩, ?_⟩
  · show ((s.uses.insert id ((s.uses.get? id).getD 0 + 1)).get? other).getD 0 = _
    rw [Dict.get?_insert, List.count_append, h.uses]
    by_cases hother : id = other
    · subst hother
      simp
    · simp [hother, h.uses]
  · rw [hnumber, horder, h.uses]

/-! ## Conversions that make marks -/

/-- A conversion makes the marks of references, whatever was converted before. The order by which
they are numbered may grow afterwards. -/
structure Performs (refs : List String) (m : StateM State (List Tree)) : Prop where
  counts : ∀ {s : State} {since seen : List String}, s.Counts since seen →
    (m.run s).2.Counts (since ++ refs) (seen ++ refs)
  marks : ∀ {s : State} {since seen : List String}, s.Counts since seen →
    ∀ {order : List String}, (since ++ refs).eraseDups <+: order →
      (marks order seen refs).Sublist (raised (m.run s).1)

namespace Performs

variable {refs more : List String} {m m' : StateM State (List Tree)}

theorem pure (ts : List Tree) : Performs [] (Pure.pure ts) := by
  refine ⟨fun {s since seen} h => ?_, fun _ _ _ => List.nil_sublist _⟩
  rw [List.append_nil, List.append_nil]
  exact h

theorem map (h : Performs refs m) {edit : List Tree → List Tree}
    (hedit : ∀ ts, (raised ts).Sublist (raised (edit ts))) :
    Performs refs (do return edit (← m)) :=
  ⟨fun hs => h.counts hs, fun hs _ horder => (h.marks hs horder).trans (hedit _)⟩

/-- What changes no part of the trees that marks are in. -/
theorem map_eq (h : Performs refs m) {edit : List Tree → List Tree}
    (hedit : ∀ ts, raised (edit ts) = raised ts) : Performs refs (do return edit (← m)) :=
  h.map fun ts => (hedit ts).symm ▸ List.Sublist.refl _

theorem append (h : Performs refs m) (h' : Performs more m') :
    Performs (refs ++ more) (do let here ← m; return here ++ (← m')) := by
  refine ⟨fun {s since seen} hs => ?_, fun {s since seen} hs {order} horder => ?_⟩
  · have hcounts := h'.counts (h.counts hs)
    rwa [List.append_assoc, List.append_assoc] at hcounts
  · have hrun : ((do let here ← m; return here ++ (← m') : StateM State (List Tree)).run s).1
        = (m.run s).1 ++ (m'.run (m.run s).2).1 := rfl
    rw [← List.append_assoc] at horder
    have hfirst : (since ++ refs).eraseDups <+: order := by
      rw [List.eraseDups_append] at horder
      exact (List.prefix_append _ _).trans horder
    rw [hrun, raised_append, marks_append]
    exact (h.marks hs hfirst).append (h'.marks (h.counts hs) horder)

/-- What is done before a conversion does not matter if it numbers and counts nothing. -/
theorem after {first : StateM State Unit}
    (hfirst : ∀ s, (first.run s).2.order = s.order ∧ (first.run s).2.uses = s.uses)
    (h : Performs refs m) : Performs refs (do first; m) :=
  { counts := fun hs => h.counts (hs.same (hfirst _))
    marks := fun hs _ horder => h.marks (hs.same (hfirst _)) horder }

/-- An element around what a conversion makes. -/
theorem element (h : Performs refs m) (name : String) (props : List (String × PropValue)) :
    Performs refs (do return [.element name props (← m)]) :=
  h.map (raised_sublist_element name props)

theorem jsx (h : Performs refs m) (name : Option String) (attributes : List Markdown.Attribute) :
    Performs refs (do return [← jsx name attributes (← m)]) := by
  cases name with
  | none => exact h.map_eq fun ts => by simp [raised, Tree.rowNamed, Tree.named]
  | some name =>
      have hmade := h.element name (jsxProps attributes)
      refine ⟨fun hs => ?_, fun hs _ horder => hmade.marks hs horder⟩
      exact ⟨(h.counts hs).order, (h.counts hs).uses⟩

theorem reference (id : String) : Performs [id] (do return [← footnoteReference id]) := by
  refine ⟨fun hs => (hs.reference id).1, fun {s since seen} hs {order} horder => ?_⟩
  have hrun : ((do return [← footnoteReference id] : StateM State (List Tree)).run s).1
      = [((footnoteReference id).run s).1] := rfl
  have hid : id ∈ (since ++ [id]).eraseDups := by simp
  rw [hrun, (hs.reference id).2, raised_footnoteMark, Convert.marks, Convert.marks,
    idxOf_of_prefix horder hid]

end Performs

section

variable (targets : Dict (String × Option String))

/-- Of the children of a table only the rows are read. -/
theorem tableReferences_cons {n : Node} (h : ∀ inner, n ≠ .tableRow inner) (rest : List Node) :
    Node.tableReferences (n :: rest) = Node.tableReferences rest := by
  cases n <;> first | rfl | exact absurd rfl (h _)

/-- Of the children of a row only the cells are read. -/
theorem cellReferences_cons {n : Node} (h : ∀ inner, n ≠ .tableCell inner) (rest : List Node) :
    Node.cellReferences (n :: rest) = Node.cellReferences rest := by
  cases n <;> first | rfl | exact absurd rfl (h _)

/-- Whatever conversion meets, it makes the marks of the references that are in it. -/
theorem walk_performs :
    Walk (fun n => Performs n.references (node targets n))
      (fun cs => Performs (Node.rowReferences cs) (row targets cs))
      (fun cs => ∀ loose, Performs (Node.rowReferences cs) (items targets loose cs))
      (fun cs => ∀ align name, Performs (Node.tableReferences cs) (rows targets align name cs))
      (fun cs => ∀ align name,
        Performs (Node.cellReferences cs) (cells targets align name cs)) where
  node n hrow hitems hrows := by
    cases n with
    | root cs => exact hrow
    | paragraph cs => exact hrow.element "p" []
    | heading depth cs => exact hrow.element _ []
    | emphasis cs => exact hrow.element "em" []
    | strong cs => exact hrow.element "strong" []
    | delete cs => exact hrow.element "del" []
    | blockquote cs => exact (hrow.map_eq transparent_raised.onLines).element "blockquote" []
    | link url title cs => exact hrow.element "a" _
    | linkReference id label kind cs =>
        rw [node_linkReference]
        cases targets.get? id with
        | some target => exact hrow.element "a" _
        | none =>
            -- The brackets are texts around what stands between them.
            refine hrow.map_eq fun ts => ?_
            rw [transparent_raised.cons, raised_append]
            exact List.append_nil _
    | listItem spread checked cs =>
        exact hrow.map_eq fun ts => transparent_raised.listItem spread checked ts
    | list ordered start spread cs =>
        exact (hitems (spread || cs.any isSpreadItem)).map_eq fun ts =>
          transparent_raised.list ordered start (cs.any isTask) ts
    | table align cs => exact (hrows align "th").map_eq transparent_raised.table
    | jsxFlow name attributes cs => exact hrow.jsx name attributes
    | jsxText name attributes cs => exact hrow.jsx name attributes
    | footnoteReference id => exact .reference id
    | imageReference id label kind alt =>
        rw [node_imageReference]
        cases targets.get? id <;> exact .pure _
    | text value | inlineCode value | inlineMath value | code value lang info | math value
    | lineBreak | thematicBreak | image url alt title | definition id url title
    | footnoteDefinition id cs | yaml value | toml value => exact .pure _
    | html value | esm value | flowExpression value | textExpression value | tableRow cs
    | tableCell cs => exact .after (fun s => ⟨rfl, rfl⟩) (.pure _)
  row_nil := .pure []
  row_cons n rest hn hrest := hn.append hrest
  items_nil _ := .pure []
  items_item spread checked inner rest hinner hrest loose :=
    (hinner.map_eq fun ts => transparent_raised.listItem loose checked ts).append (hrest loose)
  items_other n rest hother hn hrest loose := by
    rw [items_cons hother]
    exact hn.append (hrest loose)
  rows_nil _ _ := .pure []
  rows_row inner rest hinner hrest align name :=
    (((hinner align name).map_eq transparent_raised.onLines).element "tr" []).append
      (hrest align "td")
  rows_other n rest hother hrest align name := by
    rw [rows_cons hother, tableReferences_cons hother]
    exact hrest align name
  cells_nil _ _ := .pure []
  cells_cell inner rest hinner hrest align name :=
    (hinner.element name _).append (hrest align.tail name)
  cells_other n rest hother hrest align name := by
    rw [cells_cons hother, cellReferences_cons hother]
    exact hrest align.tail name

/-- The conversion of a node makes the marks of its references. -/
theorem node_performs (n : Node) : Performs n.references (node targets n) :=
  (walk_performs targets).node_holds n

theorem row_performs (cs : List Node) : Performs (Node.rowReferences cs) (row targets cs) :=
  (walk_performs targets).row_holds cs

end

/-! ## Notes -/

theorem noteOf_add (defs : Definitions) (n : Node) (id : String) :
    (defs.add n).notes.get? id = (defs.notes.get? id).or (n.note? id) := by
  cases n with
  | footnoteDefinition identifier cs => exact get?_insertNew identifier id cs _
  | _ => exact (Option.or_none).symm

/-- The notes that are collected from a document are those of its first definitions. -/
theorem notes_collect (document : Node) (id : String) :
    (Definitions.collect {} document).notes.get? id = document.noteOf id :=
  look_collect (fun defs => defs.notes.get? id) (fun defs n => noteOf_add defs n id) {} document

/-- The note of a footnote: an item around the converted content of its definition. -/
def IsNote (document : Node) (id : String) (item : Tree) : Prop :=
  ∃ content position s, document.noteOf id = some content
    ∧ item = footnoteItem id position
      ((row (Definitions.collect {} document).targets content).run s).1

/-- The notes of an order are those of its footnotes that have a definition. -/
theorem notes_isNote (document : Node) (order : List String) (position : Nat) (s : State) :
    List.Forall₂ (IsNote document) (order.filter fun id => (document.noteOf id).isSome)
      ((notes (Definitions.collect {} document) position order).run s).1 := by
  induction order generalizing position s with
  | nil => exact .nil
  | cons id rest ih =>
      rw [notes, notes_collect, List.filter_cons]
      cases hget : document.noteOf id with
      | none => exact ih (position + 1) _
      | some content => exact .cons ⟨content, position, s, hget, rfl⟩ (ih (position + 1) _)

theorem notes_performs (document : Node) (order : List String) (position : Nat) :
    Performs (order.flatMap fun id => ((document.noteOf id).map Node.rowReferences).getD [])
      (notes (Definitions.collect {} document) position order) := by
  induction order generalizing position with
  | nil => exact .pure []
  | cons id rest ih =>
      rw [notes, notes_collect, List.flatMap_cons]
      cases document.noteOf id with
      | none => exact .after (fun s => ⟨rfl, rfl⟩) (ih (position + 1))
      | some content =>
          have hcontent := (row_performs (Definitions.collect {} document).targets content).map_eq
            fun ts => raised_footnoteItem id position ts
          exact hcontent.append (ih (position + 1))

/-! ## Documents -/

theorem blocks_perform (defs : Definitions) (document : Node) :
    Performs document.references (blocks defs document) := by
  have hnode := node_performs defs.targets document
  rcases blocks_cases defs document with hblocks | hblocks <;> rw [hblocks]
  · exact hnode.map_eq transparent_raised.joinLines
  · exact hnode

/-- After blocks that refer to footnotes there is a section with their notes. For these the order
begins anew, and the counts go on. -/
theorem body_run_section {defs : Definitions} {document : Node} {s : State}
    (h : ((blocks defs document).run s).2.order ≠ []) :
    ∃ (lead : List Tree) (s' : State), (lead = [] ∨ lead = [newline])
      ∧ s'.order = [] ∧ s'.uses = ((blocks defs document).run s).2.uses
      ∧ ((body defs document).run s).1 = ((blocks defs document).run s).1 ++ lead
        ++ [footnoteSection ((notes defs 1 ((blocks defs document).run s).2.order).run s').1] := by
  rw [body_eq, StateT.run_bind]
  generalize (blocks defs document).run s = result at h ⊢
  obtain ⟨row, order, uses, esm, log⟩ := result
  refine ⟨if row.isEmpty then [] else [newline], ⟨[], uses, esm, log⟩, by split <;> simp, rfl, rfl,
    ?_⟩
  cases order with
  | nil => exact absurd rfl h
  | cons id rest =>
      cases row with
      | nil => rfl
      | cons t ts => exact (List.append_assoc (t :: ts) [newline] _).symm

/-- A converted document has its blocks and, if they refer to footnotes, the section of the notes
after them. -/
theorem convert_children (document : Node) :
    ∃ (lead : List Tree) (s : State), (lead = [] ∨ lead = [newline])
      ∧ s.Counts [] document.references
      ∧ (convert document).root.children
        = ((blocks (Definitions.collect {} document) document).run {}).1
          ++ if document.numbering = [] then []
            else lead ++ [footnoteSection
              ((notes (Definitions.collect {} document) 1 document.numbering).run s).1] := by
  have hrun : (convert document).root.children
      = ((body (Definitions.collect {} document) document).run {}).1 := rfl
  have hcounts := (blocks_perform (Definitions.collect {} document) document).counts .empty
  have horder : ((blocks (Definitions.collect {} document) document).run {}).2.order
      = document.numbering := hcounts.order
  by_cases hnone : document.numbering = []
  · refine ⟨[], { ((blocks (Definitions.collect {} document) document).run {}).2 with order := [] },
      .inl rfl, ⟨rfl, hcounts.uses⟩, ?_⟩
    rw [hrun, body_run (horder.trans hnone), if_pos hnone, List.append_nil]
  · obtain ⟨lead, s, hlead, hreset, huses, hchildren⟩ := body_run_section (horder ▸ hnone)
    refine ⟨lead, s, hlead, ⟨hreset, fun id => huses ▸ hcounts.uses id⟩, ?_⟩
    rw [hrun, hchildren, horder, if_neg hnone, List.append_assoc]

/-! ## Marks and notes -/

/-- The anchor of an element. -/
def anchor? : Tree → Option String
  | .element _ props _ => (Dict.get? "id" props).bind PropValue.str?
  | _ => none

/-- The address of the link in a mark. -/
def linked? : Tree → Option String
  | .element _ _ [.element _ props _] => (Dict.get? "href" props).bind PropValue.str?
  | _ => none

/-- The place of the item that a mark links to: the first with the anchor of its link. -/
def linkedPlace? (items : List Tree) (mark : Tree) : Option Nat :=
  items.findIdx? fun item => (anchor? item).any fun anchor => linked? mark == some ("#" ++ anchor)

/-- The mark links to the note of the footnote, and shows the place of this note in the list. -/
def Agrees (listed : List String) (items : List Tree) (id : String) (mark : Tree) : Prop :=
  ∃ i, listed[i]? = some id ∧ linkedPlace? items mark = some i ∧ mark.content = toString (i + 1)

theorem toString_inj {m n : Nat} (h : toString m = toString n) : m = n := by
  have hdigits : Nat.toDigits 10 m = Nat.toDigits 10 n := by
    rw [Nat.toString_eq_repr, Nat.toString_eq_repr, Nat.repr, Nat.repr] at h
    exact String.ofList_injective h
  rw [← Nat.ofDigitChars_ten_toDigits (n := m), hdigits, Nat.ofDigitChars_ten_toDigits]

theorem content_footnoteMark (id : String) (number use : Nat) :
    (footnoteMark id number use).content = toString number := by
  simp [footnoteMark, Tree.plain, Tree.content, Tree.contents]

/-- A link leads to an anchor if both are made of the same part. -/
theorem linked?_footnoteMark (id : String) (number use : Nat) (other : String) :
    (linked? (footnoteMark id number use) == some ("#" ++ ("user-content-fn-" ++ footnoteId other)))
      = (footnoteId other == footnoteId id) := by
  have haddress : linked? (footnoteMark id number use)
      = some ("#user-content-fn-" ++ footnoteId id) := by
    simp [linked?, footnoteMark, Tree.plain, Dict.get?, PropValue.string, PropValue.str?]
  have hanchor : "#" ++ ("user-content-fn-" ++ footnoteId other)
      = "#user-content-fn-" ++ footnoteId other := by
    rw [← String.append_assoc]
    rfl
  rw [haddress, hanchor, Bool.eq_iff_iff, beq_iff_eq, beq_iff_eq, Option.some_inj,
    String.append_right_inj]
  exact eq_comm

/-- A mark links to the first note whose identifier has the same anchor. -/
theorem linkedPlace?_footnoteMark {document : Node} {listed : List String} {items : List Tree}
    (h : List.Forall₂ (IsNote document) listed items) (id : String) (number use : Nat) :
    linkedPlace? items (footnoteMark id number use)
      = listed.findIdx? fun other => footnoteId other == footnoteId id := by
  induction h with
  | nil => rfl
  | @cons other item listed items hnote hrest ih =>
      obtain ⟨content, position, s, -, rfl⟩ := hnote
      have hanchor : ∀ content : List Tree, anchor? (footnoteItem other position content)
          = some ("user-content-fn-" ++ footnoteId other) := by
        simp [anchor?, footnoteItem, Dict.get?, PropValue.string, PropValue.str?]
      rw [linkedPlace?] at ih ⊢
      rw [List.findIdx?_cons, List.findIdx?_cons, ih, hanchor, Option.any_some,
        linked?_footnoteMark]

/-- A mark agrees with the notes if the footnote is listed at the place that it shows, and none
before it has the same anchor. -/
theorem agrees_iff {document : Node} {listed : List String} {items : List Tree}
    (h : List.Forall₂ (IsNote document) listed items) (id : String) (place use : Nat) :
    Agrees listed items id (footnoteMark id (place + 1) use)
      ↔ listed[place]? = some id
        ∧ ∀ other ∈ listed.take place, footnoteId other ≠ footnoteId id := by
  have hfirst : linkedPlace? items (footnoteMark id (place + 1) use) = some place
      ↔ ∃ hplace : place < listed.length, footnoteId listed[place] = footnoteId id
        ∧ ∀ other ∈ listed.take place, footnoteId other ≠ footnoteId id := by
    rw [linkedPlace?_footnoteMark h, List.findIdx?_eq_some_iff_getElem]
    simp only [beq_iff_eq]
    refine exists_congr fun hplace => and_congr_right fun _ => ⟨fun hnone other hother => ?_,
      fun hnone j hj => hnone _ (List.mem_take_iff_getElem.mpr ⟨j, by omega, rfl⟩)⟩
    obtain ⟨j, hj, rfl⟩ := List.mem_take_iff_getElem.mp hother
    exact hnone j (by omega)
  constructor
  · rintro ⟨i, hid, hlink, hshown⟩
    rw [content_footnoteMark] at hshown
    have hi : place = i := Nat.succ.inj (toString_inj hshown)
    subst hi
    obtain ⟨-, -, hnone⟩ := hfirst.mp hlink
    exact ⟨hid, hnone⟩
  · rintro ⟨hid, hnone⟩
    obtain ⟨hplace, hget⟩ := List.getElem?_eq_some_iff.mp hid
    exact ⟨place, hid, hfirst.mpr ⟨hplace, by rw [hget], hnone⟩, content_footnoteMark id _ _⟩

/-- An order at the place of an identifier. -/
theorem split_idxOf {order : List String} {id : String} (hid : id ∈ order) :
    order = order.take (order.idxOf id) ++ id :: order.drop (order.idxOf id + 1)
      ∧ (order.take (order.idxOf id)).length = order.idxOf id := by
  have hplace := List.idxOf_lt_length_iff.mpr hid
  constructor
  · conv_lhs => rw [← List.take_append_drop (order.idxOf id) order,
      List.drop_eq_getElem_cons hplace, List.getElem_idxOf]
  · rw [List.length_take]
    omega

/-- Where nothing before an identifier is left out, what is left of an order begins as it does. -/
theorem take_filter_idxOf {order : List String} {id : String} (hid : id ∈ order)
    {p : String → Bool} (hall : ∀ other ∈ order.take (order.idxOf id), p other = true) :
    (order.filter p).take (order.idxOf id) = order.take (order.idxOf id) := by
  obtain ⟨hsplit, hlength⟩ := split_idxOf hid
  generalize order.idxOf id = place at hsplit hlength hall ⊢
  rw [hsplit, List.filter_append, List.filter_eq_self.mpr hall]
  rw [← hsplit]
  exact List.take_left' hlength

/-- What is still at its place in an order of which some were left out: that before which nothing
was. -/
theorem getElem?_filter_idxOf {order : List String} (hnodup : order.Nodup) {id : String}
    (hid : id ∈ order) (p : String → Bool) (hp : p id = true) :
    (order.filter p)[order.idxOf id]? = some id
      ↔ ∀ other ∈ order.take (order.idxOf id), p other = true := by
  obtain ⟨hsplit, hlength⟩ := split_idxOf hid
  have hunique := hnodup.filter p
  generalize order.idxOf id = place at hsplit hlength ⊢
  have hfilter : order.filter p = (order.take place).filter p
      ++ id :: (order.drop (place + 1)).filter p := by
    conv_lhs => rw [hsplit, List.filter_append, List.filter_cons_of_pos hp]
  rw [hfilter] at hunique ⊢
  constructor
  · intro hlisted
    -- The identifier is at two places, which are the same since it is there once.
    have hown : ((order.take place).filter p ++ id :: (order.drop (place + 1)).filter p)[
        ((order.take place).filter p).length]? = some id := by
      rw [List.getElem?_append_right (Nat.le_refl _), Nat.sub_self]
      rfl
    obtain ⟨hplace, -⟩ := List.getElem?_eq_some_iff.mp hlisted
    have hsame := (List.getElem?_inj hplace hunique).mp (hlisted.trans hown.symm)
    exact List.length_filter_eq_length_iff.mp (hsame.symm.trans hlength.symm)
  · intro hall
    rw [List.filter_eq_self.mpr hall, List.getElem?_append_right (by omega), hlength, Nat.sub_self]
    rfl

/-- A mark of the body agrees with the notes if all footnotes that are numbered before its own have
notes, with anchors of their own. -/
theorem agrees_body_iff {document : Node} {items : List Tree}
    (h : List.Forall₂ (IsNote document) document.listed items) {id : String}
    (hid : id ∈ document.references) (hnote : (document.noteOf id).isSome = true) (use : Nat) :
    Agrees document.listed items id (footnoteMark id (document.numbering.idxOf id + 1) use)
      ↔ ∀ other ∈ document.numbering.take (document.numbering.idxOf id),
        (document.noteOf other).isSome = true ∧ footnoteId other ≠ footnoteId id := by
  have hid : id ∈ document.numbering := List.mem_eraseDups.mpr hid
  have hplace := getElem?_filter_idxOf (nodup_eraseDups document.references) hid
    (fun other => (document.noteOf other).isSome) hnote
  rw [agrees_iff h, Node.listed]
  constructor
  · rintro ⟨hlisted, hnone⟩
    have hall := hplace.mp hlisted
    rw [take_filter_idxOf hid hall] at hnone
    exact fun other hother => ⟨hall other hother, hnone other hother⟩
  · intro hall
    have hsome : ∀ other ∈ document.numbering.take (document.numbering.idxOf id),
        (document.noteOf other).isSome = true := fun other hother => (hall other hother).1
    refine ⟨hplace.mpr hsome, ?_⟩
    rw [take_filter_idxOf hid hsome]
    exact fun other hother => (hall other hother).2

/-- The trees of a document have its marks, those of the body and those of the notes; and after a
body with references its section stands last. -/
theorem body_marks (document : Node) :
    ∃ items : List Tree,
      List.Forall₂ (IsNote document) document.listed items
        ∧ (document.numbering ≠ [] →
          (convert document).root.children.getLast? = some (footnoteSection items))
        ∧ (marks document.numbering [] document.references
          ++ marks document.noteNumbering document.references document.noteReferences).Sublist
            (raised (convert document).root.children) := by
  obtain ⟨lead, s, hlead, hcounts, hchildren⟩ := convert_children document
  have hlead : raised lead = [] := by rcases hlead with rfl | rfl <;> rfl
  have hbody := (blocks_perform (Definitions.collect {} document) document).marks .empty
    (List.prefix_refl document.numbering)
  have hnotes := (notes_performs document document.numbering 1).marks hcounts
    (List.prefix_refl document.noteNumbering)
  refine ⟨_, notes_isNote document document.numbering 1 s, fun hsome => ?_, ?_⟩
  · rw [hchildren, if_neg hsome, ← List.append_assoc, List.getLast?_concat]
  · rw [hchildren, raised_append]
    refine hbody.append (hnotes.trans ?_)
    split
    · rename_i hnone
      rw [hnone]
      exact List.Sublist.refl _
    · rw [raised_append, hlead, raised_footnoteSection]
      exact List.Sublist.refl _

/-- Which marks of footnotes lead to their notes. The notes of a document stand in the section at
its end: those of the footnotes that its body refers to and that have a definition. The body has a
mark for each reference, and so have the notes, which are numbered anew. A mark of the body leads to
its note and shows its place just if every footnote that is numbered before its own has a definition
and another anchor. A mark of a note does so just if its footnote is listed where the numbers of the
notes put it, and none before it has its anchor. -/
theorem marks_agree_iff (document : Node) :
    ∃ items : List Tree,
      List.Forall₂ (IsNote document) document.listed items
        ∧ (document.numbering ≠ [] →
          (convert document).root.children.getLast? = some (footnoteSection items))
        ∧ (marks document.numbering [] document.references
          ++ marks document.noteNumbering document.references document.noteReferences).Sublist
            (raised (convert document).root.children)
        ∧ (∀ id ∈ document.references, (document.noteOf id).isSome = true → ∀ use,
          (Agrees document.listed items id (footnoteMark id (document.numbering.idxOf id + 1) use)
            ↔ ∀ other ∈ document.numbering.take (document.numbering.idxOf id),
              (document.noteOf other).isSome = true ∧ footnoteId other ≠ footnoteId id))
        ∧ ∀ id ∈ document.noteReferences, (document.noteOf id).isSome = true → ∀ use,
          (Agrees document.listed items id
              (footnoteMark id (document.noteNumbering.idxOf id + 1) use)
            ↔ document.listed[document.noteNumbering.idxOf id]? = some id
              ∧ ∀ other ∈ document.listed.take (document.noteNumbering.idxOf id),
                footnoteId other ≠ footnoteId id) := by
  obtain ⟨items, hitems, hsection, hmarks⟩ := body_marks document
  exact ⟨items, hitems, hsection, hmarks,
    fun id hid hnote use => agrees_body_iff hitems hid hnote use,
    fun id _ _ use => agrees_iff hitems id _ use⟩

/-- Two footnotes that refer to each other and to themselves, the first of them twice and from a
table. -/
def mutualNotes : Node :=
  .root
    [ .paragraph [.footnoteReference "A b", .text "x", .footnoteReference "c"],
      .table [.left] [.tableRow [.tableCell [.footnoteReference "A b"]]],
      .footnoteDefinition "c" [.paragraph [.footnoteReference "A b"]],
      .footnoteDefinition "A b"
        [.blockquote [.paragraph [.footnoteReference "A b", .footnoteReference "c"]]] ]

/-- All their marks agree with the notes. -/
theorem marks_agree_iff_mutual :
    mutualNotes.references = ["A b", "c", "A b"]
      ∧ mutualNotes.noteReferences = ["A b", "c", "A b"]
      ∧ ∃ items : List Tree,
        (convert mutualNotes).root.children.getLast? = some (footnoteSection items)
          ∧ (marks ["A b", "c"] [] mutualNotes.references
            ++ marks ["A b", "c"] mutualNotes.references mutualNotes.noteReferences).Sublist
              (raised (convert mutualNotes).root.children)
          ∧ (∀ use, Agrees ["A b", "c"] items "A b" (footnoteMark "A b" 1 use))
          ∧ ∀ use, Agrees ["A b", "c"] items "c" (footnoteMark "c" 2 use) := by
  have hreferences : mutualNotes.references = ["A b", "c", "A b"] := by decide +kernel
  have hnumbering : mutualNotes.numbering = ["A b", "c"] := by decide +kernel
  have hlisted : mutualNotes.listed = ["A b", "c"] := by decide +kernel
  have hinside : mutualNotes.noteReferences = ["A b", "c", "A b"] := by decide +kernel
  have hanew : mutualNotes.noteNumbering = ["A b", "c"] := by decide +kernel
  obtain ⟨items, -, hsection, hmarks, hbody, hnotes⟩ := marks_agree_iff mutualNotes
  rw [hnumbering, hanew] at hmarks
  rw [hnumbering, hlisted] at hbody
  rw [hanew, hlisted] at hnotes
  refine ⟨hreferences, hinside, items, hsection (by rw [hnumbering]; decide), hmarks, fun use => ?_,
    fun use => ?_⟩
  · have hmem : "A b" ∈ mutualNotes.references := by rw [hreferences]; decide
    exact (hbody "A b" hmem (by decide +kernel) use).mpr (by decide +kernel)
  · have hmem : "c" ∈ mutualNotes.noteReferences := by rw [hinside]; decide
    exact (hnotes "c" hmem (by decide +kernel) use).mpr (by decide +kernel)

/-- A footnote that only the note of another refers to. -/
def nestedNotes : Node :=
  .root
    [ .paragraph [.text "x", .footnoteReference "a"],
      .footnoteDefinition "a" [.paragraph [.text "y", .footnoteReference "b"]],
      .footnoteDefinition "b" [.paragraph [.text "z"]] ]

/-- The second footnote has a definition and a mark that shows the number of the first, and this
mark leads to no note. -/
theorem marks_disagree_nested :
    (nestedNotes.noteOf "b").isSome = true
      ∧ ∃ items : List Tree,
        (convert nestedNotes).root.children.getLast? = some (footnoteSection items)
          ∧ footnoteMark "a" 1 1 ∈ raised (convert nestedNotes).root.children
          ∧ footnoteMark "b" 1 1 ∈ raised (convert nestedNotes).root.children
          ∧ linkedPlace? items (footnoteMark "b" 1 1) = none := by
  have hnumbering : nestedNotes.numbering = ["a"] := by decide +kernel
  have hlisted : nestedNotes.listed = ["a"] := by decide +kernel
  have hreferences : nestedNotes.references = ["a"] := by decide +kernel
  have hinside : nestedNotes.noteReferences = ["b"] := by decide +kernel
  have hanew : nestedNotes.noteNumbering = ["b"] := by decide +kernel
  obtain ⟨items, hitems, hsection, hmarks⟩ := body_marks nestedNotes
  rw [hlisted] at hitems
  rw [hnumbering, hanew, hreferences, hinside] at hmarks
  refine ⟨by decide +kernel, items, hsection (by rw [hnumbering]; decide), ?_, ?_, ?_⟩
  · exact hmarks.subset (by simp [marks])
  · exact hmarks.subset (by simp [marks])
  · rw [linkedPlace?_footnoteMark hitems]
    decide +kernel

end Convert

end Mdx
