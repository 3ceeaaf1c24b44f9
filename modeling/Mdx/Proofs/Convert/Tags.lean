import Mdx.Proofs.Convert.Content

/-!
# The tags of converted documents

Conversion gives every element a tag from the table of tags, unless the document names the element
itself. `Tagged` says so of a row of trees, with one law for each shape that conversion builds;
`Makes` says so of a conversion, whatever was converted before. The main statement is
`convert_tagged`.
-/

namespace Mdx

namespace Markdown.Node

/-- No JSX, and no heading of a depth that has no tag. -/
def isPlain : Node → Bool
  | .jsxFlow _ _ _ | .jsxText _ _ _ => false
  | .heading depth _ => 1 ≤ depth && depth ≤ 6
  | _ => true

/-- The nodes are plain. -/
def Plain (ns : List Node) : Prop :=
  ∀ n ∈ ns, n.isPlain = true

theorem Plain.children {n : Node} (h : Plain n.all) : Plain (rowNodes true n.children) := by
  intro m hm
  rw [all_eq] at h
  exact h m (List.mem_cons_of_mem _ hm)

theorem Plain.self {n : Node} (h : Plain n.all) : n.isPlain = true := by
  rw [all_eq] at h
  exact h n List.mem_cons_self

theorem Plain.head {n : Node} {rest : List Node} (h : Plain (rowNodes true (n :: rest))) :
    Plain n.all :=
  fun m hm => h m (List.mem_append_left _ hm)

theorem Plain.tail {n : Node} {rest : List Node} (h : Plain (rowNodes true (n :: rest))) :
    Plain (rowNodes true rest) :=
  fun m hm => h m (List.mem_append_right n.all hm)

end Markdown.Node

namespace Convert

open Markdown (Node)

/-! ## Rows of trees with tags -/

/-- The elements of a row have names from the table of tags. -/
def Tagged (ts : List Tree) : Prop :=
  ∀ name ∈ Tree.rowNames ts, name ∈ Tag.all

/-- The names of a row that are not in the table of tags. -/
def untagged (ts : List Tree) : List String :=
  (Tree.rowNames ts).filter fun name => !Tag.all.contains name

namespace Tagged

variable {ts us : List Tree}

theorem nil : Tagged [] := by
  intro name hname
  cases hname

theorem append (h : Tagged ts) (h' : Tagged us) : Tagged (ts ++ us) := by
  intro name hname
  rw [Tree.rowNames_eq_flatMap, List.flatMap_append, ← Tree.rowNames_eq_flatMap,
    ← Tree.rowNames_eq_flatMap] at hname
  rcases List.mem_append.mp hname with hname | hname
  · exact h name hname
  · exact h' name hname

theorem cons {t : Tree} (h : Tagged [t]) (h' : Tagged ts) : Tagged (t :: ts) :=
  h.append h'

theorem text (value : String) : Tagged [.text value] := by
  intro name hname
  cases hname

theorem element {name : String} (hname : name ∈ Tag.all) (props : List (String × PropValue))
    (h : Tagged ts) : Tagged [.element name props ts] := by
  intro other hother
  rw [Tree.rowNames, Tree.rowNames, List.append_nil, Tree.names] at hother
  rcases List.mem_cons.mp hother with rfl | hother
  · exact hname
  · exact h other hother

theorem newline_cons (h : Tagged ts) : Tagged (newline :: ts) :=
  (text "\n").cons h

theorem codeBlock (className : Option String) (value : String) :
    Tagged [codeBlock className value] :=
  element (by decide) _ (element (by decide) _ (text _))

theorem image (url alt : String) (title : Option String) : Tagged [image url alt title] :=
  element (by decide) _ nil

theorem link (h : Tagged ts) (url : String) (title : Option String) :
    Tagged [link url title ts] :=
  element (by decide) _ h

theorem footnoteMark (identifier : String) (number use : Nat) :
    Tagged [footnoteMark identifier number use] :=
  element (by decide) _ (element (by decide) _ (text _))

theorem iff_untagged : Tagged ts ↔ untagged ts = [] := by
  simp [Tagged, untagged]

/-- The elements that content is arranged by have tags, so names without one are all its own. -/
theorem transparent_untagged : Transparent untagged := by
  have harranging : ∀ name ∈ arranging, name ∈ Tag.all := by decide
  refine ⟨fun ts us => ?_, rfl, rfl, fun name hname props ts => ?_⟩
  · rw [untagged, Tree.rowNames_eq_flatMap, List.flatMap_append, List.filter_append]
    simp [untagged, Tree.rowNames_eq_flatMap]
  · simp [untagged, Tree.rowNames, Tree.names, harranging name hname]

/-- However a row is arranged, its elements have tags. -/
theorem arranged (h : Tagged ts) (hus : untagged us = untagged ts) : Tagged us := by
  rw [iff_untagged] at h ⊢
  rw [hus, h]

theorem joinLines (h : Tagged ts) : Tagged (joinLines ts) :=
  h.arranged (transparent_untagged.joinLines ts)

theorem onLines (h : Tagged ts) : Tagged (onLines ts) :=
  h.arranged (transparent_untagged.onLines ts)

theorem listItem (h : Tagged ts) (loose : Bool) (checked : Option Bool) :
    Tagged [listItem loose checked ts] :=
  h.arranged (transparent_untagged.listItem loose checked ts)

theorem list (h : Tagged ts) (ordered : Bool) (start : Option Nat) (hasTask : Bool) :
    Tagged [list ordered start hasTask ts] :=
  h.arranged (transparent_untagged.list ordered start hasTask ts)

theorem table (h : Tagged ts) : Tagged [table ts] :=
  h.arranged (transparent_untagged.table ts)

theorem footnoteItem (h : Tagged ts) (identifier : String) (position : Nat) :
    Tagged [footnoteItem identifier position ts] := by
  have hback : Tagged [backLink identifier position] := element (by decide) _ (text _)
  rw [iff_untagged] at h hback ⊢
  rw [transparent_untagged.footnoteItem, h, hback]
  rfl

theorem footnoteSection (h : Tagged ts) : Tagged [footnoteSection ts] := by
  have hheading : Tagged [.element "h2"
      [("className", .string "sr-only"), ("id", .string "footnote-label")] [.text "Footnotes"]] :=
    element (by decide) _ (text _)
  have hlist : Tagged [.plain "ol" (Convert.onLines ts)] := element (by decide) _ h.onLines
  exact element (by decide) _ (hheading.cons hlist).onLines

end Tagged

/-! ## Conversions that make tags -/

/-- A conversion makes trees with tags, whatever was converted before. -/
def Makes (m : StateM State (List Tree)) : Prop :=
  ∀ s, Tagged (m.run s).1

namespace Makes

variable {m m' : StateM State (List Tree)}

theorem pure {ts : List Tree} (h : Tagged ts) : Makes (Pure.pure ts) :=
  fun _ => h

theorem map (h : Makes m) {edit : List Tree → List Tree}
    (hedit : ∀ {ts}, Tagged ts → Tagged (edit ts)) : Makes (do return edit (← m)) :=
  fun s => hedit (h s)

theorem append (h : Makes m) (h' : Makes m') :
    Makes (do let here ← m; return here ++ (← m')) :=
  fun s => (h s).append (h' (m.run s).2)

/-- What is done before a conversion does not matter to it. -/
theorem after (first : StateM State Unit) (h : Makes m) : Makes (do first; m) :=
  fun s => h (first.run s).2

end Makes

/-- The tag of a heading, of those depths that have one. -/
theorem heading_mem {depth : Nat} {cs : List Node} (h : (Node.heading depth cs).isPlain = true) :
    "h" ++ toString depth ∈ Tag.all := by
  rw [Node.isPlain, Bool.and_eq_true, decide_eq_true_iff, decide_eq_true_iff] at h
  obtain ⟨hlow, hhigh⟩ := h
  have hdepth : depth = 1 ∨ depth = 2 ∨ depth = 3 ∨ depth = 4 ∨ depth = 5 ∨ depth = 6 := by omega
  rcases hdepth with rfl | rfl | rfl | rfl | rfl | rfl <;> decide

section

variable (targets : Dict (String × Option String))

/-- Whatever conversion meets of plain nodes, it makes trees with tags. -/
theorem walk_makes :
    Walk (fun n => Node.Plain n.all → Makes (node targets n))
      (fun cs => Node.Plain (Node.rowNodes true cs) → Makes (row targets cs))
      (fun cs => Node.Plain (Node.rowNodes true cs) → ∀ loose, Makes (items targets loose cs))
      (fun cs => Node.Plain (Node.rowNodes true cs) → ∀ align, ∀ name ∈ Tag.all,
        Makes (rows targets align name cs))
      (fun cs => Node.Plain (Node.rowNodes true cs) → ∀ align, ∀ name ∈ Tag.all,
        Makes (cells targets align name cs)) where
  node n hrow hitems hrows h := by
    have hmakes := hrow h.children
    cases n with
    | root cs => exact hmakes
    | paragraph cs | emphasis cs | strong cs | delete cs =>
        exact hmakes.map fun h => .element (by decide) [] h
    | heading depth cs => exact hmakes.map fun hts => .element (heading_mem h.self) [] hts
    | blockquote cs => exact hmakes.map fun h => .element (by decide) [] h.onLines
    | link url title cs => exact hmakes.map fun h => h.link url title
    | linkReference id label kind cs =>
        rw [node_linkReference]
        cases targets.get? id with
        | some target => exact hmakes.map fun h => h.link target.1 target.2
        | none => exact hmakes.map fun h => (Tagged.text _).cons (h.append (.text _))
    | listItem spread checked cs => exact hmakes.map fun h => h.listItem spread checked
    | list ordered start spread cs =>
        exact (hitems h.children (spread || cs.any isSpreadItem)).map fun h =>
          h.list ordered start (cs.any isTask)
    | table align cs =>
        exact (hrows h.children align "th" (by decide)).map fun h => h.table
    | jsxFlow name attributes cs => cases h.self
    | jsxText name attributes cs => cases h.self
    | text value => exact .pure (.text value)
    | inlineCode value => exact .pure (.element (by decide) [] (.text value))
    | inlineMath value => exact .pure (.element (by decide) _ (.text value))
    | code value lang info => exact .pure (.codeBlock _ value)
    | math value => exact .pure (.codeBlock _ value)
    | lineBreak => exact .pure ((Tagged.element (by decide) [] .nil).cons Tagged.nil.newline_cons)
    | thematicBreak => exact .pure (.element (by decide) [] .nil)
    | image url alt title => exact .pure (.image url alt title)
    | imageReference id label kind alt =>
        rw [node_imageReference]
        cases targets.get? id with
        | some target => exact .pure (.image target.1 alt target.2)
        | none => exact .pure (.text _)
    | footnoteReference id => exact fun s => .footnoteMark id _ _
    | html value => exact .after _ (.pure (.text value))
    | esm value | flowExpression value | textExpression value | tableRow cs | tableCell cs =>
        exact .after _ (.pure .nil)
    | definition id url title | footnoteDefinition id cs | yaml value | toml value =>
        exact .pure .nil
  row_nil _ := .pure .nil
  row_cons n rest hn hrest h := (hn h.head).append (hrest h.tail)
  items_nil _ _ := .pure .nil
  items_item spread checked inner rest hinner hrest h loose :=
    ((hinner h.head.children).map fun h => h.listItem loose checked).append (hrest h.tail loose)
  items_other n rest hother hn hrest h loose := by
    rw [items_cons hother]
    exact (hn h.head).append (hrest h.tail loose)
  rows_nil _ _ _ _ := .pure .nil
  rows_row inner rest hinner hrest h align name hname := by
    have hcells := hinner h.head.children align name hname
    -- The rows after the first are data, so the name of their cells changes.
    have hmore := hrest h.tail align "td" (by decide)
    exact (hcells.map fun h => .element (by decide) [] h.onLines).append hmore
  rows_other n rest hother hrest h align name hname := by
    rw [rows_cons hother]
    exact hrest h.tail align name hname
  cells_nil _ _ _ _ := .pure .nil
  cells_cell inner rest hinner hrest h align name hname :=
    ((hinner h.head.children).map fun h => .element hname _ h).append
      (hrest h.tail align.tail name hname)
  cells_other n rest hother hrest h align name hname := by
    rw [cells_cons hother]
    exact hrest h.tail align.tail name hname

/-- A plain node is converted to trees with tags. -/
theorem node_makes (n : Node) (h : Node.Plain n.all) : Makes (node targets n) :=
  (walk_makes targets).node_holds n h

theorem row_makes (cs : List Node) (h : Node.Plain (Node.rowNodes true cs)) :
    Makes (row targets cs) :=
  (walk_makes targets).row_holds cs h

end

/-! ## Footnotes -/

/-- The notes that were collected have plain content. -/
def Definitions.PlainNotes (defs : Definitions) : Prop :=
  ∀ id content, defs.notes.get? id = some content → Node.Plain (Node.rowNodes true content)

theorem Definitions.PlainNotes.add {defs : Definitions} (h : defs.PlainNotes) {n : Node}
    (hn : Node.Plain n.all) : (defs.add n).PlainNotes := by
  cases n with
  | footnoteDefinition id cs =>
      intro other content hget
      have hnotes := get?_insertNew id other cs defs.notes
      rw [show (insertNew id cs defs.notes).get? other = some content from hget] at hnotes
      rcases Option.or_eq_some_iff.mp hnotes.symm with hold | ⟨-, hnew⟩
      · exact h other content hold
      · split at hnew
        · exact Option.some.inj hnew ▸ hn.children
        · cases hnew
  | _ => exact h

theorem collect_plain {defs : Definitions} (h : defs.PlainNotes) (n : Node)
    (hn : Node.Plain n.all) : (defs.collect n).PlainNotes := by
  have hbelow : ∀ m ∈ n.all, Node.Plain m.all :=
    fun m hm other hother => hn other (Node.all_subset hm hother)
  rw [collect_eq_foldl]
  generalize n.all = ns at hbelow
  induction ns generalizing defs with
  | nil => exact h
  | cons m ns ih =>
      obtain ⟨hm, hns⟩ := List.forall_mem_cons.mp hbelow
      exact ih (h.add hm) hns

theorem notes_makes {defs : Definitions} (h : defs.PlainNotes) (order : List String) :
    ∀ position : Nat, Makes (notes defs position order) := by
  induction order with
  | nil => exact fun _ => .pure .nil
  | cons id rest ih =>
      intro position
      rw [notes]
      split
      · rename_i content hget
        have hcontent := row_makes defs.targets content (h id content hget)
        exact (hcontent.map fun h => h.footnoteItem id position).append (ih (position + 1))
      · exact .after _ (ih (position + 1))

theorem endSection_makes {defs : Definitions} (h : defs.PlainNotes) (s : State) :
    Tagged ((endSection defs).run s).1.toList := by
  by_cases horder : s.order = []
  · rw [endSection_run horder]
    exact .nil
  · have hrun : ((endSection defs).run s).1
        = some (footnoteSection ((notes defs 1 s.order).run { s with order := [] }).1) := by
      obtain ⟨order, uses, esm, log⟩ := s
      cases order with
      | nil => exact absurd rfl horder
      | cons id rest => rfl
    rw [hrun]
    exact (notes_makes h s.order 1 _).footnoteSection

/-! ## Documents -/

theorem blocks_make (defs : Definitions) {document : Node} (h : Node.Plain document.all) :
    Makes (blocks defs document) := by
  have hnode := node_makes defs.targets document h
  rcases blocks_cases defs document with hblocks | hblocks <;> rw [hblocks]
  · exact hnode.map fun h => h.joinLines
  · exact hnode

theorem body_makes {defs : Definitions} (h : defs.PlainNotes) {document : Node}
    (hdocument : Node.Plain document.all) : Makes (body defs document) := by
  intro s
  have hblocks := blocks_make defs hdocument s
  have hend := endSection_makes h ((blocks defs document).run s).2
  rw [body_eq, StateT.run_bind]
  show Tagged (StateT.run (endSection defs >>= _) ((blocks defs document).run s).2).1
  rw [StateT.run_bind]
  generalize (endSection defs).run ((blocks defs document).run s).2 = result at hend ⊢
  obtain ⟨last, s'⟩ := result
  cases last with
  | none => exact hblocks
  | some last =>
      refine hblocks.append ?_
      split
      · exact hend
      · exact hend.newline_cons

end Convert

/-- Without JSX every element of a converted document has a tag. -/
theorem convert_tagged {document : Markdown.Node} (h : Markdown.Node.Plain document.all) :
    ∀ name ∈ (convert document).root.names, name ∈ Tag.all := by
  have hnotes : (Convert.Definitions.collect {} document).PlainNotes :=
    Convert.collect_plain (fun id content hget => by cases hget) document h
  have hdiv : "div" ∈ Tag.all := by decide
  have hroot : Convert.Tagged [(convert document).root.toTree] :=
    .element hdiv [] (Convert.body_makes hnotes h {})
  intro name hname
  exact hroot name (List.mem_append_left _ hname)

end Mdx
