import Mdx.Proofs.Convert.Tags

/-!
# References and inline links

A reference to a link or an image is converted as if its address stood in its place. `inlined` puts
the address there: that of the first definition of the identifier, wherever in the document the
definition and the reference stand. The main statement is `convert_inlined`: a document and its
inlined form are converted to the same.
-/

namespace Mdx

namespace Markdown.Node

/-- The address and title of the first definition of an identifier, in document order. -/
def definitionOf (document : Node) (id : String) : Option (String × Option String) :=
  document.all.findSome? (target? id)

mutual

/-- Replaces references whose target is found by links and images with its address and title. -/
def inlineWith (find : String → Option (String × Option String)) : Node → Node
  | .linkReference id label kind cs =>
    match find id with
    | some (url, title) => .link url title (inlineRow find cs)
    | none => .linkReference id label kind (inlineRow find cs)
  | .imageReference id label kind alt =>
    match find id with
    | some (url, title) => .image url alt title
    | none => .imageReference id label kind alt
  | .root cs => .root (inlineRow find cs)
  | .paragraph cs => .paragraph (inlineRow find cs)
  | .heading depth cs => .heading depth (inlineRow find cs)
  | .blockquote cs => .blockquote (inlineRow find cs)
  | .list ordered start spread cs => .list ordered start spread (inlineRow find cs)
  | .listItem spread checked cs => .listItem spread checked (inlineRow find cs)
  | .footnoteDefinition id cs => .footnoteDefinition id (inlineRow find cs)
  | .table align cs => .table align (inlineRow find cs)
  | .tableRow cs => .tableRow (inlineRow find cs)
  | .tableCell cs => .tableCell (inlineRow find cs)
  | .emphasis cs => .emphasis (inlineRow find cs)
  | .strong cs => .strong (inlineRow find cs)
  | .delete cs => .delete (inlineRow find cs)
  | .link url title cs => .link url title (inlineRow find cs)
  | .jsxFlow name attributes cs => .jsxFlow name attributes (inlineRow find cs)
  | .jsxText name attributes cs => .jsxText name attributes (inlineRow find cs)
  | n => n

/-- Replaces references in a row of nodes. -/
def inlineRow (find : String → Option (String × Option String)) : List Node → List Node
  | [] => []
  | n :: rest => inlineWith find n :: inlineRow find rest

end

/-- The document with links and images in place of the references that have a definition. -/
def inlined (document : Node) : Node :=
  document.inlineWith document.definitionOf

variable (find : String → Option (String × Option String))

theorem inlineRow_eq_map (cs : List Node) : inlineRow find cs = cs.map (inlineWith find) := by
  induction cs with
  | nil => rfl
  | cons n rest ih => rw [inlineRow, ih, List.map_cons]

/-- What becomes of a link reference. -/
theorem inlineWith_linkReference (id : String) (label : Option String) (kind : ReferenceKind)
    (cs : List Node) :
    inlineWith find (.linkReference id label kind cs)
      = match find id with
        | some (url, title) => .link url title (inlineRow find cs)
        | none => .linkReference id label kind (inlineRow find cs) := by
  rw [inlineWith]

/-- What becomes of an image reference. -/
theorem inlineWith_imageReference (id : String) (label : Option String) (kind : ReferenceKind)
    (alt : String) :
    inlineWith find (.imageReference id label kind alt)
      = match find id with
        | some (url, title) => .image url alt title
        | none => .imageReference id label kind alt := by
  rw [inlineWith]

theorem children_inlineWith (n : Node) :
    (inlineWith find n).children = inlineRow find n.children := by
  cases n with
  | linkReference id label kind cs =>
      rw [inlineWith_linkReference]
      cases find id <;> rfl
  | imageReference id label kind alt =>
      rw [inlineWith_imageReference]
      cases find id <;> rfl
  | _ => rfl

/-- The nodes of an inlined document are those of the document, each of them inlined. -/
theorem all_inlineWith (n : Node) : (inlineWith find n).all = n.all.map (inlineWith find) :=
  all_map (fun n => inlineRow_eq_map find n.children ▸ children_inlineWith find n) n

/-- Only references are replaced: what is no root, list item, row or cell does not become one. -/
theorem inlineWith_ne (n : Node) :
    ((∀ cs, n ≠ .root cs) → ∀ cs, inlineWith find n ≠ .root cs)
      ∧ ((∀ spread checked cs, n ≠ .listItem spread checked cs) →
        ∀ spread checked cs, inlineWith find n ≠ .listItem spread checked cs)
      ∧ ((∀ cs, n ≠ .tableRow cs) → ∀ cs, inlineWith find n ≠ .tableRow cs)
      ∧ ((∀ cs, n ≠ .tableCell cs) → ∀ cs, inlineWith find n ≠ .tableCell cs) := by
  cases n with
  | linkReference id label kind cs =>
      rw [inlineWith_linkReference]
      cases find id <;> simp
  | imageReference id label kind alt =>
      rw [inlineWith_imageReference]
      cases find id <;> simp
  | _ => simp [inlineWith]

/-- A list item stays loose or tight, and a task stays a task. -/
theorem item_inlineWith (n : Node) :
    Convert.isSpreadItem (inlineWith find n) = Convert.isSpreadItem n
      ∧ Convert.isTask (inlineWith find n) = Convert.isTask n := by
  cases n with
  | linkReference id label kind cs =>
      rw [inlineWith_linkReference]
      cases find id <;> exact ⟨rfl, rfl⟩
  | imageReference id label kind alt =>
      rw [inlineWith_imageReference]
      cases find id <;> exact ⟨rfl, rfl⟩
  | _ => exact ⟨rfl, rfl⟩

theorem any_inlineRow {test : Node → Bool} (h : ∀ n, test (inlineWith find n) = test n)
    (cs : List Node) : (inlineRow find cs).any test = cs.any test := by
  rw [inlineRow_eq_map, List.any_map]
  exact congrArg cs.any (funext h)

end Markdown.Node

namespace Convert

open Markdown (Node)

/-! ## Nodes -/

section

variable (targets : Dict (String × Option String))

/-- The address and title of a target that was collected. -/
def found (id : String) : Option (String × Option String) :=
  targets.get? id

/-- Whatever conversion meets, it treats the inlined form alike. -/
theorem walk_inlined :
    Walk (fun n => node targets (n.inlineWith (found targets)) = node targets n)
      (fun cs => row targets (Node.inlineRow (found targets) cs) = row targets cs)
      (fun cs => ∀ loose,
        items targets loose (Node.inlineRow (found targets) cs) = items targets loose cs)
      (fun cs => ∀ align name,
        rows targets align name (Node.inlineRow (found targets) cs) = rows targets align name cs)
      (fun cs => ∀ align name,
        cells targets align name (Node.inlineRow (found targets) cs)
          = cells targets align name cs) where
  node n hrow hitems hrows := by
    cases n with
    | linkReference id label kind cs =>
        have hcs : row targets (Node.inlineRow (found targets) cs) = row targets cs := hrow
        rw [Node.inlineWith_linkReference, node_linkReference, found]
        cases hget : targets.get? id with
        | some target => simp only [node, hcs]
        | none => simp only [node_linkReference, hget, hcs]
    | imageReference id label kind alt =>
        rw [Node.inlineWith_imageReference, node_imageReference, found]
        cases hget : targets.get? id with
        | some target => simp only [node]
        | none => simp only [node_imageReference, hget]
    | list ordered start spread cs =>
        have hspread := Node.any_inlineRow (found targets)
          (fun n => (Node.item_inlineWith (found targets) n).1) cs
        have htask := Node.any_inlineRow (found targets)
          (fun n => (Node.item_inlineWith (found targets) n).2) cs
        have hcs := hitems (spread || cs.any isSpreadItem)
        rw [Node.children] at hcs
        simp only [Node.inlineWith, node, hspread, htask, hcs]
    | table align cs =>
        have hcs := hrows align "th"
        rw [Node.children] at hcs
        simp only [Node.inlineWith, node, hcs]
    | root cs | paragraph cs | heading depth cs | blockquote cs | listItem spread checked cs
    | emphasis cs | strong cs | delete cs | link url title cs | jsxFlow name attributes cs
    | jsxText name attributes cs =>
        have hcs : row targets (Node.inlineRow (found targets) cs) = row targets cs := hrow
        simp only [Node.inlineWith, node, hcs]
    | _ => rfl
  row_nil := rfl
  row_cons n rest hn hrest := by
    rw [Node.inlineRow, row, row, hn, hrest]
  items_nil _ := rfl
  items_item spread checked inner rest hinner hrest loose := by
    simp only [Node.inlineRow, Node.inlineWith, items, hinner, hrest]
  items_other n rest hother hn hrest loose := by
    have hstill := (Node.inlineWith_ne (found targets) n).2.1 hother
    rw [Node.inlineRow, items_cons hstill, items_cons hother, hn, hrest]
  rows_nil _ _ := rfl
  rows_row inner rest hinner hrest align name := by
    simp only [Node.inlineRow, Node.inlineWith, rows, hinner, hrest]
  rows_other n rest hother hrest align name := by
    have hstill := (Node.inlineWith_ne (found targets) n).2.2.1 hother
    rw [Node.inlineRow, rows_cons hstill, rows_cons hother, hrest]
  cells_nil _ _ := rfl
  cells_cell inner rest hinner hrest align name := by
    simp only [Node.inlineRow, Node.inlineWith, cells, hinner, hrest]
  cells_other n rest hother hrest align name := by
    have hstill := (Node.inlineWith_ne (found targets) n).2.2.2 hother
    rw [Node.inlineRow, cells_cons hstill, cells_cons hother, hrest]

/-- A node and its inlined form are converted alike, whatever was converted before. -/
theorem node_inlineWith (n : Node) :
    node targets (n.inlineWith (found targets)) = node targets n :=
  (walk_inlined targets).node_holds n

theorem row_inlineRow (cs : List Node) :
    row targets (Node.inlineRow (found targets) cs) = row targets cs :=
  (walk_inlined targets).row_holds cs

end

/-! ## Definitions -/

/-- The targets that are collected from a document are those of its first definitions. -/
theorem found_collect (document : Node) :
    found (Definitions.collect {} document).targets = document.definitionOf :=
  funext fun id => look_collect (fun defs => defs.targets.get? id)
    (fun defs n => get?_add defs n id) {} document

/-- The second definitions are the first ones with their notes inlined. -/
structure Inlines (find : String → Option (String × Option String)) (defs defs' : Definitions) :
    Prop where
  targets : defs'.targets = defs.targets
  notes : ∀ id, defs'.notes.get? id = (defs.notes.get? id).map (Node.inlineRow find)

namespace Inlines

variable {find : String → Option (String × Option String)}

theorem add {defs defs' : Definitions} (h : Inlines find defs defs') (n : Node) :
    Inlines find (defs.add n) (defs'.add (n.inlineWith find)) := by
  cases n with
  | linkReference id label kind cs =>
      rw [Node.inlineWith_linkReference]
      cases find id <;> exact h
  | imageReference id label kind alt =>
      rw [Node.inlineWith_imageReference]
      cases find id <;> exact h
  | definition id url title =>
      refine ⟨?_, h.notes⟩
      show insertNew id (url, title) defs'.targets = insertNew id (url, title) defs.targets
      rw [h.targets]
  | footnoteDefinition identifier cs =>
      refine ⟨h.targets, fun id => ?_⟩
      show (insertNew identifier (Node.inlineRow find cs) defs'.notes).get? id
        = ((insertNew identifier cs defs.notes).get? id).map (Node.inlineRow find)
      rw [get?_insertNew, get?_insertNew, h.notes]
      cases defs.notes.get? id with
      | some content => rfl
      | none => by_cases hid : identifier = id <;> simp [hid]
  | _ => exact h

theorem collect {defs defs' : Definitions} (h : Inlines find defs defs') (n : Node) :
    Inlines find (defs.collect n) (defs'.collect (n.inlineWith find)) := by
  rw [collect_eq_foldl, collect_eq_foldl, Node.all_inlineWith]
  generalize n.all = ns
  induction ns generalizing defs defs' with
  | nil => exact h
  | cons n ns ih => exact ih (h.add n)

end Inlines

/-! ## Documents -/

section

variable {defs defs' : Definitions} (h : Inlines (found defs.targets) defs defs')
include h

theorem notes_inlined (position : Nat) (order : List String) :
    notes defs' position order = notes defs position order := by
  induction order generalizing position with
  | nil => rfl
  | cons id rest ih =>
      rw [notes, notes, h.notes, h.targets]
      cases defs.notes.get? id with
      | none => simp only [Option.map_none, ih]
      | some content => simp only [Option.map_some, row_inlineRow, ih]

theorem endSection_inlined : endSection defs' = endSection defs := by
  simp only [endSection, notes_inlined h]

theorem blocks_inlined (document : Node) :
    blocks defs' (document.inlineWith (found defs.targets)) = blocks defs document := by
  by_cases hroot : ∃ cs, document = .root cs
  · obtain ⟨cs, rfl⟩ := hroot
    simp only [Node.inlineWith, blocks, h.targets, row_inlineRow]
  · have hblocks : ∀ (defs : Definitions) (n : Node), (∀ cs, n ≠ .root cs) →
        blocks defs n = node defs.targets n := by
      intro defs n hn
      cases n <;> first | rfl | exact absurd rfl (hn _)
    have hother : ∀ cs, document ≠ .root cs := fun cs hn => hroot ⟨cs, hn⟩
    rw [hblocks defs document hother,
      hblocks defs' _ ((Node.inlineWith_ne _ document).1 hother), h.targets, node_inlineWith]

theorem body_inlined (document : Node) :
    body defs' (document.inlineWith (found defs.targets)) = body defs document := by
  rw [body_eq, body_eq, blocks_inlined h, endSection_inlined h]

end

end Convert

/-- References mean the same as inline links and images: a document is converted to the same
elements and host statements, with the same lines in the log, when every reference that has a
definition is replaced by a link or an image with the address and title of its first definition. -/
theorem convert_inlined (document : Markdown.Node) :
    convert document.inlined = convert document := by
  have hfound := Convert.found_collect document
  have hinlines : Convert.Inlines document.definitionOf (Convert.Definitions.collect {} document)
      (Convert.Definitions.collect {} document.inlined) :=
    Convert.Inlines.collect ⟨rfl, fun _ => rfl⟩ document
  rw [← hfound] at hinlines
  have hbody := Convert.body_inlined hinlines document
  rw [hfound] at hbody
  simp only [convert, Markdown.Node.inlined] at hbody ⊢
  rw [hbody]

end Mdx
