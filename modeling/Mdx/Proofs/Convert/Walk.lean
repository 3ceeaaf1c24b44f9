import Mdx.Convert.Document

/-!
# Walks over documents

Conversion meets the nodes of a document in five ways: each by itself, in a row, and as the children
of a list, of a table and of a table row. A `Walk` has one property for each of them, and says how
each follows from those of what is met next. The properties then hold everywhere (`node_holds`,
`row_holds`), so that the induction over documents is made here, once for all that is proved about
conversion.
-/

namespace Mdx

namespace Markdown.Node

theorem sizeOf_children_le (n : Node) : sizeOf n.children ≤ sizeOf n := by
  cases n <;> simp [children] <;> omega

/-- Induction over nodes, with the hypothesis for every child. -/
@[elab_as_elim]
theorem nested {motive : Node → Prop} (node : ∀ n, (∀ m ∈ n.children, motive m) → motive n)
    (n : Node) : motive n :=
  node n fun m _ => nested node m
termination_by sizeOf n
decreasing_by
  have hlt := List.sizeOf_lt_of_mem ‹_›
  have hle := sizeOf_children_le n
  omega

end Markdown.Node

namespace Convert

open Markdown (Node)

/-! ## Children that are met alike -/

section

variable {targets : Dict (String × Option String)}

/-- What is no item is converted in a list as it is elsewhere. -/
theorem items_cons {n : Node} (h : ∀ spread checked cs, n ≠ .listItem spread checked cs)
    (loose : Bool) (rest : List Node) :
    items targets loose (n :: rest)
      = (do let here ← node targets n; return here ++ (← items targets loose rest)) := by
  cases n <;> first | rfl | exact absurd rfl (h _ _ _)

/-- Of the children of a table only the rows are converted. -/
theorem rows_cons {n : Node} (h : ∀ inner, n ≠ .tableRow inner) (align : List Markdown.Align)
    (name : String) (rest : List Node) :
    rows targets align name (n :: rest) = rows targets align name rest := by
  cases n <;> first | rfl | exact absurd rfl (h _)

/-- Of the children of a row only the cells are converted, each in its column. -/
theorem cells_cons {n : Node} (h : ∀ inner, n ≠ .tableCell inner) (align : List Markdown.Align)
    (name : String) (rest : List Node) :
    cells targets align name (n :: rest) = cells targets align.tail name rest := by
  cases n <;> first | rfl | exact absurd rfl (h _)

end

/-! ## Walks -/

/-- Properties of what conversion meets, each of which follows from those of what is met next. -/
structure Walk (onNode : Node → Prop) (onRow onItems onRows onCells : List Node → Prop) :
    Prop where
  node : ∀ n, onRow n.children → onItems n.children → onRows n.children → onNode n
  row_nil : onRow []
  row_cons : ∀ n rest, onNode n → onRow rest → onRow (n :: rest)
  items_nil : onItems []
  items_item : ∀ spread checked inner rest, onRow inner → onItems rest →
    onItems (.listItem spread checked inner :: rest)
  items_other : ∀ n rest, (∀ spread checked inner, n ≠ .listItem spread checked inner) →
    onNode n → onItems rest → onItems (n :: rest)
  rows_nil : onRows []
  rows_row : ∀ inner rest, onCells inner → onRows rest → onRows (.tableRow inner :: rest)
  rows_other : ∀ n rest, (∀ inner, n ≠ .tableRow inner) → onRows rest → onRows (n :: rest)
  cells_nil : onCells []
  cells_cell : ∀ inner rest, onRow inner → onCells rest → onCells (.tableCell inner :: rest)
  cells_other : ∀ n rest, (∀ inner, n ≠ .tableCell inner) → onCells rest → onCells (n :: rest)

namespace Walk

variable {onNode : Node → Prop} {onRow onItems onRows onCells : List Node → Prop}
  (h : Walk onNode onRow onItems onRows onCells)
include h

/-- What holds of the nodes of a row holds of the row. An item, a table row and a cell are opened
where they are met, so their children have to be known as well. -/
theorem children_hold {cs : List Node}
    (hcs : ∀ n ∈ cs, onNode n ∧ onRow n.children ∧ onCells n.children) :
    onRow cs ∧ onItems cs ∧ onRows cs ∧ onCells cs := by
  induction cs with
  | nil => exact ⟨h.row_nil, h.items_nil, h.rows_nil, h.cells_nil⟩
  | cons n rest ih =>
      obtain ⟨⟨hnode, hrow, hcells⟩, hcs⟩ := List.forall_mem_cons.mp hcs
      obtain ⟨hrowRest, hitemsRest, hrowsRest, hcellsRest⟩ := ih hcs
      refine ⟨h.row_cons n rest hnode hrowRest, ?_, ?_, ?_⟩
      · by_cases hitem : ∃ spread checked inner, n = .listItem spread checked inner
        · obtain ⟨spread, checked, inner, rfl⟩ := hitem
          exact h.items_item spread checked inner rest hrow hitemsRest
        · refine h.items_other n rest (fun spread checked inner hn => ?_) hnode hitemsRest
          exact hitem ⟨spread, checked, inner, hn⟩
      · by_cases htr : ∃ inner, n = .tableRow inner
        · obtain ⟨inner, rfl⟩ := htr
          exact h.rows_row inner rest hcells hrowsRest
        · exact h.rows_other n rest (fun inner hn => htr ⟨inner, hn⟩) hrowsRest
      · by_cases htd : ∃ inner, n = .tableCell inner
        · obtain ⟨inner, rfl⟩ := htd
          exact h.cells_cell inner rest hrow hcellsRest
        · exact h.cells_other n rest (fun inner hn => htd ⟨inner, hn⟩) hcellsRest

theorem holds (n : Node) : onNode n ∧ onRow n.children ∧ onCells n.children := by
  induction n using Node.nested with
  | node n ih =>
      obtain ⟨hrow, hitems, hrows, hcells⟩ := h.children_hold ih
      exact ⟨h.node n hrow hitems hrows, hrow, hcells⟩

theorem node_holds (n : Node) : onNode n :=
  (h.holds n).1

theorem row_holds (cs : List Node) : onRow cs :=
  (h.children_hold fun n _ => h.holds n).1

end Walk

end Convert

end Mdx
