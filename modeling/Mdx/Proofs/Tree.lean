import Mdx.Module.Expr
import Mdx.Wire.Lower

/-!
# Trees and their rendered children

Induction over element trees and wire nodes, the elements, names and values in them, and the rows
that lowering makes of the children that are rendered.
-/

namespace Mdx

namespace Tree

/-- Induction over trees: an element or a fragment may use what holds of its children. -/
@[elab_as_elim]
theorem nested {motive : Tree → Prop}
    (element : ∀ name props cs, (∀ t ∈ cs, motive t) → motive (.element name props cs))
    (text : ∀ value, motive (.text value))
    (fragment : ∀ cs, (∀ t ∈ cs, motive t) → motive (.fragment cs)) (t : Tree) : motive t :=
  match t with
  | .element name props cs =>
      element name props cs fun t _ => nested element text fragment t
  | .text value => text value
  | .fragment cs => fragment cs fun t _ => nested element text fragment t
termination_by sizeOf t
decreasing_by
  all_goals
    have := List.sizeOf_lt_of_mem ‹_›
    simp
    omega

mutual

/-- The values of the props of a tree, parents first. -/
def values : Tree → List PropValue
  | .element _ props cs => props.map Prod.snd ++ rowValues cs
  | .text _ => []
  | .fragment cs => rowValues cs

/-- The values of the props of a row of trees. -/
def rowValues : List Tree → List PropValue
  | [] => []
  | t :: ts => values t ++ rowValues ts

end

mutual

/-- The elements of a tree, parents first. -/
def elements : Tree → List Element
  | .element name props cs => { name := name, props := props, children := cs } :: rowElements cs
  | .text _ => []
  | .fragment cs => rowElements cs

/-- The elements of a row of trees, parents first. -/
def rowElements : List Tree → List Element
  | [] => []
  | t :: ts => elements t ++ rowElements ts

end

theorem rowNames_eq_flatMap (cs : List Tree) : rowNames cs = cs.flatMap names := by
  induction cs with
  | nil => rfl
  | cons t ts ih => rw [rowNames, ih, List.flatMap_cons]

theorem rowValues_eq_flatMap (cs : List Tree) : rowValues cs = cs.flatMap values := by
  induction cs with
  | nil => rfl
  | cons t ts ih => rw [rowValues, ih, List.flatMap_cons]

theorem rowElements_eq_flatMap (cs : List Tree) : rowElements cs = cs.flatMap elements := by
  induction cs with
  | nil => rfl
  | cons t ts ih => rw [rowElements, ih, List.flatMap_cons]

end Tree

/-- The root and all elements below it, parents first. -/
def Element.elements (r : Element) : List Element :=
  r.toTree.elements

/-- Induction over nodes, with the hypothesis for every child. -/
@[elab_as_elim]
theorem Wire.Node.nested {motive : Wire.Node → Prop} (text : ∀ value, motive (.text value))
    (element : ∀ name props children, (∀ n ∈ children, motive n) →
      motive (.element name props children)) (n : Wire.Node) : motive n :=
  match n with
  | .text value => text value
  | .element name props children =>
      element name props children fun n _ => Wire.Node.nested text element n
termination_by sizeOf n
decreasing_by
  have := List.sizeOf_lt_of_mem ‹_›
  simp
  omega

/-! ## Rendered children -/

/-- The children that are rendered. -/
def Rendered.children (preformatted : Bool) (cs : List Tree) : List Tree :=
  cs.filter fun t => !skips preformatted t

theorem Rendered.mem_of_mem_children {preformatted : Bool} {cs : List Tree} {t : Tree}
    (h : t ∈ children preformatted cs) : t ∈ cs :=
  (List.mem_filter.mp h).1

theorem Rendered.children_cons (preformatted : Bool) (t : Tree) (ts : List Tree) :
    children preformatted (t :: ts)
      = if skips preformatted t then children preformatted ts
        else t :: children preformatted ts := by
  rw [children, List.filter_cons]
  cases skips preformatted t <;> rfl

theorem Order.length_count (index : Nat) (previous : String) (names : List (Option String)) :
    (count index previous names).length = names.length := by
  induction names generalizing index previous with
  | nil => rfl
  | cons name rest ih => simp [count, ih]

/-- There is one position for each rendered child. -/
theorem Rendered.length_orders (mark : String) (preformatted : Bool) (cs : List Tree) :
    (orders mark preformatted cs).length = (children preformatted cs).length := by
  simp [orders, Order.ofNames, Order.length_count, children]

/-- The rendered children are lowered one by one. -/
theorem Wire.lowerRow_eq_map (assets : AssetMap) (mark : String) (preformatted : Bool)
    (cs : List Tree) :
    lowerRow assets mark preformatted cs
      = (Rendered.children preformatted cs).map (lowerTree assets mark preformatted) := by
  induction cs with
  | nil => rfl
  | cons t ts ih =>
      rw [lowerRow, ih, Rendered.children_cons]
      cases Rendered.skips preformatted t <;> rfl

/-- The rendered children are expressed one by one, each at its own position. -/
theorem Module.ofRow_eq_zipWith (mark : String) (bound : List String) (preformatted : Bool)
    {orders : List Order} {cs : List Tree}
    (h : orders.length = (Rendered.children preformatted cs).length) :
    ofRow mark bound preformatted orders cs
      = List.zipWith (ofTree mark bound preformatted) orders
          (Rendered.children preformatted cs) := by
  induction cs generalizing orders with
  | nil => cases orders <;> rfl
  | cons t ts ih =>
      rw [Rendered.children_cons] at h ⊢
      rw [ofRow]
      by_cases hskip : Rendered.skips preformatted t = true
      · rw [if_pos hskip] at h ⊢
        rw [if_pos hskip, ih h]
      · rw [if_neg hskip] at h ⊢
        rw [if_neg hskip]
        cases orders with
        | nil => simp at h
        | cons order orders =>
            rw [List.tail_cons, ih (by simpa using h)]
            rfl

end Mdx
