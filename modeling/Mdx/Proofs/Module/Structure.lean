import Mdx.Proofs.Module.ReadBack
import Mdx.Proofs.Tree

/-!
# What the expression of a module says

The expression that is read from the text of a generated module shows the tree the module was made
from, and has the props and children of the wire document that is made from the same tree:

* `Shows`, the relation between a tree and an expression for it;
* `Outline`, what expressions and wire nodes have in common;
* `text_readsBack`, the main statement.
-/

namespace Mdx.Module

/-! ## Expressions that show a tree -/

/-- An expression shows a tree at a position: each node of the tree is there with its reference, its
props in their order, its position, and its rendered children in their order. `preformatted` says
that the node stands where white space is content. -/
inductive Shows (mark : String) (bound : List String) : Bool → Order → Tree → Expr → Prop
  | text (preformatted : Bool) (order : Order) (value : String) :
      Shows mark bound preformatted order (.text value) (.text value)
  | element {preformatted : Bool} {order : Order} {name : String}
      {props : List (String × PropValue)} {cs : List Tree} {inner : Bool} {children : List Expr}
      (hinner : inner = (preformatted || Rendered.isPreformatted mark name))
      (hlength : children.length = (Rendered.children inner cs).length)
      (hshows : ∀ (i : Nat) (t : Tree) (o : Order) (e : Expr),
        (Rendered.children inner cs)[i]? = some t → (Rendered.orders mark inner cs)[i]? = some o →
          children[i]? = some e → Shows mark bound inner o t e) :
      Shows mark bound preformatted order (.element name props cs)
        (.call (reference mark bound name) (propsAsRead props) (some order) children)
  | fragment {preformatted : Bool} {order : Order} {cs : List Tree} {children : List Expr}
      (hlength : children.length = (Rendered.children preformatted cs).length)
      (hshows : ∀ (i : Nat) (t : Tree) (o : Order) (e : Expr),
        (Rendered.children preformatted cs)[i]? = some t →
          (Rendered.orders mark preformatted cs)[i]? = some o →
            children[i]? = some e → Shows mark bound preformatted o t e) :
      Shows mark bound preformatted order (.fragment cs) (.call .fragment [] none children)

/-- The expressions that are read for the children of a node. -/
def childrenAsRead (mark : String) (bound : List String) (preformatted : Bool) (cs : List Tree) :
    List Expr :=
  Expr.rowAsRead (ofRow mark bound preformatted (Rendered.orders mark preformatted cs) cs)

theorem childrenAsRead_eq (mark : String) (bound : List String) (preformatted : Bool)
    (cs : List Tree) :
    childrenAsRead mark bound preformatted cs
      = List.zipWith (fun o t => (ofTree mark bound preformatted o t).asRead)
          (Rendered.orders mark preformatted cs) (Rendered.children preformatted cs) := by
  rw [childrenAsRead, Expr.rowAsRead_eq_map,
    ofRow_eq_zipWith mark bound preformatted (Rendered.length_orders mark preformatted cs),
    List.map_zipWith]

theorem length_childrenAsRead (mark : String) (bound : List String) (preformatted : Bool)
    (cs : List Tree) :
    (childrenAsRead mark bound preformatted cs).length
      = (Rendered.children preformatted cs).length := by
  rw [childrenAsRead_eq, List.length_zipWith, Rendered.length_orders, Nat.min_self]

/-- The child at a place is read from the rendered tree at that place. -/
theorem childrenAsRead_getElem? {mark : String} {bound : List String} {preformatted : Bool}
    {cs : List Tree} {i : Nat} {t : Tree} {o : Order} {e : Expr}
    (ht : (Rendered.children preformatted cs)[i]? = some t)
    (ho : (Rendered.orders mark preformatted cs)[i]? = some o)
    (he : (childrenAsRead mark bound preformatted cs)[i]? = some e) :
    e = (ofTree mark bound preformatted o t).asRead := by
  rw [childrenAsRead_eq, List.getElem?_zipWith, ht, ho] at he
  exact (Option.some.inj he).symm

theorem shows_asRead (mark : String) (bound : List String) (t : Tree) :
    ∀ (preformatted : Bool) (order : Order),
      Shows mark bound preformatted order t (ofTree mark bound preformatted order t).asRead := by
  induction t using Tree.nested with
  | text value =>
      intro preformatted order
      exact .text preformatted order value
  | element name props cs ih =>
      intro preformatted order
      refine .element rfl (length_childrenAsRead _ _ _ cs) fun i t o e ht ho he => ?_
      rw [childrenAsRead_getElem? ht ho he]
      exact ih t (Rendered.mem_of_mem_children (List.mem_of_getElem? ht)) _ o
  | fragment cs ih =>
      intro preformatted order
      refine .fragment (length_childrenAsRead _ _ _ cs) fun i t o e ht ho he => ?_
      rw [childrenAsRead_getElem? ht ho he]
      exact ih t (Rendered.mem_of_mem_children (List.mem_of_getElem? ht)) _ o

/-! ## Outlines -/

/-- What expressions and wire nodes have in common: texts, and nodes with props and children. -/
inductive Outline where
  | text (value : String)
  | node (props : List (String × Json)) (children : List Outline)

/-- The value of a prop, once local files have an address. -/
def served (url : String → String) : PropValue → Json
  | .literal v => v
  | .expression source => .str source
  | .localAsset path => .str (url path)

mutual

/-- The outline of an expression. -/
def Expr.outline (url : String → String) : Expr → Outline
  | .text value => .text value
  | .call _ props _ children =>
    .node (props.map fun (key, value) => (key, served url value)) (Expr.rowOutline url children)

/-- The outlines of a row of expressions. -/
def Expr.rowOutline (url : String → String) : List Expr → List Outline
  | [] => []
  | e :: rest => Expr.outline url e :: Expr.rowOutline url rest

end

mutual

/-- The outline of a wire node. -/
def nodeOutline : Wire.Node → Outline
  | .text value => .text value
  | .element _ props children => .node props (rowOutline children)

/-- The outlines of a row of wire nodes. -/
def rowOutline : List Wire.Node → List Outline
  | [] => []
  | n :: rest => nodeOutline n :: rowOutline rest

end

theorem Expr.rowOutline_eq_map (url : String → String) (row : List Expr) :
    Expr.rowOutline url row = row.map (Expr.outline url) := by
  induction row with
  | nil => rfl
  | cons e rest ih => rw [Expr.rowOutline, ih, List.map_cons]

theorem rowOutline_eq_map (row : List Wire.Node) : rowOutline row = row.map nodeOutline := by
  induction row with
  | nil => rfl
  | cons n rest ih => rw [rowOutline, ih, List.map_cons]

theorem propValue?_eq_served (url : String → String) (value : PropValue) :
    Wire.propValue? (fun path => some (url path)) value = some (served url value.asRead) := by
  cases value <;> rfl

/-- Where every file has an address, no prop is lost on the wire. -/
theorem lowerProps_eq_map (url : String → String) (props : List (String × PropValue)) :
    Wire.lowerProps (fun path => some (url path)) props
      = (propsAsRead props).map fun (key, value) => (key, served url value) := by
  rw [Wire.lowerProps, propsAsRead, List.map_map, ← List.filterMap_eq_map]
  refine congrArg (List.filterMap · props) (funext fun prop => ?_)
  exact congrArg (Option.map fun v => (prop.1, v)) (propValue?_eq_served url prop.2)

/-- Rows have equal outlines if their trees do. -/
theorem rowOutline_asRead {mark : String} (bound : List String) {url : String → String}
    {preformatted : Bool} {cs : List Tree}
    (h : ∀ t ∈ cs, ∀ order, (ofTree mark bound preformatted order t).asRead.outline url
      = nodeOutline (Wire.lowerTree (fun path => some (url path)) mark preformatted t)) :
    Expr.rowOutline url (childrenAsRead mark bound preformatted cs)
      = rowOutline (Wire.lowerRow (fun path => some (url path)) mark preformatted cs) := by
  rw [Expr.rowOutline_eq_map, rowOutline_eq_map, Wire.lowerRow_eq_map, childrenAsRead_eq,
    List.map_zipWith, List.map_map]
  have hlength := Rendered.length_orders mark preformatted cs
  have hmem : ∀ t ∈ Rendered.children preformatted cs, t ∈ cs :=
    fun t ht => Rendered.mem_of_mem_children ht
  -- An outline has no positions, so any list of them of the right length will do.
  generalize Rendered.orders mark preformatted cs = orders at hlength ⊢
  generalize Rendered.children preformatted cs = rendered at hlength hmem ⊢
  induction rendered generalizing orders with
  | nil => simp
  | cons t ts ih =>
      cases orders with
      | nil => simp at hlength
      | cons order orders =>
          rw [List.zipWith_cons_cons, List.map_cons, h t (hmem t (by simp)) order,
            ih orders (by simpa using hlength) fun t ht => hmem t (List.mem_cons_of_mem _ ht)]
          rfl

theorem outline_asRead (mark : String) (bound : List String) (url : String → String) (t : Tree) :
    ∀ (preformatted : Bool) (order : Order),
      (ofTree mark bound preformatted order t).asRead.outline url
        = nodeOutline (Wire.lowerTree (fun path => some (url path)) mark preformatted t) := by
  induction t using Tree.nested with
  | text value => intros; rfl
  | element name props cs ih =>
      intro preformatted order
      rw [Wire.lowerTree, nodeOutline, lowerProps_eq_map,
        ← rowOutline_asRead bound fun t ht order => ih t ht _ order]
      rfl
  | fragment cs ih =>
      intro preformatted order
      rw [Wire.lowerTree, nodeOutline,
        ← rowOutline_asRead bound fun t ht order => ih t ht _ order]
      rfl

/-! ## Trees whose expressions can be read -/

/-- The part of a name before its first dot. -/
def firstPart (name : String) : String :=
  String.ofList (name.toList.takeWhile (· ≠ '.'))

theorem reference_named (mark : String) {bound : List String} {name : String}
    (h : firstPart name ∈ bound → isDotted name = true) :
    (reference mark bound name).Named ∧ reference mark bound name ≠ .fragment := by
  rw [reference]
  split
  · exact ⟨trivial, by simp⟩
  · split
    · rename_i hbound
      exact ⟨h (List.contains_iff_mem.mp hbound), by simp⟩
    · split <;> exact ⟨trivial, by simp⟩

/-- The expressions of a row come from its trees. -/
theorem mem_ofRow {mark : String} {bound : List String} {preformatted : Bool}
    {orders : List Order} {cs : List Tree} {e : Expr}
    (h : e ∈ ofRow mark bound preformatted orders cs) :
    ∃ t ∈ cs, ∃ order, e = ofTree mark bound preformatted order t := by
  induction cs generalizing orders with
  | nil => simp [ofRow] at h
  | cons t ts ih =>
      rw [ofRow] at h
      split at h
      · obtain ⟨u, hu, order, he⟩ := ih h
        exact ⟨u, List.mem_cons_of_mem _ hu, order, he⟩
      · rcases List.mem_cons.mp h with rfl | h
        · exact ⟨t, by simp, _, rfl⟩
        · obtain ⟨u, hu, order, he⟩ := ih h
          exact ⟨u, List.mem_cons_of_mem _ hu, order, he⟩

theorem ofTree_readable (mark : String) {bound : List String} {t : Tree}
    (hvalues : ∀ v ∈ t.values, v.Exact)
    (hnames : ∀ name ∈ t.names, firstPart name ∈ bound → isDotted name = true) :
    ∀ (preformatted : Bool) (order : Order),
      (ofTree mark bound preformatted order t).Readable := by
  induction t using Tree.nested with
  | text value => exact fun _ _ => .text value
  | element name props cs ih =>
      rw [Tree.values, Tree.rowValues_eq_flatMap] at hvalues
      rw [Tree.names, Tree.rowNames_eq_flatMap] at hnames
      intro preformatted order
      obtain ⟨hnamed, hcomponent⟩ := reference_named mark (hnames name (by simp))
      refine .element hnamed hcomponent (fun p hp => ?_) fun e he => ?_
      · exact hvalues p.2 (List.mem_append_left _ (List.mem_map_of_mem hp))
      · obtain ⟨t, ht, order, rfl⟩ := mem_ofRow he
        refine ih t ht (fun v hv => hvalues v ?_) (fun n hn => hnames n ?_) _ order
        · exact List.mem_append_right _ (List.mem_flatMap.mpr ⟨t, ht, hv⟩)
        · exact List.mem_cons_of_mem _ (List.mem_flatMap.mpr ⟨t, ht, hn⟩)
  | fragment cs ih =>
      rw [Tree.values, Tree.rowValues_eq_flatMap] at hvalues
      rw [Tree.names, Tree.rowNames_eq_flatMap] at hnames
      intro preformatted order
      refine .fragment fun e he => ?_
      obtain ⟨t, ht, order, rfl⟩ := mem_ofRow he
      refine ih t ht (fun v hv => hvalues v ?_) (fun n hn => hnames n ?_) _ order
      · exact List.mem_flatMap.mpr ⟨t, ht, hv⟩
      · exact List.mem_flatMap.mpr ⟨t, ht, hn⟩

/-! ## Module texts -/

/-- The names that the blocks of a document bind, a default export bound as the layout. -/
def bindings (esm : List String) : List String :=
  boundNames (bindLayouts false (esm.map String.toList)).2

/-- The text of a module before the expression of its tree. -/
def opening (options : Options) (frontmatter : Option (Dict Json)) (esm : List String) : String :=
  String.join ((importLines options
      ++ (bindLayouts false (esm.map String.toList)).2.map String.ofList
      ++ [frontmatterLine frontmatter] ++ lookupLines
      ++ [ "function _createMdxContent(props) \x7b",
          "  const components = \x7b...useMDXComponents(), ...props.components\x7d;" ]).map
        (· ++ "\n"))
    ++ "  return "

/-- The text of a module after the expression of its tree. -/
def closing (esm : List String) : String :=
  String.join (([";", "\x7d"]
    ++ exportLines (bindLayouts false (esm.map String.toList)).1).map (· ++ "\n"))

theorem text_eq (options : Options) (root : Element) (frontmatter : Option (Dict Json))
    (esm : List String) :
    text options root frontmatter esm
      = opening options frontmatter esm
        ++ (String.ofList (ofTree options.tagPrefix (bindings esm) false .alone root.toTree).chars
          ++ closing esm) := by
  simp only [text, opening, closing, bindings, expression, contentLines, List.map_append,
    List.map_cons, List.map_nil, String.join_append, String.join_cons, String.join_nil,
    String.append_assoc, String.append_empty]

/-- The expression a module returns is read back from its text, whatever strings the tree holds: it
shows the tree, and has the outline of the wire document where every file has an address. Names
whose first part the document binds have to be made of names and dots, as they are written without
quotes, and the literals have to be such that a text can keep them. -/
theorem text_readsBack (options : Options) (root : Element) (frontmatter : Option (Dict Json))
    (esm : List String) (hvalues : ∀ v ∈ root.toTree.values, v.Exact)
    (hnames : ∀ name ∈ root.names, firstPart name ∈ bindings esm → isDotted name = true) :
    ∃ (s : String) (e : Expr),
      text options root frontmatter esm = opening options frontmatter esm ++ s
        ∧ Reader.read? s.toList = some (e, (closing esm).toList)
        ∧ Shows options.tagPrefix (bindings esm) false .alone root.toTree e
        ∧ ∀ url : String → String, e.outline url
          = nodeOutline (Wire.lower (fun path => some (url path)) options.tagPrefix root
              frontmatter).document.tree := by
  have hread := Reader.reads_of_readable
    (ofTree_readable options.tagPrefix hvalues hnames false .alone)
  refine ⟨_, _, text_eq options root frontmatter esm, ?_, shows_asRead _ _ root.toTree _ _,
    fun url => outline_asRead _ _ url root.toTree _ _⟩
  rw [String.toList_append, String.toList_ofList, Reader.read?]
  exact hread _ (by simp) _

/-- A root that holds texts, keys, paths and names like those of the generated code. -/
def trickyRoot : Element :=
  { name := "html.div"
    props :=
      [ ("\", children: \"", .literal (.str "\"\x7d), _jsx(\\")),
        ("a", .localAsset "\"), require(\""),
        ("b", .expression "\x7bx => 1\x7d, components: components"),
        ("c", .literal (.arr [.num (.int (-3)), .obj [("j", .bool true), ("k", .null)]])) ]
    children :=
      [ .text "\n",
        .element "_Fragment.Item" [] [.text "]\x7d)", .fragment [], .text "children: "],
        .fragment [.element "my-tag" [] [], .text "_jsx("],
        .text "\", children: [\"" ] }

/-- Blocks that bind the name of the host library's fragment. -/
def trickyBlocks : List String :=
  ["import * as _Fragment from \"m\"", "export default _Fragment"]

theorem trickyRoot_exact : ∀ v ∈ trickyRoot.toTree.values, v.Exact := by
  simp [trickyRoot, Element.toTree, Tree.values, Tree.rowValues, PropValue.Exact, Json.Exact,
    Json.Ordered, Json.Integral, Json.Everywhere, Json.EveryItem, Json.EveryField,
    Json.Number.Fits]
  decide

theorem trickyRoot_names :
    ∀ name ∈ trickyRoot.names, firstPart name ∈ bindings trickyBlocks → isDotted name = true := by
  decide

theorem text_readsBack_tricky :
    (∀ v ∈ trickyRoot.toTree.values, v.Exact)
      ∧ (∀ name ∈ trickyRoot.names, firstPart name ∈ bindings trickyBlocks → isDotted name = true)
      ∧ ∃ (s : String) (e : Expr),
        text {} trickyRoot none trickyBlocks = opening {} none trickyBlocks ++ s
          ∧ Reader.read? s.toList = some (e, (closing trickyBlocks).toList)
          ∧ Shows "html." ["_Fragment", "MDXLayout"] false .alone trickyRoot.toTree e
          ∧ ∀ url : String → String, e.outline url
            = nodeOutline (Wire.lower (fun path => some (url path)) "html." trickyRoot
                none).document.tree := by
  have hbindings : bindings trickyBlocks = ["_Fragment", "MDXLayout"] := by decide
  refine ⟨trickyRoot_exact, trickyRoot_names, ?_⟩
  rw [← hbindings]
  exact text_readsBack {} trickyRoot none trickyBlocks trickyRoot_exact trickyRoot_names

end Mdx.Module
