import Mathlib.Data.List.Basic
import Mdx.Proofs.Content
import Mdx.Proofs.Convert.Shapes
import Mdx.Proofs.Convert.Walk
import Mdx.Proofs.Dict

/-!
# The content of converted documents

Conversion puts every text of a document into the tree once and in order. What a document says is
read off the list of its nodes outside footnote definitions (`Markdown.Node.outside`); `Shows` says
that a conversion shows such a list of nodes, and has one law for each way in which conversions are
put together. The main statement is `convert_keepsContent`.
-/

namespace Mdx

namespace Markdown.Node

/-! ## The nodes of a document -/

mutual

/-- The nodes below a node in document order; `deep` says whether footnote definitions are
entered. -/
def descendants (deep : Bool) : Node → List Node
  | .footnoteDefinition _ cs => if deep then rowNodes deep cs else []
  | .root cs | .paragraph cs | .heading _ cs | .blockquote cs | .list _ _ _ cs
  | .listItem _ _ cs | .table _ cs | .tableRow cs | .tableCell cs
  | .emphasis cs | .strong cs | .delete cs | .link _ _ cs | .linkReference _ _ _ cs
  | .jsxFlow _ _ cs | .jsxText _ _ cs => rowNodes deep cs
  | _ => []

/-- The nodes of a row and those below them. -/
def rowNodes (deep : Bool) : List Node → List Node
  | [] => []
  | n :: rest => n :: (descendants deep n ++ rowNodes deep rest)

end

/-- All nodes of a document, parents first. -/
def all (document : Node) : List Node :=
  document :: descendants true document

/-- The nodes of a document that are in no footnote definition. -/
def outside (document : Node) : List Node :=
  document :: descendants false document

theorem all_eq (n : Node) : n.all = n :: rowNodes true n.children := by
  cases n <;> rfl

theorem rowNodes_true_cons (n : Node) (rest : List Node) :
    rowNodes true (n :: rest) = n.all ++ rowNodes true rest := rfl

theorem rowNodes_false_cons (n : Node) (rest : List Node) :
    rowNodes false (n :: rest) = n.outside ++ rowNodes false rest := rfl

theorem rowNodes_eq_flatMap (cs : List Node) : rowNodes true cs = cs.flatMap all := by
  induction cs with
  | nil => rfl
  | cons n rest ih => rw [rowNodes_true_cons, ih, List.flatMap_cons]

/-- What is done to every node of a document in its place. -/
theorem all_map {edit : Node → Node} (h : ∀ n, (edit n).children = n.children.map edit)
    (n : Node) : (edit n).all = n.all.map edit := by
  induction n using nested with
  | node n ih =>
      rw [all_eq, all_eq, rowNodes_eq_flatMap, rowNodes_eq_flatMap, h, List.map_cons,
        List.flatMap_map, List.map_flatMap, List.flatMap_congr ih]

/-- The nodes of a part of a document are nodes of the document. -/
theorem all_subset {n m : Node} (h : m ∈ n.all) : m.all ⊆ n.all := by
  induction n using nested with
  | node n ih =>
      rw [all_eq n, rowNodes_eq_flatMap] at h
      rcases List.mem_cons.mp h with rfl | hbelow
      · exact List.Subset.refl _
      · obtain ⟨c, hc, hm⟩ := List.mem_flatMap.mp hbelow
        intro other hother
        rw [all_eq n, rowNodes_eq_flatMap]
        exact List.mem_cons_of_mem _ (List.mem_flatMap.mpr ⟨c, hc, ih c hc hm hother⟩)

/-- The value of a node that is shown as text. -/
def textValue? : Node → Option String
  | .text value | .inlineCode value | .code value _ _ | .math value | .inlineMath value
  | .html value => some value
  | _ => none

/-- The host statements of a node. -/
def esmValue? : Node → Option String
  | .esm value => some value
  | _ => none

/-- The text of a piece of code; a block of code ends with a line feed, unless it is empty. -/
def codeValue? : Node → Option String
  | .inlineCode value | .inlineMath value => some value
  | .code value _ _ | .math value => some (if value = "" then "" else value ++ "\n")
  | _ => none

def isJsx : Node → Bool
  | .jsxFlow _ _ _ | .jsxText _ _ _ => true
  | _ => false

def isRow : Node → Bool
  | .tableRow _ => true
  | _ => false

def isCell : Node → Bool
  | .tableCell _ => true
  | _ => false

/-- Tables hold only rows, rows only cells, and no other node holds either. -/
def isTabular : Node → Bool
  | .table _ cs => cs.all isRow
  | .tableRow cs => cs.all isCell
  | n => n.children.all fun c => !c.isRow && !c.isCell

/-- The node is no reference to a footnote, and what it refers to is defined. -/
def isResolved (defined : String → Bool) : Node → Bool
  | .linkReference id _ _ _ | .imageReference id _ _ _ => defined id
  | .footnoteReference _ => false
  | _ => true

/-- The node defines a link target. -/
def defines (id : String) : Node → Bool
  | .definition identifier _ _ => identifier == id
  | _ => false

/-- The address and title that the node defines for an identifier. -/
def target? (id : String) : Node → Option (String × Option String)
  | .definition identifier url title => if identifier = id then some (url, title) else none
  | _ => none

theorem isSome_target? (id : String) (n : Node) : (n.target? id).isSome = n.defines id := by
  cases n with
  | definition identifier url title => by_cases h : identifier = id <;> simp [target?, defines, h]
  | _ => rfl

/-- Outside of footnote definitions, all references are to targets defined in the document, and
rows and cells stand where they belong. -/
structure Regular (document : Node) : Prop where
  references : ∀ n ∈ document.outside, n.isResolved (fun id => document.all.any (defines id)) = true
  tables : ∀ n ∈ document.outside, n.isTabular = true
  block : document.isRow = false ∧ document.isCell = false

end Markdown.Node

namespace Convert

open Markdown (Node)

/-! ## Rows of trees that show the same -/

/-- The two rows show the same texts, white space apart, and the same code. -/
structure Alike (ts us : List Tree) : Prop where
  ink : ink (Tree.contents ts) = ink (Tree.contents us)
  code : Tree.rowCodeTexts Tag.defaultPrefix ts = Tree.rowCodeTexts Tag.defaultPrefix us

namespace Alike

theorem refl (ts : List Tree) : Alike ts ts :=
  ⟨rfl, rfl⟩

theorem trans {ts us vs : List Tree} (h : Alike ts us) (h' : Alike us vs) : Alike ts vs :=
  ⟨h.ink.trans h'.ink, h.code.trans h'.code⟩

theorem append {ts us ts' us' : List Tree} (h : Alike ts us) (h' : Alike ts' us') :
    Alike (ts ++ ts') (us ++ us') := by
  constructor
  · rw [Tree.contents_append, Tree.contents_append, ink_append, ink_append, h.ink, h'.ink]
  · rw [Tree.rowCodeTexts_append, Tree.rowCodeTexts_append, h.code, h'.code]

/-- A line feed shows nothing. -/
theorem newline_cons (ts : List Tree) : Alike (newline :: ts) ts := by
  have hnewline : Alike [newline] [] := ⟨by decide, by decide⟩
  exact hnewline.append (refl ts)

/-- An element other than code shows what its children show. -/
theorem element {name : String} (h : isCode Tag.defaultPrefix name = false)
    (props : List (String × PropValue)) (ts : List Tree) :
    Alike [.element name props ts] ts := by
  constructor
  · simp [Tree.contents, Tree.content]
  · simp [Tree.rowCodeTexts, Tree.codeTexts, h]

/-- However a row is arranged, it shows the same. -/
theorem of_shape {edit : List Tree → List Tree}
    (hedit : ∀ {α : Type} {view : List Tree → List α}, Transparent view →
      ∀ ts, view (edit ts) = view ts) (ts : List Tree) : Alike (edit ts) ts := by
  have hink : Transparent fun ts => Mdx.ink (Tree.contents ts) :=
    { append := fun ts us => by rw [Tree.contents_append, ink_append]
      newline := by decide
      space := by decide
      element := fun name _ props ts => by simp [Tree.contents, Tree.content] }
  have harranging : ∀ name ∈ arranging, isCode Tag.defaultPrefix name = false := by decide
  have hcode : Transparent (Tree.rowCodeTexts Tag.defaultPrefix) :=
    { append := Tree.rowCodeTexts_append _
      newline := by decide
      space := by decide
      element := fun name hname props ts => (element (harranging name hname) props ts).code }
  exact ⟨hedit hink ts, hedit hcode ts⟩

theorem joinLines (ts : List Tree) : Alike (joinLines ts) ts :=
  of_shape (fun h => h.joinLines) ts

theorem onLines (ts : List Tree) : Alike (onLines ts) ts :=
  of_shape (fun h => h.onLines) ts

theorem listItem (loose : Bool) (checked : Option Bool) (ts : List Tree) :
    Alike [listItem loose checked ts] ts :=
  of_shape (fun h => h.listItem loose checked) ts

theorem list (ordered : Bool) (start : Option Nat) (hasTask : Bool) (ts : List Tree) :
    Alike [list ordered start hasTask ts] ts :=
  of_shape (fun h => h.list ordered start hasTask) ts

theorem table (ts : List Tree) : Alike [table ts] ts :=
  of_shape (fun h => h.table) ts

end Alike

/-! ## Conversions that show nodes -/

/-- A conversion shows nodes: their texts, white space apart, their host statements, and, if none of
them is JSX, their code. It numbers no footnotes. -/
structure Shows (ns : List Node) (m : StateM State (List Tree)) : Prop where
  ink : ∀ s, ink (Tree.contents (m.run s).1) = ink (String.join (ns.filterMap Node.textValue?))
  esm : ∀ s, (m.run s).2.esm = s.esm ++ ns.filterMap Node.esmValue?
  order : ∀ s, (m.run s).2.order = s.order
  code : (∀ n ∈ ns, n.isJsx = false) → ∀ s,
    Tree.rowCodeTexts Tag.defaultPrefix (m.run s).1 = ns.filterMap Node.codeValue?

namespace Shows

variable {ns ms : List Node} {m : StateM State (List Tree)}

theorem nil : Shows [] (pure []) :=
  { ink := fun _ => rfl
    esm := fun s => (List.append_nil s.esm).symm
    order := fun _ => rfl
    code := fun _ _ => rfl }

/-- What is done to the trees afterwards may change their shape. -/
theorem map (h : Shows ns m) {edit : List Tree → List Tree} (hedit : ∀ ts, Alike (edit ts) ts) :
    Shows ns (do return edit (← m)) :=
  { ink := fun s => (hedit _).1.trans (h.ink s)
    esm := h.esm
    order := h.order
    code := fun hjsx s => (hedit _).2.trans (h.code hjsx s) }

/-- One conversion after another. -/
theorem append (h : Shows ns m) {m' : StateM State (List Tree)} (h' : Shows ms m') :
    Shows (ns ++ ms) (do let here ← m; return here ++ (← m')) := by
  refine ⟨fun s => ?_, fun s => ?_, fun s => ?_, fun hjsx s => ?_⟩
  · have hrun : ((do let here ← m; return here ++ (← m') : StateM State (List Tree)).run s).1
        = (m.run s).1 ++ (m'.run (m.run s).2).1 := rfl
    rw [hrun, Tree.contents_append, ink_append, h.ink, h'.ink, List.filterMap_append,
      String.join_append, ink_append]
  · have hrun : ((do let here ← m; return here ++ (← m') : StateM State (List Tree)).run s).2
        = (m'.run (m.run s).2).2 := rfl
    rw [hrun, h'.esm, h.esm, List.filterMap_append, List.append_assoc]
  · exact (h'.order _).trans (h.order s)
  · have hrun : ((do let here ← m; return here ++ (← m') : StateM State (List Tree)).run s).1
        = (m.run s).1 ++ (m'.run (m.run s).2).1 := rfl
    rw [hrun, Tree.rowCodeTexts_append, List.filterMap_append,
      h.code (fun n hn => hjsx n (List.mem_append_left _ hn)),
      h'.code (fun n hn => hjsx n (List.mem_append_right _ hn))]

/-- A node without a value of its own adds nothing. -/
theorem cons (h : Shows ns m) {n : Node} (htext : n.textValue? = none)
    (hesm : n.esmValue? = none) (hcode : n.codeValue? = none) : Shows (n :: ns) m :=
  { ink := fun s => by rw [h.ink, List.filterMap_cons, htext]
    esm := fun s => by rw [h.esm, List.filterMap_cons, hesm]
    order := h.order
    code := fun hjsx s => by
      rw [h.code (fun m hm => hjsx m (List.mem_cons_of_mem _ hm)), List.filterMap_cons, hcode] }

/-- An element around what a conversion shows. -/
theorem element (h : Shows ns m) {name : String} (hname : isCode Tag.defaultPrefix name = false)
    (props : List (String × PropValue)) {n : Node} (htext : n.textValue? = none)
    (hesm : n.esmValue? = none) (hcode : n.codeValue? = none) :
    Shows (n :: ns) (do return [.element name props (← m)]) :=
  (h.map fun ts => Alike.element hname props ts).cons htext hesm hcode

/-- A node that becomes the same trees in every state. -/
theorem leaf {n : Node} {ts : List Tree} (hts : ∀ s, (m.run s).1 = ts)
    (hink : Mdx.ink (Tree.contents ts) = Mdx.ink (n.textValue?.getD ""))
    (hesm : ∀ s, (m.run s).2.esm = s.esm ++ n.esmValue?.toList)
    (horder : ∀ s, (m.run s).2.order = s.order)
    (hcode : Tree.rowCodeTexts Tag.defaultPrefix ts = n.codeValue?.toList) : Shows [n] m := by
  refine ⟨fun s => ?_, fun s => ?_, horder, fun _ s => ?_⟩
  · rw [hts, hink]
    cases h : n.textValue? <;> simp [h]
  · rw [hesm]
    cases h : n.esmValue? <;> simp [h]
  · rw [hts, hcode]
    cases h : n.codeValue? <;> simp [h]

/-- A JSX element or fragment shows what its children show. -/
theorem jsx (h : Shows ns m) {n : Node} (hjsx : n.isJsx = true) (name : Option String)
    (attributes : List Markdown.Attribute) :
    Shows (n :: ns) (do return [← jsx name attributes (← m)]) := by
  have hvalues : n.textValue? = none ∧ n.esmValue? = none := by
    cases n <;> first | exact ⟨rfl, rfl⟩ | simp [Node.isJsx] at hjsx
  refine ⟨fun s => ?_, fun s => ?_, fun s => ?_, fun hnone => ?_⟩
  · rw [List.filterMap_cons, hvalues.1, ← h.ink s]
    cases name with
    | none =>
        show Mdx.ink (Tree.contents [.fragment (m.run s).1]) = _
        simp [Tree.contents, Tree.content]
    | some name =>
        show Mdx.ink (Tree.contents [.element name (jsxProps attributes) (m.run s).1]) = _
        simp [Tree.contents, Tree.content]
  · rw [List.filterMap_cons, hvalues.2, ← h.esm s]
    cases name <;> rfl
  · rw [← h.order s]
    cases name <;> rfl
  · -- With a JSX node among them nothing is said about code.
    rw [hnone n (by simp)] at hjsx
    cases hjsx

end Shows

/-! ## Nodes -/

variable {targets : Dict (String × Option String)}

/-- The nodes refer to targets that are there, and rows and cells stand where they belong. -/
def Fit (targets : Dict (String × Option String)) (ns : List Node) : Prop :=
  ∀ n ∈ ns, n.isResolved (fun id => targets.has id) = true ∧ n.isTabular = true

/-- What conversion is to do with a node. -/
def Converts (targets : Dict (String × Option String)) (n : Node) : Prop :=
  Fit targets n.outside → n.isRow = false → n.isCell = false → Shows n.outside (node targets n)

/-- What conversion is to do with a row of nodes. -/
def ConvertsRow (targets : Dict (String × Option String)) (cs : List Node) : Prop :=
  Fit targets (Node.rowNodes false cs) → (∀ c ∈ cs, c.isRow = false ∧ c.isCell = false) →
    Shows (Node.rowNodes false cs) (row targets cs)

/-- What conversion is to do with the children of a list. -/
def ConvertsItems (targets : Dict (String × Option String)) (cs : List Node) : Prop :=
  Fit targets (Node.rowNodes false cs) → (∀ c ∈ cs, c.isRow = false ∧ c.isCell = false) →
    ∀ loose, Shows (Node.rowNodes false cs) (items targets loose cs)

/-- What conversion is to do with the rows of a table. -/
def ConvertsRows (targets : Dict (String × Option String)) (cs : List Node) : Prop :=
  Fit targets (Node.rowNodes false cs) → (∀ c ∈ cs, c.isRow = true) →
    ∀ align name, isCode Tag.defaultPrefix name = false →
      Shows (Node.rowNodes false cs) (rows targets align name cs)

/-- What conversion is to do with the cells of a row. -/
def ConvertsCells (targets : Dict (String × Option String)) (cs : List Node) : Prop :=
  Fit targets (Node.rowNodes false cs) → (∀ c ∈ cs, c.isCell = true) →
    ∀ align name, isCode Tag.defaultPrefix name = false →
      Shows (Node.rowNodes false cs) (cells targets align name cs)

/-- The fit of a row is that of its first node and of the others. -/
theorem Fit.cons {n : Node} {rest : List Node} (h : Fit targets (Node.rowNodes false (n :: rest))) :
    Fit targets n.outside ∧ Fit targets (Node.rowNodes false rest) :=
  ⟨fun m hm => h m (List.mem_append_left _ hm),
    fun m hm => h m (List.mem_append_right n.outside hm)⟩

/-- The children of a node that is no part of a table are no rows or cells. -/
theorem children_plain {n : Node} (h : n.isTabular = true)
    (htable : ∀ align cs, n ≠ .table align cs) (hrow : n.isRow = false) :
    ∀ c ∈ n.children, c.isRow = false ∧ c.isCell = false := by
  have hall : n.children.all (fun c => !c.isRow && !c.isCell) = true := by
    cases n <;> first | exact h | exact absurd rfl (htable _ _) | cases hrow
  intro c hc
  simpa using List.all_eq_true.mp hall c hc

/-- What the conversion of the children of a node needs. -/
theorem children_ready {n : Node} (hfit : Fit targets n.outside)
    (htable : ∀ align cs, n ≠ .table align cs) (hnote : ∀ id cs, n ≠ .footnoteDefinition id cs)
    (hrow : n.isRow = false) :
    Fit targets (Node.rowNodes false n.children)
      ∧ ∀ c ∈ n.children, c.isRow = false ∧ c.isCell = false := by
  have houtside : n.outside = n :: Node.rowNodes false n.children := by
    cases n <;> first | rfl | exact absurd rfl (hnote _ _)
  rw [houtside] at hfit
  exact ⟨fun m hm => hfit m (List.mem_cons_of_mem _ hm),
    children_plain (hfit n (by simp)).2 htable hrow⟩

theorem eq_tableRow {n : Node} (h : n.isRow = true) : ∃ inner, n = .tableRow inner := by
  cases n <;> first | exact ⟨_, rfl⟩ | cases h

theorem eq_tableCell {n : Node} (h : n.isCell = true) : ∃ inner, n = .tableCell inner := by
  cases n <;> first | exact ⟨_, rfl⟩ | cases h

/-- The tag of a heading does not carry the prefix: after its first letter comes a digit. -/
theorem bare_heading (depth : Nat) :
    Tag.bare Tag.defaultPrefix ("h" ++ toString depth) = "h" ++ toString depth := by
  have hname : ("h" ++ toString depth).toList = 'h' :: Nat.toDigits 10 depth := by
    simp [Nat.repr]
  obtain ⟨c, cs, hcs⟩ := List.exists_cons_of_ne_nil (Nat.toDigits_ne_nil (b := 10) (n := depth))
  have hdigit : c.isDigit = true :=
    Nat.isDigit_of_mem_toDigits (n := depth) (by decide) (by decide) (hcs ▸ List.mem_cons_self)
  have hunmarked : Text.afterPrefix? Tag.defaultPrefix ("h" ++ toString depth) = none := by
    have ht : 't' ≠ c := by
      rintro rfl
      exact absurd hdigit (by decide)
    rw [Text.afterPrefix?, hname, hcs]
    simp [Tag.defaultPrefix, Text.after?, ht]
  rw [Tag.bare, hunmarked, Option.getD_none]

theorem heading_ne {name : String} (h : name.toList.head? ≠ some 'h') (depth : Nat) :
    "h" ++ toString depth ≠ name := by
  rintro rfl
  simp at h

/-- A heading is no code. -/
theorem isCode_heading (depth : Nat) :
    isCode Tag.defaultPrefix ("h" ++ toString depth) = false := by
  rw [isCode, bare_heading, beq_eq_false_iff_ne]
  exact heading_ne (by decide) depth

/-- A node that shows nothing. -/
theorem Shows.silent {n : Node} {m : StateM State (List Tree)} {ts : List Tree}
    (hts : ∀ s, (m.run s).1 = ts) (halike : Alike ts []) (hesm : ∀ s, (m.run s).2.esm = s.esm)
    (horder : ∀ s, (m.run s).2.order = s.order) (htext : n.textValue? = none)
    (hvalue : n.esmValue? = none) (hcode : n.codeValue? = none) : Shows [n] m :=
  .leaf hts (by rw [htext]; exact halike.1) (fun s => by rw [hesm, hvalue]; simp) horder
    (by rw [hcode]; exact halike.2)

/-- The text of code stands in its element as it is. -/
theorem code_shows (value : String) (props : List (String × PropValue)) :
    ink (Tree.contents [.element "code" props [.text value]]) = ink value
      ∧ Tree.rowCodeTexts Tag.defaultPrefix [.element "code" props [.text value]] = [value] := by
  have hcode : isCode Tag.defaultPrefix "code" = true := by decide
  constructor
  · simp [Tree.contents, Tree.content]
  · simp [Tree.rowCodeTexts, Tree.codeTexts, Tree.text?, hcode]

theorem codeBlock_shows (className : Option String) (value : String) :
    ink (Tree.contents [codeBlock className value]) = ink value
      ∧ Tree.rowCodeTexts Tag.defaultPrefix [codeBlock className value]
        = [if value = "" then "" else value ++ "\n"] := by
  have hpre : isCode Tag.defaultPrefix "pre" = false := by decide
  have hfeed : ink "\n" = [] := by decide
  have htext : codeText value = .text (if value = "" then "" else value ++ "\n") := by
    simp [codeText]
  obtain ⟨hink, hcodes⟩ := code_shows (if value = "" then "" else value ++ "\n")
    (className.map fun name => ("className", PropValue.string name)).toList
  rw [codeBlock, htext]
  refine ⟨(Alike.element hpre [] _).ink.trans (hink.trans ?_),
    (Alike.element hpre [] _).code.trans hcodes⟩
  split
  · rename_i hempty
    rw [hempty]
  · rw [ink_append, hfeed, List.append_nil]

theorem node_linkReference (targets : Dict (String × Option String)) (id : String)
    (label : Option String) (kind : Markdown.ReferenceKind) (cs : List Node) :
    node targets (.linkReference id label kind cs) = (do
      let content ← row targets cs
      match targets.get? id with
      | some (url, title) => return [link url title content]
      | none => return .text "[" :: (content ++ [.text ("]" ++ referenceSuffix kind label)])) := rfl

theorem node_imageReference (targets : Dict (String × Option String)) (id : String)
    (label : Option String) (kind : Markdown.ReferenceKind) (alt : String) :
    node targets (.imageReference id label kind alt)
      = match targets.get? id with
        | some (url, title) => return [image url alt title]
        | none => return [.text ("![" ++ alt ++ "]" ++ referenceSuffix kind label)] := rfl

/-- A node is converted to trees that show it, if its children are. -/
theorem node_converts {n : Node} (hrow : ConvertsRow targets n.children)
    (hitems : ConvertsItems targets n.children) (hrows : ConvertsRows targets n.children) :
    Converts targets n := by
  intro hfit hnrow hncell
  have hself := hfit n (by simp [Node.outside])
  have hready := children_ready hfit
  have hrow : (∀ align cs, n ≠ .table align cs) → (∀ id cs, n ≠ .footnoteDefinition id cs) →
      Shows (Node.rowNodes false n.children) (row targets n.children) := fun htable hnote =>
    hrow (hready htable hnote hnrow).1 (hready htable hnote hnrow).2
  cases n with
  | root cs => exact (hrow (by simp) (by simp)).cons rfl rfl rfl
  | paragraph cs | emphasis cs | strong cs | delete cs =>
      exact (hrow (by simp) (by simp)).element (by decide) [] rfl rfl rfl
  | heading depth cs =>
      exact (hrow (by simp) (by simp)).element (isCode_heading depth) [] rfl rfl rfl
  | blockquote cs =>
      exact ((hrow (by simp) (by simp)).map Alike.onLines).element (by decide) [] rfl rfl rfl
  | link url title cs => exact (hrow (by simp) (by simp)).element (by decide) _ rfl rfl rfl
  | linkReference id label kind cs =>
      -- Without its target the brackets of the reference would show as text.
      obtain ⟨⟨url, title⟩, hget⟩ := Option.isSome_iff_exists.mp hself.1
      rw [node_linkReference, hget]
      exact (hrow (by simp) (by simp)).element (by decide) _ rfl rfl rfl
  | listItem spread checked cs =>
      exact ((hrow (by simp) (by simp)).map fun ts =>
        Alike.listItem spread checked ts).cons rfl rfl rfl
  | list ordered start spread cs =>
      obtain ⟨hfit', hplain'⟩ := hready (by simp) (by simp) rfl
      exact ((hitems hfit' hplain' (spread || cs.any isSpreadItem)).map fun ts =>
        Alike.list ordered start (cs.any isTask) ts).cons rfl rfl rfl
  | table align cs =>
      have hfit' : Fit targets (Node.rowNodes false cs) :=
        fun m hm => hfit m (List.mem_cons_of_mem _ hm)
      exact ((hrows hfit' (List.all_eq_true.mp hself.2) align "th" (by decide)).map
        Alike.table).cons rfl rfl rfl
  | tableRow cs => cases hnrow
  | tableCell cs => cases hncell
  | jsxFlow name attributes cs | jsxText name attributes cs =>
      exact (hrow (by simp) (by simp)).jsx rfl name attributes
  | text value | html value =>
      have hink : ink (Tree.contents [.text value]) = ink value := by
        simp [Tree.contents, Tree.content]
      exact .leaf (fun _ => rfl) hink (fun s => (List.append_nil s.esm).symm) (fun _ => rfl) rfl
  | inlineCode value =>
      obtain ⟨hink, hcodes⟩ := code_shows value []
      exact .leaf (fun _ => rfl) hink (fun s => (List.append_nil s.esm).symm) (fun _ => rfl) hcodes
  | inlineMath value =>
      obtain ⟨hink, hcodes⟩ := code_shows value
        [("className", .string "language-math math-inline")]
      exact .leaf (fun _ => rfl) hink (fun s => (List.append_nil s.esm).symm) (fun _ => rfl) hcodes
  | code value lang info =>
      obtain ⟨hink, hcodes⟩ := codeBlock_shows (lang.map ("language-" ++ ·)) value
      exact .leaf (fun _ => rfl) hink (fun s => (List.append_nil s.esm).symm) (fun _ => rfl) hcodes
  | math value =>
      obtain ⟨hink, hcodes⟩ := codeBlock_shows (some "language-math math-display") value
      exact .leaf (fun _ => rfl) hink (fun s => (List.append_nil s.esm).symm) (fun _ => rfl) hcodes
  | esm value => exact .leaf (fun _ => rfl) rfl (fun _ => rfl) (fun _ => rfl) rfl
  | thematicBreak =>
      exact .silent (fun _ => rfl) (Alike.element (by decide) [] []) (fun _ => rfl) (fun _ => rfl)
        rfl rfl rfl
  | lineBreak =>
      exact .silent (fun _ => rfl)
        ((Alike.element (by decide) [] []).append (Alike.newline_cons [])) (fun _ => rfl)
        (fun _ => rfl) rfl rfl rfl
  | image url alt title =>
      exact .silent (fun _ => rfl) (Alike.element (by decide) _ []) (fun _ => rfl) (fun _ => rfl)
        rfl rfl rfl
  | imageReference id label kind alt =>
      obtain ⟨⟨url, title⟩, hget⟩ := Option.isSome_iff_exists.mp hself.1
      rw [node_imageReference, hget]
      exact .silent (fun _ => rfl) (Alike.element (by decide) _ []) (fun _ => rfl) (fun _ => rfl)
        rfl rfl rfl
  | footnoteReference id => cases hself.1
  | flowExpression value | textExpression value | definition id url title
  | footnoteDefinition id cs | yaml value | toml value =>
      exact .silent (fun _ => rfl) (Alike.refl []) (fun _ => rfl) (fun _ => rfl) rfl rfl rfl

theorem walk_converts (targets : Dict (String × Option String)) :
    Walk (Converts targets) (ConvertsRow targets) (ConvertsItems targets) (ConvertsRows targets)
      (ConvertsCells targets) where
  node _ := node_converts
  row_nil _ _ := .nil
  row_cons n rest hn hrest hfit hplain := by
    obtain ⟨⟨hrow, hcell⟩, hplain⟩ := List.forall_mem_cons.mp hplain
    exact (hn hfit.cons.1 hrow hcell).append (hrest hfit.cons.2 hplain)
  items_nil _ _ _ := .nil
  items_item spread checked inner rest hinner hrest hfit hplain loose := by
    obtain ⟨⟨hrow, -⟩, hplain⟩ := List.forall_mem_cons.mp hplain
    obtain ⟨hfit', hplain'⟩ := children_ready hfit.cons.1 (by simp) (by simp) hrow
    -- The item is not converted as a node, but with the looseness of the list.
    have hcontent := (hinner hfit' hplain').map fun ts => Alike.listItem loose checked ts
    exact (hcontent.cons (n := .listItem spread checked inner) rfl rfl rfl).append
      (hrest hfit.cons.2 hplain loose)
  items_other n rest hother hn hrest hfit hplain loose := by
    obtain ⟨⟨hrow, hcell⟩, hplain⟩ := List.forall_mem_cons.mp hplain
    rw [items_cons hother]
    exact (hn hfit.cons.1 hrow hcell).append (hrest hfit.cons.2 hplain loose)
  rows_nil _ _ _ _ _ := .nil
  rows_row inner rest hinner hrest hfit hrows align name hname := by
    have hcells : ∀ c ∈ inner, c.isCell = true :=
      List.all_eq_true.mp (hfit.cons.1 (.tableRow inner) (by simp [Node.outside])).2
    have hcontent := (hinner (fun m hm => hfit.cons.1 m (List.mem_cons_of_mem _ hm)) hcells align
      name hname).map Alike.onLines
    -- The rows after the first are data, so the name of their cells changes.
    have hmore := hrest hfit.cons.2 (List.forall_mem_cons.mp hrows).2 align "td" (by decide)
    exact (hcontent.element (n := .tableRow inner) (by decide) [] rfl rfl rfl).append hmore
  rows_other n rest hother _ _ hrows := by
    obtain ⟨inner, hn⟩ := eq_tableRow (hrows n List.mem_cons_self)
    exact absurd hn (hother inner)
  cells_nil _ _ _ _ _ := .nil
  cells_cell inner rest hinner hrest hfit hcells align name hname := by
    obtain ⟨hfit', hplain'⟩ := children_ready hfit.cons.1 (by simp) (by simp) rfl
    have hmore := hrest hfit.cons.2 (List.forall_mem_cons.mp hcells).2 align.tail name hname
    exact ((hinner hfit' hplain').element (n := .tableCell inner) hname _ rfl rfl rfl).append hmore
  cells_other n rest hother _ _ hcells := by
    obtain ⟨inner, hn⟩ := eq_tableCell (hcells n List.mem_cons_self)
    exact absurd hn (hother inner)

/-- Every node is converted to trees that show it. -/
theorem converts (targets : Dict (String × Option String)) (n : Node) : Converts targets n :=
  (walk_converts targets).node_holds n

/-! ## Definitions -/

/-- A value is set where there is none. -/
theorem get?_insertNew {α : Type} (key id : String) (value : α) (d : Dict α) :
    (insertNew key value d).get? id
      = (d.get? id).or (if key = id then some value else none) := by
  rw [insertNew, Dict.has]
  by_cases hkey : key = id
  · subst hkey
    cases hget : d.get? key with
    | some old => simp [hget]
    | none => simp [Dict.get?_insert_self]
  · rw [if_neg hkey, Option.or_none]
    split
    · rfl
    · exact Dict.get?_insert_ne hkey value d

/-- Definitions are added node by node, in document order. -/
theorem collect_eq_foldl (n : Node) :
    ∀ defs : Definitions, defs.collect n = n.all.foldl Definitions.add defs := by
  induction n using Node.nested with
  | node n ih =>
      intro defs
      have hcollect : defs.collect n = (defs.add n).collectAll n.children := by
        cases n <;> rfl
      rw [hcollect, Node.all_eq, List.foldl_cons]
      generalize defs.add n = defs, n.children = cs at ih ⊢
      induction cs generalizing defs with
      | nil => rfl
      | cons m rest ihrest =>
          obtain ⟨hm, hrest⟩ := List.forall_mem_cons.mp ih
          rw [Node.rowNodes_true_cons, List.foldl_append, ← hm, Definitions.collectAll,
            ihrest _ hrest]

/-- What a node defines is looked up by the rule of `add`: the first definition that was met
counts. -/
theorem look_collect {α : Type} (look : Definitions → Option α) {own : Node → Option α}
    (hadd : ∀ defs n, look (defs.add n) = (look defs).or (own n)) (defs : Definitions) (n : Node) :
    look (defs.collect n) = (look defs).or (n.all.findSome? own) := by
  rw [collect_eq_foldl]
  generalize n.all = ns
  induction ns generalizing defs with
  | nil => exact (Option.or_none).symm
  | cons n ns ih =>
      rw [List.foldl_cons, ih, hadd, Option.or_assoc, List.findSome?_cons]
      cases own n <;> rfl

theorem get?_add (defs : Definitions) (n : Node) (id : String) :
    (defs.add n).targets.get? id = (defs.targets.get? id).or (n.target? id) := by
  cases n with
  | definition identifier url title => exact get?_insertNew identifier id (url, title) _
  | _ => exact (Option.or_none).symm

/-- The targets that are found after collecting are those found before and those defined. -/
theorem has_collect (defs : Definitions) (n : Node) (id : String) :
    (defs.collect n).targets.has id = (defs.targets.has id || n.all.any (Node.defines id)) := by
  rw [Dict.has, look_collect (fun defs => defs.targets.get? id) (fun defs n => get?_add defs n id),
    Option.isSome_or, ← Dict.has, List.isSome_findSome?]
  exact congrArg _ (List.any_congr rfl fun n => n.isSome_target? id)

/-! ## Documents -/

/-- The conversion of a document without its footnotes. -/
def blocks (defs : Definitions) (document : Node) : StateM State (List Tree) :=
  match document with
  | .root cs => joinLines <$> row defs.targets cs
  | other => node defs.targets other

/-- A document is converted as its node is, with its blocks on lines of their own. -/
theorem blocks_cases (defs : Definitions) (document : Node) :
    blocks defs document = (do return joinLines (← node defs.targets document))
      ∨ blocks defs document = node defs.targets document := by
  cases document <;> first | exact .inr rfl | exact .inl rfl

theorem blocks_show {defs : Definitions} {document : Node}
    (h : Shows document.outside (node defs.targets document)) :
    Shows document.outside (blocks defs document) := by
  rcases blocks_cases defs document with hblocks | hblocks <;> rw [hblocks]
  · exact h.map Alike.joinLines
  · exact h

/-- Where no footnote was referenced there is no section for them. -/
theorem endSection_run {s : State} (h : s.order = []) (defs : Definitions) :
    (endSection defs).run s = (none, s) := by
  obtain ⟨order, uses, esm, log⟩ := s
  cases h
  rfl

theorem body_eq (defs : Definitions) (document : Node) :
    body defs document = (do
      let row ← blocks defs document
      match ← endSection defs with
      | some last => return row ++ (if row.isEmpty then [last] else [newline, last])
      | none => return row) := by
  cases document <;> rfl

theorem body_run {defs : Definitions} {document : Node} {s : State}
    (h : ((blocks defs document).run s).2.order = []) :
    (body defs document).run s = (blocks defs document).run s := by
  rw [body_eq, StateT.run_bind]
  show StateT.run (endSection defs >>= _) ((blocks defs document).run s).2 = _
  rw [StateT.run_bind, endSection_run h]
  rfl

end Convert

open Markdown (Node)

/-- The wire tree of a document that went through the built-in passes. -/
def shipped (isLocal : String → Bool) (assets : Wire.AssetMap) (document : Node) : Wire.Node :=
  let pipeline := Pipeline.new Tag.defaultPrefix (Pass.localAssets Tag.defaultPrefix isLocal)
  let root := (pipeline.run (convert document).root).root
  (Wire.lower assets Tag.defaultPrefix root none).document.tree

/-- A regular document fits the targets that are collected from it. -/
theorem fit_of_regular {document : Node} (h : document.Regular) :
    Convert.Fit (Convert.Definitions.collect {} document).targets document.outside := by
  intro n hn
  refine ⟨?_, h.tables n hn⟩
  have hresolved := h.references n hn
  have hfound : ∀ id, document.all.any (Node.defines id) = true →
      (Convert.Definitions.collect {} document).targets.has id = true :=
    fun id hdefined => by rw [Convert.has_collect, hdefined, Bool.or_true]
  cases n <;> first | exact hfound _ hresolved | exact hresolved

/-- Without references to footnotes, a document is converted to its blocks alone. -/
theorem convert_eq {document : Node} (h : document.Regular) :
    ∃ blocks : StateM Convert.State (List Tree), Convert.Shows document.outside blocks
      ∧ (convert document).root.toTree = .element "div" [] (blocks.run {}).1
      ∧ (convert document).esm = (blocks.run {}).2.esm := by
  have hblocks := Convert.blocks_show (Convert.converts _ document (fit_of_regular h) h.block.1
    h.block.2)
  have hbody := Convert.body_run (hblocks.order {})
  refine ⟨_, hblocks, ?_, ?_⟩
  · rw [← hbody]
    rfl
  · rw [← hbody]
    rfl

/-- From a document to its wire tree no text is lost, repeated or moved, white space apart; host
statements are kept as they are, and without JSX so is code, its white space included. -/
theorem convert_keepsContent (document : Node) (h : document.Regular) (isLocal : String → Bool)
    (assets : Wire.AssetMap) :
    ink (shipped isLocal assets document).content
        = ink (String.join (document.outside.filterMap Node.textValue?))
      ∧ (convert document).esm = document.outside.filterMap Node.esmValue?
      ∧ ((∀ n ∈ document.outside, n.isJsx = false) →
        (shipped isLocal assets document).codeTexts Tag.defaultPrefix
          = document.outside.filterMap Node.codeValue?) := by
  obtain ⟨blocks, hshows, hroot, hesm⟩ := convert_eq h
  obtain ⟨hpassInk, hpassCode⟩ :=
    Pipeline.run_shows Tag.defaultPrefix isLocal (convert document).root
  obtain ⟨hlowerInk, hlowerCode⟩ := Wire.lowerTree_shows assets
    (show isCode Tag.defaultPrefix fragmentName = false by decide)
    ((Pipeline.new Tag.defaultPrefix (Pass.localAssets Tag.defaultPrefix isLocal)).run
      (convert document).root).root.toTree false
  -- Each stage keeps both views, from the wire tree back to the list of nodes.
  refine ⟨?_, ?_, fun hjsx => ?_⟩
  · calc ink (shipped isLocal assets document).content
        = ink (convert document).root.toTree.content := hlowerInk.trans hpassInk
      _ = ink (Tree.contents (blocks.run {}).1) := by rw [hroot, Tree.content]
      _ = ink (String.join (document.outside.filterMap Node.textValue?)) := hshows.ink {}
  · rw [hesm, hshows.esm]
    rfl
  · calc (shipped isLocal assets document).codeTexts Tag.defaultPrefix
        = (convert document).root.toTree.codeTexts Tag.defaultPrefix := hlowerCode.trans hpassCode
      _ = Tree.rowCodeTexts Tag.defaultPrefix (blocks.run {}).1 := by
          rw [hroot, Tree.codeTexts, if_neg (by decide), List.nil_append]
      _ = document.outside.filterMap Node.codeValue? := hshows.code hjsx {}

/-- A document with code that is white space or empty, a task, a table, and a target that is defined
inside a footnote. -/
def mixedDocument : Node :=
  .root
    [ .esm "import A from \"a\"",
      .heading 2 [.text "A ", .emphasis [.text "b"]],
      .list false none false
        [ .listItem false (some true)
            [.paragraph [.text "c", .inlineCode "  "], .code "\n" none none],
          .listItem false none [.paragraph [.linkReference "x" none .full [.text "d"]]] ],
      .table [.left]
        [.tableRow [.tableCell [.text "e"]], .tableRow [.tableCell [.inlineMath "f"]]],
      .blockquote [.math "", .html "<g>"],
      .footnoteDefinition "n"
        [.paragraph [.text "h", .footnoteReference "n"], .definition "x" "/x" none] ]

theorem convert_keepsContent_mixed :
    mixedDocument.Regular ∧ (∀ n ∈ mixedDocument.outside, n.isJsx = false)
      ∧ ink (shipped (fun _ => true) (fun _ => none) mixedDocument).content = "Abcdef<g>".toList
      ∧ (convert mixedDocument).esm = ["import A from \"a\""]
      ∧ (shipped (fun _ => true) (fun _ => none) mixedDocument).codeTexts Tag.defaultPrefix
        = ["  ", "\n\n", "f", ""] := by
  have hregular : mixedDocument.Regular := ⟨by decide, by decide, by decide⟩
  have hjsx : ∀ n ∈ mixedDocument.outside, n.isJsx = false := by decide
  obtain ⟨hink, hesm, hcode⟩ :=
    convert_keepsContent mixedDocument hregular (fun _ => true) (fun _ => none)
  refine ⟨hregular, hjsx, hink.trans ?_, hesm.trans ?_, (hcode hjsx).trans ?_⟩
  · decide
  · decide
  · decide

end Mdx
