import Mathlib.Data.List.Forall2
import Mdx.Proofs.Module.Host
import Mdx.Proofs.Module.Structure

/-!
# Object literals

The call for an element passes an object literal: the attributes of the element, then fields that
describe its position, then its children. The literal is written (`Field.chars`) and evaluated
(`evaluate`), where a later field replaces an earlier one with the same key. The main statement is
`text_passesAttributes`: of the literals that stand in the text of a module, that of an element
gives an attribute the value of its own expression unless the attribute is named like a field of the
position, in which case it gives the position; and the value is that on the wire exactly if it is
portable. `text_replacesIndex` has an element with an attribute that is named like a field.
-/

namespace Mdx

/-- The value on the wire of a literal or an expression, which is kept as its source. -/
def PropValue.json? : PropValue → Option Json
  | .literal value => some value
  | .expression source => some (.str source)
  | .localAsset _ => none

namespace Wire.Node

mutual

/-- The names and props of the elements of a wire document, parents first. -/
def elements : Node → List (String × Dict Json)
  | .text _ => []
  | .element name props children => (name, props) :: rowElements children

/-- The names and props of the elements of a row of wire nodes. -/
def rowElements : List Node → List (String × Dict Json)
  | [] => []
  | n :: rest => elements n ++ rowElements rest

end

end Wire.Node

namespace Module

/-! ## Fields -/

/-- What stands after the key of a field. -/
inductive Source where
  | prop (value : PropValue)
  | components
  | number (n : Nat)
  | truth (b : Bool)
  | name (s : String)
  | children (row : List Expr)

/-- A field of an object literal. The keys of attributes are quoted, those of other fields not. -/
structure Field where
  key : String
  quoted : Bool
  source : Source

/-- The text of children: one stands alone, several are an array. -/
def rowSource : List Expr → List Char
  | [child] => child.chars
  | row => '[' :: (commaSeparated (Expr.rowChars row) ++ [']'])

def Source.chars : Source → List Char
  | .prop value => propChars value
  | .components => "components".toList
  | .number n => Nat.toDigits 10 n
  | .truth b => boolChars b
  | .name s => Json.quote s
  | .children row => rowSource row

def Field.chars (field : Field) : List Char :=
  entry (if field.quoted then Json.quote field.key else field.key.toList) field.source.chars

/-- The text of an object literal. -/
def literalChars (fields : List Field) : List Char :=
  '\x7b' :: (commaSeparated (fields.map Field.chars) ++ ['\x7d'])

/-- The fields for the attributes of an element. -/
def attributeFields (props : List (String × PropValue)) : List Field :=
  props.map fun (key, value) => ⟨key, true, .prop value⟩

/-- The fields that describe a position. -/
def positionFields (order : Order) : List Field :=
  [ ⟨"components", false, .components⟩,
    ⟨"index", false, .number order.index⟩,
    ⟨"firstChild", false, .truth order.firstChild⟩,
    ⟨"lastChild", false, .truth order.lastChild⟩,
    ⟨"firstOfType", false, .truth order.firstOfType⟩,
    ⟨"prevSiblingName", false, .name order.prevSiblingName⟩ ]

/-- The field for children. -/
def childrenFields (children : List Expr) : List Field :=
  if children.isEmpty then [] else [⟨"children", false, .children children⟩]

/-- The fields of a call. -/
def fields (props : List (String × PropValue)) (order : Option Order) (children : List Expr) :
    List Field :=
  attributeFields props ++ (order.map positionFields).getD [] ++ childrenFields children

theorem chars_childrenFields (children : List Expr) :
    (childrenFields children).map Field.chars = childrenEntry (Expr.rowChars children) := by
  match children with
  | [] => rfl
  | [child] => rfl
  | first :: second :: more => rfl

/-- A call is written with the literal of its fields. -/
theorem Expr.chars_fields (reference : Reference) (props : List (String × PropValue))
    (order : Option Order) (children : List Expr) :
    Expr.chars (.call reference props order children)
      = callee children ++ reference.chars ++ ',' :: ' '
        :: (literalChars (fields props order children) ++ [')']) := by
  have hattributes : (attributeFields props).map Field.chars
      = props.map fun (key, value) => entry (Json.quote key) (propChars value) := by
    rw [attributeFields, List.map_map]
    rfl
  have hposition : ((order.map positionFields).getD []).map Field.chars
      = (order.map orderEntries).getD [] := by
    cases order <;> rfl
  rw [Expr.chars_call, literalChars, fields, List.map_append, List.map_append, hattributes,
    hposition, chars_childrenFields]
  simp

/-! ## Literals of a module -/

mutual

/-- The literals of the elements in an expression, parents first. -/
def Expr.literals : Expr → List (List Field)
  | .text _ => []
  | .call _ props (some order) children =>
    fields props (some order) children :: Expr.rowLiterals children
  | .call _ _ none children => Expr.rowLiterals children

/-- The literals of the elements in a row of expressions. -/
def Expr.rowLiterals : List Expr → List (List Field)
  | [] => []
  | e :: rest => Expr.literals e ++ Expr.rowLiterals rest

end

theorem infix_commaSeparated {t : List Char} {ts : List (List Char)} (h : t ∈ ts) :
    t <:+: commaSeparated ts := by
  induction ts with
  | nil => cases h
  | cons u us ih =>
      by_cases hus : us = []
      · subst hus
        rw [List.mem_singleton.mp h]
        exact List.infix_rfl
      · rw [commaSeparated_cons u hus]
        rcases List.mem_cons.mp h with rfl | h
        · exact (List.prefix_append _ _).isInfix
        · have htail : commaSeparated us <:+ u ++ ',' :: ' ' :: commaSeparated us :=
            ⟨u ++ [',', ' '], by simp⟩
          exact (ih h).trans htail.isInfix

/-- What is written for a child stands in what is written for the children. -/
theorem infix_rowSource {e : Expr} {children : List Expr} (h : e ∈ children) :
    e.chars <:+: rowSource children := by
  match children with
  | [] => cases h
  | [child] =>
      rw [List.mem_singleton.mp h]
      exact List.infix_rfl
  | first :: second :: more =>
      have hmem : e.chars ∈ Expr.rowChars (first :: second :: more) := by
        rw [Expr.rowChars_eq_map]
        exact List.mem_map_of_mem h
      have hrow := infix_commaSeparated hmem
      exact hrow.trans ⟨['['], [']'], by simp [rowSource]⟩

theorem infix_literalChars {field : Field} {fs : List Field} (h : field ∈ fs) :
    field.source.chars <:+: literalChars fs := by
  have hsource : field.source.chars <:+ field.chars :=
    ⟨(if field.quoted then Json.quote field.key else field.key.toList) ++ [':', ' '],
      by simp [Field.chars, entry]⟩
  have hfields : commaSeparated (fs.map Field.chars) <:+: literalChars fs :=
    ⟨['\x7b'], ['\x7d'], by simp [literalChars]⟩
  exact hsource.isInfix.trans ((infix_commaSeparated (List.mem_map_of_mem h)).trans hfields)

/-- A child stands in the literal of its parent. -/
theorem infix_fields {e : Expr} {children : List Expr} (h : e ∈ children)
    (props : List (String × PropValue)) (order : Option Order) :
    e.chars <:+: literalChars (fields props order children) := by
  have hfield : ⟨"children", false, .children children⟩ ∈ fields props order children := by
    have hne : children.isEmpty = false := by
      cases children with
      | nil => cases h
      | cons first rest => rfl
    simp [fields, childrenFields, hne]
  exact (infix_rowSource h).trans (infix_literalChars hfield)

theorem infix_call (reference : Reference) (props : List (String × PropValue))
    (order : Option Order) (children : List Expr) :
    literalChars (fields props order children)
      <:+: Expr.chars (.call reference props order children) := by
  rw [Expr.chars_fields]
  exact ⟨callee children ++ reference.chars ++ [',', ' '], [')'], by simp⟩

mutual

/-- The literals of an expression stand in its text. -/
theorem Expr.infix_literals (e : Expr) : ∀ fs ∈ e.literals, literalChars fs <:+: e.chars := by
  cases e with
  | text value =>
      intro fs hfs
      cases hfs
  | call reference props order children =>
      have hcall := infix_call reference props order children
      have hrow : ∀ fs ∈ Expr.rowLiterals children,
          literalChars fs <:+: Expr.chars (.call reference props order children) := by
        intro fs hfs
        obtain ⟨e, he, hinside⟩ := Expr.infix_rowLiterals children fs hfs
        exact hinside.trans ((infix_fields he props order).trans hcall)
      intro fs hfs
      cases order with
      | none => exact hrow fs hfs
      | some order =>
          rcases List.mem_cons.mp hfs with rfl | hfs
          · exact hcall
          · exact hrow fs hfs
termination_by sizeOf e

theorem Expr.infix_rowLiterals (row : List Expr) :
    ∀ fs ∈ Expr.rowLiterals row, ∃ e ∈ row, literalChars fs <:+: e.chars := by
  cases row with
  | nil =>
      intro fs hfs
      cases hfs
  | cons first rest =>
      intro fs hfs
      rcases List.mem_append.mp hfs with hfs | hfs
      · exact ⟨first, by simp, Expr.infix_literals first fs hfs⟩
      · obtain ⟨e, he, hinside⟩ := Expr.infix_rowLiterals rest fs hfs
        exact ⟨e, List.mem_cons_of_mem _ he, hinside⟩
termination_by sizeOf row

end

/-! ## Evaluation -/

/-- What a field is set to. -/
def Source.value : Source → Value
  | .prop (.literal value) => .ofLiteral value
  | .prop (.expression source) => .str source
  | .prop (.localAsset path) => .asset path
  | .components => .components
  | .number n => .num (.int (nearest n))
  | .truth b => .bool b
  | .name s => .str s
  | .children row => .children row

/-- The key of a field and its value. -/
def Field.evaluated (field : Field) : String × Value :=
  (field.key, field.source.value)

/-- The properties of the object that a literal evaluates to. -/
def evaluate (fs : List Field) : Dict Value :=
  properties (fs.map Field.evaluated)

/-- Later fields with other keys do not matter. -/
theorem get?_evaluate_append {fs gs : List Field} {key : String}
    (h : ∀ field ∈ gs, field.key ≠ key) :
    (evaluate (fs ++ gs)).get? key = (evaluate fs).get? key := by
  rw [evaluate, properties, List.map_append, List.foldl_append]
  refine get?_foldl_define_ne (fun entry hentry => ?_) _
  obtain ⟨field, hfield, rfl⟩ := List.mem_map.mp hentry
  exact .inl (h field hfield)

/-- A field that no later one replaces has its own value. -/
theorem get?_evaluate_last (fs : List Field) {gs : List Field} {field : Field}
    (hmem : field ∈ gs) (hkeys : (gs.map Field.key).Nodup) (hkey : field.key ≠ prototypeKey) :
    (evaluate (fs ++ gs)).get? field.key = some field.source.value := by
  rw [evaluate, properties, List.map_append, List.foldl_append]
  refine get?_foldl_define (List.mem_map.mpr ⟨field, hmem, rfl⟩) ?_ hkey _
  rw [Dict.keys, List.map_map]
  exact hkeys

/-! ## Attributes -/

/-- The keys of the fields that describe a position. -/
def positionKeys : List String :=
  ["components", "index", "firstChild", "lastChild", "firstOfType", "prevSiblingName"]

theorem key_positionFields (order : Order) :
    (positionFields order).map Field.key = positionKeys := rfl

theorem key_of_mem_childrenFields {children : List Expr} {field : Field}
    (h : field ∈ childrenFields children) : field.key = "children" := by
  rw [childrenFields] at h
  split at h
  · cases h
  · rw [List.mem_singleton.mp h]

/-- The keys of the last fields: those of the position and of children. -/
theorem key_of_mem_rest {order : Order} {children : List Expr} {field : Field}
    (h : field ∈ positionFields order ++ childrenFields children) :
    field.key ∈ positionKeys ∨ field.key = "children" := by
  rcases List.mem_append.mp h with h | h
  · exact .inl (key_positionFields order ▸ List.mem_map_of_mem h)
  · exact .inr (key_of_mem_childrenFields h)

section

variable {props : List (String × PropValue)} {key : String} {value : PropValue}

/-- An attribute with a name of its own is passed. -/
theorem evaluate_kept (hsorted : Dict.Sorted props) (hmem : (key, value) ∈ props)
    (hkey : key ∉ "children" :: prototypeKey :: positionKeys) (order : Order)
    (children : List Expr) :
    (evaluate (fields props (some order) children)).get? key = some (Source.prop value).value := by
  simp only [List.mem_cons, not_or] at hkey
  obtain ⟨hchildren, hprototype, hposition⟩ := hkey
  have hrest : ∀ field ∈ positionFields order ++ childrenFields children, field.key ≠ key := by
    rintro field hfield rfl
    rcases key_of_mem_rest hfield with hfield | hfield
    · exact hposition hfield
    · exact hchildren hfield
  have hkeys : ((attributeFields props).map Field.key).Nodup := by
    rw [attributeFields, List.map_map]
    exact hsorted.nodup_keys
  have hfield : ⟨key, true, .prop value⟩ ∈ attributeFields props :=
    List.mem_map.mpr ⟨(key, value), hmem, rfl⟩
  rw [fields, List.append_assoc]
  exact (get?_evaluate_append hrest).trans (get?_evaluate_last [] hfield hkeys hprototype)

/-- A field of the position replaces an attribute with its name. -/
theorem evaluate_position {order : Order} {field : Field} (hfield : field ∈ positionFields order)
    (children : List Expr) :
    (evaluate (fields props (some order) children)).get? field.key = some field.source.value := by
  have hmem : field.key ∈ positionKeys := key_positionFields order ▸ List.mem_map_of_mem hfield
  have hrest : ∀ other ∈ childrenFields children, other.key ≠ field.key := by
    intro other hother hsame
    rw [← hsame, key_of_mem_childrenFields hother] at hmem
    exact absurd hmem (by decide)
  have hprototype : field.key ≠ prototypeKey := by
    intro hsame
    rw [hsame] at hmem
    exact absurd hmem (by decide)
  have hkeys : ((positionFields order).map Field.key).Nodup := by
    rw [key_positionFields]
    decide
  rw [fields]
  exact (get?_evaluate_append hrest).trans (get?_evaluate_last _ hfield hkeys hprototype)

theorem evaluate_prototype (fs : List Field) : (evaluate fs).get? prototypeKey = none :=
  get?_properties_prototype _

/-- On the wire every attribute has its own value. -/
theorem get?_lowerProps (assets : Wire.AssetMap) (hsorted : Dict.Sorted props)
    (hmem : (key, value) ∈ props) :
    (Wire.lowerProps assets props).get? key = Wire.propValue? assets value := by
  induction props with
  | nil => cases hmem
  | cons first rest ih =>
      obtain ⟨k, v⟩ := first
      obtain ⟨hfirst, hrest⟩ := List.pairwise_cons.mp hsorted
      have hlower : Wire.lowerProps assets ((k, v) :: rest)
          = ((Wire.propValue? assets v).map fun j => (k, j)).toList
            ++ Wire.lowerProps assets rest := by
        cases hv : Wire.propValue? assets v <;> simp [Wire.lowerProps, hv]
      rw [hlower]
      rcases List.mem_cons.mp hmem with heq | hmem
      · obtain ⟨rfl, rfl⟩ := Prod.mk.inj heq
        cases Wire.propValue? assets value with
        | some j => simp [Dict.get?]
        | none =>
            -- The keys that are left come after this one.
            refine Dict.get?_eq_none_of_lt fun k hk => hfirst k ?_
            obtain ⟨entry, hentry, rfl⟩ := List.mem_map.mp hk
            obtain ⟨prop, hprop, hsome⟩ := List.mem_filterMap.mp hentry
            obtain ⟨j, -, rfl⟩ := Option.map_eq_some_iff.mp hsome
            exact List.mem_map_of_mem hprop
      · have hlt : k < key := hfirst key (List.mem_map.mpr ⟨(key, value), hmem, rfl⟩)
        have hne : ¬ k = key := fun heq => String.lt_irrefl key (heq ▸ hlt)
        rw [← ih hrest hmem]
        cases Wire.propValue? assets v with
        | some j => simp [Dict.get?, hne]
        | none => rfl

end

/-- What the literal of an element and the wire give for its attributes. -/
structure Passes (assets : Wire.AssetMap) (e : Element) (fs : List Field) : Prop where
  /-- Attributes have the values of their own expressions unless they are named like a field of
  another kind. -/
  kept : ∀ key value, (key, value) ∈ e.props →
    key ∉ "children" :: prototypeKey :: positionKeys →
      (evaluate fs).get? key = some (Source.prop value).value
  /-- A name of a field of the position stands for the position, whatever the attribute. -/
  replaced : ∃ order : Order, ∀ field ∈ positionFields order,
    (evaluate fs).get? field.key = some field.source.value
  hidden : (evaluate fs).get? prototypeKey = none
  /-- On the wire, attributes have their own values whatever their names. -/
  wire : ∀ key value json, (key, value) ∈ e.props → value.json? = some json →
    (Wire.lowerProps assets e.props).get? key = some json
  /-- The values that are kept are those on the wire exactly if they are portable. -/
  agrees : ∀ key value json, (key, value) ∈ e.props →
    key ∉ "children" :: prototypeKey :: positionKeys → value.json? = some json → json.Ordered →
      ((evaluate fs).get? key = ((Wire.lowerProps assets e.props).get? key).map Value.ofJson
        ↔ Portable json)

theorem value_eq_ofJson_iff {value : PropValue} {json : Json} (hjson : value.json? = some json)
    (hordered : json.Ordered) : (Source.prop value).value = .ofJson json ↔ Portable json := by
  cases value with
  | literal v =>
      cases hjson
      exact Value.ofLiteral_eq_iff hordered
  | expression source =>
      cases hjson
      exact ⟨fun _ => trivial, fun _ => rfl⟩
  | localAsset path => cases hjson

theorem passes_fields (assets : Wire.AssetMap) {e : Element} (h : Dict.Sorted e.props)
    (order : Order) (children : List Expr) :
    Passes assets e (fields e.props (some order) children) := by
  have hwire : ∀ key value json, (key, value) ∈ e.props → value.json? = some json →
      (Wire.lowerProps assets e.props).get? key = some json := by
    intro key value json hmem hjson
    rw [get?_lowerProps assets h hmem, ← hjson]
    cases value with
    | literal v => rfl
    | expression source => rfl
    | localAsset path => cases hjson
  refine
    { kept := fun _ _ hmem hkey => evaluate_kept h hmem hkey order children
      replaced := ⟨order, fun _ hfield => evaluate_position hfield children⟩
      hidden := evaluate_prototype _
      wire := hwire
      agrees := fun key value json hmem hkey hjson hordered => ?_ }
  rw [evaluate_kept h hmem hkey, hwire key value json hmem hjson, Option.map_some,
    Option.some.injEq, value_eq_ofJson_iff hjson hordered]

/-! ## Modules -/

theorem elements_of_skips {preformatted : Bool} {t : Tree}
    (h : Rendered.skips preformatted t = true) : t.elements = [] := by
  cases t with
  | text value => rfl
  | element name props cs => simp [Rendered.skips, Rendered.isLayout] at h
  | fragment cs => simp [Rendered.skips, Rendered.isLayout] at h

/-- The literals of a row are those of its elements, if that is so for its trees. -/
theorem rowLiterals_ofRow {mark : String} {bound : List String} {preformatted : Bool}
    {related : Element → List Field → Prop} {cs : List Tree}
    (h : ∀ t ∈ cs, ∀ order, List.Forall₂ related t.elements
      (ofTree mark bound preformatted order t).literals) (orders : List Order) :
    List.Forall₂ related (Tree.rowElements cs)
      (Expr.rowLiterals (ofRow mark bound preformatted orders cs)) := by
  induction cs generalizing orders with
  | nil => exact .nil
  | cons t ts ih =>
      have hts := ih fun t ht => h t (List.mem_cons_of_mem _ ht)
      rw [ofRow, Tree.rowElements]
      split
      · rename_i hskip
        rw [elements_of_skips hskip]
        exact hts orders
      · exact List.rel_append (h t List.mem_cons_self _) (hts _)

/-- An expression has a literal for every element of its tree, in the same order. -/
theorem literals_ofTree (assets : Wire.AssetMap) (mark : String) (bound : List String) (t : Tree)
    (h : ∀ e ∈ t.elements, Dict.Sorted e.props) :
    ∀ preformatted order, List.Forall₂ (Passes assets) t.elements
      (ofTree mark bound preformatted order t).literals := by
  induction t using Tree.nested with
  | text value => exact fun _ _ => .nil
  | element name props cs ih =>
      rw [Tree.elements, Tree.rowElements_eq_flatMap] at h
      obtain ⟨hself, hbelow⟩ := List.forall_mem_cons.mp h
      intro preformatted order
      refine .cons (passes_fields assets hself order _) (rowLiterals_ofRow (fun t ht order => ?_) _)
      exact ih t ht (fun e he => hbelow e (List.mem_flatMap.mpr ⟨t, ht, he⟩)) _ order
  | fragment cs ih =>
      rw [Tree.elements, Tree.rowElements_eq_flatMap] at h
      intro preformatted order
      refine rowLiterals_ofRow (fun t ht order => ?_) _
      exact ih t ht (fun e he => h e (List.mem_flatMap.mpr ⟨t, ht, he⟩)) _ order

theorem sublist_lowerRow {assets : Wire.AssetMap} {mark : String} {preformatted : Bool}
    {lowered : Element → String × Dict Json} {cs : List Tree}
    (h : ∀ t ∈ cs, (t.elements.map lowered).Sublist
      (Wire.lowerTree assets mark preformatted t).elements) :
    ((Tree.rowElements cs).map lowered).Sublist
      (Wire.Node.rowElements (Wire.lowerRow assets mark preformatted cs)) := by
  induction cs with
  | nil => exact .slnil
  | cons t ts ih =>
      have hts := ih fun t ht => h t (List.mem_cons_of_mem _ ht)
      rw [Wire.lowerRow, Tree.rowElements, List.map_append]
      split
      · rename_i hskip
        rw [elements_of_skips hskip]
        exact hts
      · exact (h t List.mem_cons_self).append hts

/-- The wire document of a tree has all its elements, in the same order, beside those for its
fragments. -/
theorem sublist_lowerTree (assets : Wire.AssetMap) (mark : String) (t : Tree) :
    ∀ preformatted, (t.elements.map fun e => (e.name, Wire.lowerProps assets e.props)).Sublist
      (Wire.lowerTree assets mark preformatted t).elements := by
  induction t using Tree.nested with
  | text value => exact fun _ => .slnil
  | element name props cs ih =>
      intro preformatted
      exact (sublist_lowerRow fun t ht => ih t ht _).cons_cons _
  | fragment cs ih =>
      intro preformatted
      exact (sublist_lowerRow fun t ht => ih t ht _).cons _

/-- The literals that a module has for the elements of its tree. -/
def literals (options : Options) (root : Element) (esm : List String) : List (List Field) :=
  (ofTree options.tagPrefix (bindings esm) false .alone root.toTree).literals

theorem infix_text {options : Options} {root : Element} {esm : List String} {fs : List Field}
    (h : fs ∈ literals options root esm) (frontmatter : Option (Dict Json)) :
    literalChars fs <:+: (text options root frontmatter esm).toList := by
  have hexpr := Expr.infix_literals _ fs h
  rw [text_eq, String.toList_append, String.toList_append, String.toList_ofList]
  exact hexpr.trans ⟨_, _, List.append_assoc _ _ _⟩

/-- A module has a literal in its text for every element of its tree, in the same order. It gives
each attribute the value of its own expression, which is that on the wire exactly if it is portable,
unless the attribute is named like a field of the position: then it gives the position. -/
theorem text_passesAttributes (options : Options) (root : Element)
    (frontmatter : Option (Dict Json)) (esm : List String) (assets : Wire.AssetMap)
    (h : ∀ e ∈ root.elements, Dict.Sorted e.props) :
    List.Forall₂ (Passes assets) root.elements (literals options root esm)
      ∧ (∀ fs ∈ literals options root esm,
          literalChars fs <:+: (text options root frontmatter esm).toList)
      ∧ (root.elements.map fun e => (e.name, Wire.lowerProps assets e.props)).Sublist
          (Wire.lower assets options.tagPrefix root frontmatter).document.tree.elements :=
  ⟨literals_ofTree assets _ _ root.toTree h false .alone, fun _ hfs => infix_text hfs frontmatter,
    sublist_lowerTree assets _ root.toTree false⟩

/-- A literal that is not portable. -/
def prototypeData : Json :=
  .obj [(prototypeKey, .ofNat 1), ("a", .ofNat 2)]

/-- An element with attributes of every kind, one of them named as a field of the position is. -/
def chart : Element :=
  { name := "Chart"
    props :=
      [ ("data", .literal prototypeData), ("index", .literal (.ofNat 5)),
        ("scale", .expression "2 ** n"), ("title", .literal (.str "a")),
        ("url", .localAsset "./b.png") ]
    children := [.text "c"] }

def chartRoot : Element :=
  { name := "html.div", children := [.fragment [chart.toTree]] }

theorem text_passesAttributes_chart :
    (∀ e ∈ chartRoot.elements, Dict.Sorted e.props)
      ∧ ∃ outer inner : List Field, literals {} chartRoot [] = [outer, inner]
        ∧ literalChars inner <:+: (text {} chartRoot none []).toList
        ∧ (evaluate inner).get? "scale" = some (.str "2 ** n")
        ∧ (evaluate inner).get? "url" = some (.asset "./b.png")
        ∧ (evaluate inner).get? "data" = some (.obj none [("a", .num (.int 2))])
        ∧ (evaluate inner).get? "data"
          ≠ ((Wire.lowerProps (fun _ => none) chart.props).get? "data").map Value.ofJson := by
  have helements : chartRoot.elements = [chartRoot, chart] := rfl
  have hsorted : ∀ e ∈ chartRoot.elements, Dict.Sorted e.props := by
    rw [helements]
    simp only [List.mem_cons, List.not_mem_nil, or_false, forall_eq_or_imp, forall_eq]
    exact ⟨by decide, by decide⟩
  obtain ⟨hall, htext, -⟩ :=
    text_passesAttributes {} chartRoot none [] (fun _ => none) hsorted
  rw [helements] at hall
  obtain ⟨outer, rest, -, hrest, hliterals⟩ := List.forall₂_cons_left_iff.mp hall
  obtain ⟨inner, rest, hinner, hnil, rfl⟩ := List.forall₂_cons_left_iff.mp hrest
  rw [List.forall₂_nil_left_iff.mp hnil] at hliterals
  have hdata : ("data", .literal prototypeData) ∈ chart.props := by simp [chart]
  have hordered : prototypeData.Ordered := by
    rw [prototypeData, Json.ordered_obj]
    exact ⟨by decide, by simp [Json.Ordered, Json.Everywhere, Json.ofNat]⟩
  have hfield : ¬ Portable prototypeData := fun h => ((portable_obj _).mp h).1 (by decide)
  refine ⟨hsorted, outer, inner, hliterals, htext inner (by simp [hliterals]), ?_, ?_, ?_, ?_⟩
  · exact hinner.kept "scale" (.expression "2 ** n") (by simp [chart]) (by decide)
  · exact hinner.kept "url" (.localAsset "./b.png") (by simp [chart]) (by decide)
  · exact hinner.kept "data" (.literal prototypeData) hdata (by decide)
  · exact fun h => hfield ((hinner.agrees "data" _ _ hdata (by decide) rfl hordered).mp h)

/-- An element with an attribute that is named like the index of its position. -/
def numberedChart : Element :=
  { name := "Chart", props := [("index", .literal (.ofNat 5))] }

/-- The element is the first of its siblings, and the literal has the index in place of the
attribute. -/
theorem text_replacesIndex :
    ∃ fs : List Field, literals {} numberedChart [] = [fs]
      ∧ literalChars fs <:+: (text {} numberedChart none []).toList
      ∧ (evaluate fs).get? "index" = some (.num (.int 0))
      ∧ (Wire.lowerProps (fun _ => none) numberedChart.props).get? "index"
        = some (.ofNat 5) := by
  have hliterals : literals {} numberedChart []
      = [fields numberedChart.props (some .alone) []] := rfl
  have hindex : ⟨"index", false, .number 0⟩ ∈ positionFields .alone := by
    simp [positionFields, Order.alone]
  exact ⟨_, hliterals, infix_text (by simp [hliterals]) none, evaluate_position hindex [], rfl⟩

end Module

end Mdx
