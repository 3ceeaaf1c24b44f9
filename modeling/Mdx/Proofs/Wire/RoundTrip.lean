import Mdx.Proofs.Json.Depth
import Mdx.Proofs.Tree
import Mdx.Remote

/-!
# Wire documents through their texts

The text of a document is the text of a JSON value, so the laws of JSON texts apply to it. It is
read in two ways: straight from its spelling, and through the value it means, whose keys have
another order. Both give the document back as long as the text nests no deeper than readers allow,
and beyond that both refuse it.
-/

namespace Mdx.Wire

open Json (Spelling)
open Json.Spelling (ofJson)

namespace Node

/-! ## The value of a document -/

mutual

/-- The value whose text is the text of the node. -/
def json : Node → Json
  | .text value => .obj [("type", .str "text"), ("value", .str value)]
  | .element name props cs =>
    .obj ([("type", .str "element"), ("name", .str name)]
      ++ (if props.isEmpty then [] else [("props", .obj props)])
      ++ (if cs.isEmpty then [] else [("children", .arr (rowJson cs))]))

/-- The values of a row of nodes. -/
def rowJson : List Node → List Json
  | [] => []
  | n :: rest => json n :: rowJson rest

end

theorem rowJson_eq_map (row : List Node) : rowJson row = row.map json := by
  induction row with
  | nil => rfl
  | cons n rest ih => rw [rowJson, ih, List.map_cons]

theorem braces_fields (fields : List (String × Json)) :
    braces (fields.map fun (key, v) => field key v.chars) = Json.chars (.obj fields) := by
  have hfields : ∀ (x : String × Json) (xs : List (String × Json)),
      Json.fieldChars (x :: xs)
        = field x.1 x.2.chars ++ (xs.map fun (key, v) => field key v.chars).flatMap (',' :: ·) := by
    intro x xs
    induction xs generalizing x with
    | nil => simp [Json.fieldChars, field]
    | cons y more ih =>
        rw [Json.fieldChars_cons, ih]
        simp [field]
  cases fields with
  | nil => rfl
  | cons x xs => simp [Json.chars, hfields, braces]

theorem rowChars_eq {row : List Node} (h : ∀ n ∈ row, n.chars = n.json.chars) :
    rowChars row = Json.itemChars (rowJson row) := by
  induction row with
  | nil => rfl
  | cons n rest ih =>
      have hn := h n (by simp)
      have hrest := ih fun m hm => h m (List.mem_cons_of_mem _ hm)
      cases rest with
      | nil => simp [rowChars, rowJson, Json.itemChars, hn]
      | cons m more =>
          rw [rowChars, hn, hrest]
          · simp [rowJson, Json.itemChars_cons]
          · simp

/-- The text of a node is the text of its value. -/
theorem chars_eq (n : Node) : n.chars = n.json.chars := by
  induction n using nested with
  | text value =>
      rw [chars, json, ← braces_fields]
      simp [Json.chars]
  | element name props cs ih =>
      rw [chars, json, rowChars_eq ih]
      refine Eq.trans ?_ (braces_fields _)
      cases props <;> cases cs <;> simp [Json.chars]

end Node

/-- The value whose text is the text of the document. -/
def Document.json (d : Document) : Json :=
  .obj (("tree", d.tree.json) :: (d.frontmatter.map fun map => ("frontmatter", .obj map)).toList)

theorem Document.text_eq (d : Document) : d.text = d.json.text := by
  obtain ⟨tree, frontmatter⟩ := d
  rw [text, chars, json, Json.text, tree.chars_eq]
  refine congrArg String.ofList (Eq.trans ?_ (Node.braces_fields _))
  cases frontmatter <;> simp

/-! ## Documents that their texts keep -/

namespace Node

mutual

/-- A node whose props their texts keep. -/
def Exact : Node → Prop
  | .text _ => True
  | .element _ props cs => Json.Exact (.obj props) ∧ ExactRow cs

/-- A row of nodes whose props their texts keep. -/
def ExactRow : List Node → Prop
  | [] => True
  | n :: rest => Exact n ∧ ExactRow rest

end

theorem exactRow_iff (row : List Node) : ExactRow row ↔ ∀ n ∈ row, n.Exact := by
  induction row with
  | nil => simp [ExactRow]
  | cons n rest ih => simp [ExactRow, ih]

theorem json_integral {n : Node} (hn : n.Exact) : n.json.Integral := by
  induction n using nested with
  | text value =>
      rw [json, Json.integral_obj]
      simp [Json.integral_str]
  | element name props cs ih =>
      rw [Exact, exactRow_iff] at hn
      have hrow : ∀ v ∈ rowJson cs, v.Integral := by
        intro v hv
        rw [rowJson_eq_map, List.mem_map] at hv
        obtain ⟨m, hm, rfl⟩ := hv
        exact ih m hm (hn.2 m hm)
      rw [json, Json.integral_obj]
      intro field hfield
      simp only [List.mem_append, List.mem_cons, List.not_mem_nil, or_false] at hfield
      rcases hfield with ((rfl | rfl) | hprops) | hchildren
      · exact Json.integral_str _
      · exact Json.integral_str _
      · split at hprops
        · simp at hprops
        · obtain rfl : field = ("props", Json.obj props) := by simpa using hprops
          exact hn.1.1
      · split at hchildren
        · simp at hchildren
        · obtain rfl : field = ("children", Json.arr (rowJson cs)) := by simpa using hchildren
          exact (Json.integral_arr _).mpr hrow

end Node

/-- A document whose props and metadata their texts keep. -/
def Document.Exact (d : Document) : Prop :=
  d.tree.Exact ∧ ∀ map ∈ d.frontmatter, Json.Exact (.obj map)

theorem Document.json_integral {d : Document} (hd : d.Exact) : d.json.Integral := by
  obtain ⟨tree, frontmatter⟩ := d
  rw [json, Json.integral_obj]
  intro field hfield
  rcases List.mem_cons.mp hfield with rfl | hfield
  · exact Node.json_integral hd.1
  · cases frontmatter with
    | none => simp at hfield
    | some map =>
        obtain rfl : field = ("frontmatter", Json.obj map) := by simpa using hfield
        exact (hd.2 map rfl).1

/-! ## Reading -/

namespace Node

theorem rowOfSpelling?_map {row : List Node} {spell : Node → Spelling}
    (h : ∀ n ∈ row, ofSpelling? (spell n) = some n) :
    rowOfSpelling? (row.map spell) = some row := by
  induction row with
  | nil => rfl
  | cons n rest ih =>
      rw [List.map_cons, rowOfSpelling?, h n (by simp),
        ih fun m hm => h m (List.mem_cons_of_mem _ hm)]

theorem props?_obj {props : Dict Json} (h : Json.Exact (.obj props))
    (hdepth : (Json.obj props).depth ≤ Json.maxDepth) :
    props? (some (.obj (Spelling.ofFields props))) = some props := by
  rw [← ofJson, props?, Json.value?_ofJson, if_pos hdepth, Json.canonical_eq h.2]
  rfl

theorem eq_nil_or_isEmpty {α : Type} (list : List α) : list = [] ∨ list.isEmpty = false := by
  cases list <;> simp

/-- The fields of an element in the order of its text; those that are empty are left out. -/
def elementFields (name : String) (props : Dict Json) (childless : Bool) (row : List Json) :
    List (String × Json) :=
  [("type", .str "element"), ("name", .str name)]
    ++ (if props.isEmpty then [] else [("props", .obj props)])
    ++ (if childless then [] else [("children", .arr row)])

/-- The fields of an element in the order of their keys. -/
def sortedFields (name : String) (props : Dict Json) (childless : Bool) (row : List Json) :
    List (String × Json) :=
  (if childless then [] else [("children", .arr row)])
    ++ [("name", .str name)]
    ++ (if props.isEmpty then [] else [("props", .obj props)])
    ++ [("type", .str "element")]

theorem json_element (name : String) (props : Dict Json) (cs : List Node) :
    json (.element name props cs) = .obj (elementFields name props cs.isEmpty (rowJson cs)) := rfl

theorem depth_props (name : String) (props : Dict Json) (cs : List Node) :
    (Json.obj props).depth ≤ (json (.element name props cs)).depth := by
  rw [json_element]
  cases props with
  | nil => exact Nat.succ_le_succ (Nat.zero_le _)
  | cons field rest =>
      have hmem : ("props", Json.obj (field :: rest))
          ∈ elementFields name (field :: rest) cs.isEmpty (rowJson cs) := by
        simp [elementFields]
      exact Nat.le_of_lt (Json.depth_lt_obj hmem)

theorem depth_child {n : Node} {cs : List Node} (h : n ∈ cs) (name : String) (props : Dict Json) :
    n.json.depth ≤ (json (.element name props cs)).depth := by
  have hitem : n.json.depth < (Json.arr (rowJson cs)).depth :=
    Json.depth_lt_arr (by rw [rowJson_eq_map]; exact List.mem_map_of_mem h)
  have hsome : cs.isEmpty = false := List.isEmpty_eq_false_iff.mpr (List.ne_nil_of_mem h)
  have hmem : ("children", Json.arr (rowJson cs))
      ∈ elementFields name props cs.isEmpty (rowJson cs) := by
    simp [elementFields, hsome]
  rw [json_element]
  exact Nat.le_of_lt (Nat.lt_trans hitem (Json.depth_lt_obj hmem))

/-- An element is read from its record. -/
theorem ofSpelling?_record {fields : List (Option String × Spelling)} {name : String}
    {item children : Option Spelling} {props : Dict Json} {cs : List Node}
    (htype : Spelling.record? ["type"] (.obj fields) = some [some (.str (some "element"))])
    (hrecord : Spelling.record? ["name", "props", "children"] (.obj fields)
      = some [some (.str (some name)), item, children])
    (hprops : props? item = some props) (hchildren : childField? fields = some cs) :
    ofSpelling? (.obj fields) = some (.element name props cs) := by
  rw [ofSpelling?, htype]
  simp only [hrecord, hprops, hchildren]

/-- An element is read from its fields, in the order of their text. -/
theorem ofSpelling?_element {name : String} {props : Dict Json} {cs : List Node} {row : List Json}
    (hprops : props? (some (.obj (Spelling.ofFields props))) = some props)
    (hrow : rowOfSpelling? (Spelling.ofItems row) = some cs) :
    ofSpelling? (ofJson (.obj (elementFields name props cs.isEmpty row)))
      = some (.element name props cs) := by
  -- The keys are known, so the records compute; what is left are the props and the children.
  cases props with
  | nil =>
      cases cs with
      | nil => exact ofSpelling?_record rfl rfl rfl rfl
      | cons c rest => exact ofSpelling?_record rfl rfl rfl hrow
  | cons field more =>
      cases cs with
      | nil => exact ofSpelling?_record rfl rfl hprops rfl
      | cons c rest => exact ofSpelling?_record rfl rfl hprops hrow

/-- An element is read from its fields, in the order of their keys. -/
theorem ofSpelling?_sorted {name : String} {props : Dict Json} {cs : List Node} {row : List Json}
    (hprops : props? (some (.obj (Spelling.ofFields props))) = some props)
    (hrow : rowOfSpelling? (Spelling.ofItems row) = some cs) :
    ofSpelling? (ofJson (.obj (sortedFields name props cs.isEmpty row)))
      = some (.element name props cs) := by
  cases props with
  | nil =>
      cases cs with
      | nil => exact ofSpelling?_record rfl rfl rfl rfl
      | cons c rest => exact ofSpelling?_record rfl rfl rfl hrow
  | cons field more =>
      cases cs with
      | nil => exact ofSpelling?_record rfl rfl hprops rfl
      | cons c rest => exact ofSpelling?_record rfl rfl hprops hrow

/-- The value of an element with its keys in order. -/
theorem canonical_element {name : String} {props : Dict Json} {cs : List Node}
    (h : Json.Exact (.obj props)) :
    (json (.element name props cs)).canonical
      = .obj (sortedFields name props cs.isEmpty (cs.map fun n => n.json.canonical)) := by
  have hprops : (Json.obj props).canonical = .obj props := Json.canonical_eq h.2
  have hrow : (Json.arr (rowJson cs)).canonical = .arr (cs.map fun n => n.json.canonical) := by
    rw [Json.canonical, rowJson_eq_map, Json.canonicalItems_eq_map, List.map_map]
    rfl
  have hstr : ∀ s, (Json.str s).canonical = .str s := fun _ => rfl
  rw [json_element, Json.canonical]
  -- What is left in each case are the insertions of known keys, which compute.
  obtain rfl | hp := eq_nil_or_isEmpty props <;> obtain rfl | hc := eq_nil_or_isEmpty cs <;>
    · simp only [*, elementFields, sortedFields, Json.canonicalFields, List.isEmpty_nil, if_true,
        Bool.false_eq_true, if_false, List.cons_append, List.nil_append, List.append_nil]
      rfl

/-- A node is read from its spelling and from the value that spelling means. -/
theorem ofSpelling?_json {n : Node} (hn : n.Exact) (hdepth : n.json.depth ≤ Json.maxDepth) :
    ofSpelling? (ofJson n.json) = some n ∧ ofSpelling? (ofJson n.json.canonical) = some n := by
  induction n using nested with
  | text value =>
      constructor
      · simp [json, ofJson, Spelling.ofFields, ofSpelling?, Spelling.record?]
      · have hcanonical : (json (.text value)).canonical
            = .obj [("type", .str "text"), ("value", .str value)] := rfl
        rw [hcanonical]
        simp [ofJson, Spelling.ofFields, ofSpelling?, Spelling.record?]
  | element name props cs ih =>
      rw [Exact, exactRow_iff] at hn
      have hprops := props?_obj hn.1 (Nat.le_trans (depth_props name props cs) hdepth)
      have hchild : ∀ n ∈ cs, _ := fun n hmem =>
        ih n hmem (hn.2 n hmem) (Nat.le_trans (depth_child hmem name props) hdepth)
      constructor
      · rw [json_element]
        refine ofSpelling?_element hprops ?_
        rw [rowJson_eq_map, Json.ofItems_eq_map, List.map_map]
        exact rowOfSpelling?_map fun n hmem => (hchild n hmem).1
      · rw [canonical_element hn.1]
        refine ofSpelling?_sorted hprops ?_
        rw [Json.ofItems_eq_map, List.map_map]
        exact rowOfSpelling?_map fun n hmem => (hchild n hmem).2

end Node

namespace Document

/-- The depth of the metadata; without it nothing is nested. -/
def frontmatterDepth (d : Document) : Nat :=
  match d.frontmatter with
  | some map => (Json.obj map).depth
  | none => 0

theorem depth_json (d : Document) :
    d.json.depth = max d.tree.json.depth d.frontmatterDepth + 1 := by
  obtain ⟨tree, frontmatter⟩ := d
  cases frontmatter <;> simp [json, frontmatterDepth, Json.depth, Json.fieldsDepth]

/-- The metadata as spelled. -/
def frontmatterSpelling (d : Document) : Option Spelling :=
  d.frontmatter.map fun map => .obj (Spelling.ofFields map)

theorem frontmatter?_spelling {d : Document} (hd : d.Exact) :
    frontmatter? d.frontmatterSpelling
      = if d.frontmatterDepth ≤ Json.maxDepth - 1 then some d.frontmatter else none := by
  obtain ⟨tree, frontmatter⟩ := d
  cases frontmatter with
  | none => simp [frontmatterSpelling, frontmatterDepth, frontmatter?]
  | some map =>
      have hmap : Json.Exact (.obj map) := hd.2 map rfl
      simp only [frontmatterSpelling, frontmatterDepth, frontmatter?, Option.map_some]
      rw [← ofJson, Json.value?_ofJson, Json.canonical_eq hmap.2]
      by_cases h : (Json.obj map).depth ≤ Json.maxDepth - 1 <;> simp [h, Json.obj?]

theorem record?_json (d : Document) :
    Spelling.record? ["tree", "frontmatter"] (ofJson d.json)
      = some [some (ofJson d.tree.json), d.frontmatterSpelling] := by
  obtain ⟨tree, frontmatter⟩ := d
  cases frontmatter <;>
    simp [json, frontmatterSpelling, ofJson, Spelling.ofFields, Spelling.record?]

/-- The value a document's text means has the metadata first. -/
theorem canonical_json {d : Document} (hd : d.Exact) :
    d.json.canonical = .obj ((d.frontmatter.map fun map => ("frontmatter", Json.obj map)).toList
      ++ [("tree", d.tree.json.canonical)]) := by
  obtain ⟨tree, frontmatter⟩ := d
  cases frontmatter with
  | none => simp [json, Json.canonical, Json.canonicalFields, Dict.ofList, Dict.insert]
  | some map =>
      have hmap : (Json.obj map).canonical = .obj map := Json.canonical_eq (hd.2 map rfl).2
      simp only [json, Option.map_some, Option.toList_some, List.cons_append, List.nil_append]
      rw [Json.canonical, Json.canonicalFields, Json.canonicalFields, Json.canonicalFields, hmap]
      rfl

theorem record?_canonical {d : Document} (hd : d.Exact) :
    Spelling.record? ["tree", "frontmatter"] (ofJson d.json.canonical)
      = some [some (ofJson d.tree.json.canonical), d.frontmatterSpelling] := by
  rw [canonical_json hd]
  obtain ⟨tree, frontmatter⟩ := d
  cases frontmatter <;>
    simp [frontmatterSpelling, ofJson, Spelling.ofFields, Spelling.record?]

/-- The document is read from the spelling of its text exactly when that is not too deep. -/
theorem ofSpelling?_json {d : Document} (hd : d.Exact) :
    ofSpelling? (ofJson d.json) = if d.json.depth ≤ Json.maxDepth then some d else none := by
  have hmax : Json.maxDepth = 127 := rfl
  rw [ofSpelling?, record?_json, depth_json]
  simp only [Json.value?_ofJson, frontmatter?_spelling hd]
  -- The outer object takes one level, which the tree and the metadata then lack.
  by_cases htree : d.tree.json.depth ≤ Json.maxDepth - 1
  · have hnode := (Node.ofSpelling?_json hd.1 (by omega)).1
    by_cases hfront : d.frontmatterDepth ≤ Json.maxDepth - 1
    · have hle : max d.tree.json.depth d.frontmatterDepth + 1 ≤ Json.maxDepth := by omega
      simp [htree, hfront, hnode, hle]
    · have hgt : ¬ max d.tree.json.depth d.frontmatterDepth + 1 ≤ Json.maxDepth := by omega
      simp [htree, hfront, hnode, hgt]
  · have hgt : ¬ max d.tree.json.depth d.frontmatterDepth + 1 ≤ Json.maxDepth := by omega
    simp [htree, hgt]

/-- The document is read from the value its text means. -/
theorem ofJson?_canonical {d : Document} (hd : d.Exact) (hdepth : d.json.depth ≤ Json.maxDepth) :
    ofJson? d.json.canonical = some d := by
  have hmax : Json.maxDepth = 127 := rfl
  rw [depth_json] at hdepth
  have hcanonical := Json.depth_canonical_le d.tree.json
  have htree : d.tree.json.canonical.depth ≤ Json.maxDepth - 1 := by omega
  have hfront : d.frontmatterDepth ≤ Json.maxDepth - 1 := by omega
  have hnode := (Node.ofSpelling?_json hd.1 (by omega)).2
  rw [ofJson?, ofSpelling?, record?_canonical hd]
  simp [Json.value?_ofJson, frontmatter?_spelling hd, htree, hfront, hnode]

/-- The value a document's text means has a tree. -/
theorem hasTree_canonical {d : Document} (hd : d.Exact) :
    Remote.hasTree d.json.canonical = true := by
  have htree : ∃ fields, d.tree.json.canonical = .obj fields := by
    cases d.tree <;> exact ⟨_, by rw [Node.json, Json.canonical]⟩
  obtain ⟨fields, hfields⟩ := htree
  have hfield : d.json.canonical.field? "tree" = some (.obj fields) := by
    rw [canonical_json hd, hfields]
    cases d.frontmatter <;> simp [Json.field?, Dict.get?]
  simp [Remote.hasTree, hfield]

/-- A document goes through its text unchanged, read directly or from a successful response, if the
text nests at most as deep as readers allow; a deeper text is refused by both. -/
theorem text_roundTrip (d : Document) (hd : d.Exact) (status : Nat) (hlow : 200 ≤ status)
    (hhigh : status < 300) :
    (Json.nesting d.text ≤ 127 →
      read? d.text = some d ∧ (Remote.Response.mk status d.text).document = .ok d) ∧
    (127 < Json.nesting d.text →
      read? d.text = none ∧
        (Remote.Response.mk status d.text).document = .error .invalidFormat) := by
  have hint : d.json.Integral := json_integral hd
  have hnesting : Json.nesting d.text = d.json.depth := by
    rw [text_eq, Json.nesting_text hint]
  have hspelling : Spelling.read? d.text = some (ofJson d.json) := by
    rw [text_eq, Json.read?_text hint]
  have hvalue : Json.read? d.text
      = if d.json.depth ≤ Json.maxDepth then some d.json.canonical else none := by
    simp [Json.read?, hspelling, Json.value?_ofJson]
  have hread : read? d.text = if d.json.depth ≤ Json.maxDepth then some d else none := by
    simp [read?, hspelling, ofSpelling?_json hd]
  have hok : (Remote.Response.mk status d.text).isOk = true := by
    simp [Remote.Response.isOk, hlow, hhigh]
  rw [hnesting]
  -- Both readers start from the same spelling; the second goes through the value it means.
  constructor
  · intro hdepth
    have hdepth : d.json.depth ≤ Json.maxDepth := hdepth
    simp [hread, hdepth, Remote.Response.document, hok, hvalue, hasTree_canonical hd,
      ofJson?_canonical hd hdepth]
  · intro hdepth
    have hdepth : ¬ d.json.depth ≤ Json.maxDepth := Nat.not_le_of_lt hdepth
    simp [hread, hdepth, Remote.Response.document, hok, hvalue]

/-- A text under `n` elements with props. -/
def tower : Nat → Node
  | 0 => .text "a \"quoted\" \x7b[ text\n"
  | n + 1 =>
    .element "html.b" [("data", .arr [.num (.int (-5)), .null]), ("id", .str "\x7b")] [tower n]

theorem tower_exact (n : Nat) : (tower n).Exact := by
  induction n with
  | zero => simp [tower, Node.Exact]
  | succ n ih =>
      refine ⟨⟨?_, ?_⟩, ih, trivial⟩
      · simp [Json.Integral, Json.Everywhere, Json.EveryItem, Json.EveryField, Json.Number.Fits]
      · simp [Json.Ordered, Json.Everywhere, Json.EveryItem, Json.EveryField]
        decide

theorem tower_depth (n : Nat) : (tower n).json.depth = 2 * n + 1 := by
  induction n with
  | zero => rfl
  | succ n ih =>
      simp [tower, Node.json, Node.rowJson, Json.depth, Json.fieldsDepth, Json.itemsDepth, ih]
      omega

/-- With metadata, and one level below the limit. -/
def shallowTower : Document :=
  { tree := tower 62, frontmatter := some [("title", .str "T")] }

/-- One level above the limit. -/
def deepTower : Document :=
  { tree := tower 63 }

theorem text_roundTrip_towers :
    (Json.nesting shallowTower.text ≤ 127 ∧ read? shallowTower.text = some shallowTower ∧
      (Remote.Response.mk 204 shallowTower.text).document = .ok shallowTower) ∧
    (127 < Json.nesting deepTower.text ∧ read? deepTower.text = none ∧
      (Remote.Response.mk 204 deepTower.text).document = .error .invalidFormat) := by
  have hshallow : shallowTower.Exact := by
    refine ⟨tower_exact 62, ?_⟩
    simp [shallowTower, Json.Exact, Json.Integral, Json.Ordered, Json.Everywhere, Json.EveryField]
    decide
  have hdeep : deepTower.Exact := ⟨tower_exact 63, by simp [deepTower]⟩
  have hbelow : Json.nesting shallowTower.text ≤ 127 := by
    rw [text_eq, Json.nesting_text (json_integral hshallow), depth_json]
    simp [shallowTower, tower_depth, frontmatterDepth, Json.depth, Json.fieldsDepth]
  have habove : 127 < Json.nesting deepTower.text := by
    rw [text_eq, Json.nesting_text (json_integral hdeep), depth_json]
    simp [deepTower, tower_depth, frontmatterDepth]
  exact ⟨⟨hbelow, (text_roundTrip shallowTower hshallow 204 (by decide) (by decide)).1 hbelow⟩,
    habove, (text_roundTrip deepTower hdeep 204 (by decide) (by decide)).2 habove⟩

end Document

end Mdx.Wire
