import Mathlib.Data.List.Forall2
import Mdx.Proofs.Pass.Order

/-!
# Trees after the built-in passes

What holds of every element once the built-in passes have run (`Pass.Normal`), and what they left as
it was (`Pass.Kept`): a tree after the passes has the elements of the tree before, one for one, so
both are facts about single elements. The main statement is `Pipeline.runBuiltins_normal`.
-/

namespace Mdx

/-! ## Elements -/

namespace Tree

theorem elements_of_isBlankText {t : Tree} (h : t.isBlankText = true) : t.elements = [] := by
  cases t with
  | text value => rfl
  | element name props cs => simp [isBlankText] at h
  | fragment cs => simp [isBlankText] at h

end Tree

/-- An edit that drops no more than blank texts edits every element, one for one. -/
theorem Edit.elements_tree {e : Edit}
    (he : ∀ name t, e.keep name t = false → t.isBlankText = true) (t : Tree) :
    (e.tree t).elements = t.elements.map e.root := by
  have hrow : ∀ {keep : Tree → Bool} {cs : List Tree},
      (∀ t, keep t = false → t.isBlankText = true) →
      (∀ t ∈ cs, (e.tree t).elements = t.elements.map e.root) →
      Tree.rowElements (row e keep cs) = (Tree.rowElements cs).map e.root := by
    intro keep cs hkeep hcs
    rw [row_eq_map, Tree.rowElements_eq_flatMap, Tree.rowElements_eq_flatMap, List.flatMap_map,
      List.map_flatMap]
    refine flatMap_filter_of_nil (fun t _ hdrop => ?_) hcs
    rw [Tree.elements_of_isBlankText (hkeep t hdrop), List.map_nil]
  induction t using Tree.nested with
  | text value => rfl
  | fragment cs ih => exact hrow (fun _ h => by simp at h) ih
  | element name props cs ih =>
      rw [tree, Tree.elements, Tree.elements, List.map_cons, hrow (he name) ih]
      rfl

theorem PropValue.eq_string {value : PropValue} {source : String} (h : value.str? = some source) :
    value = .string source := by
  rw [str?.eq_def] at h
  split at h
  · rw [Option.some.inj h]
    rfl
  · cases h

namespace Pass

variable {mark : String} {isLocal : String → Bool}

/-! ## Normal elements -/

/-- An element as the built-in passes leave it. -/
structure Normal (mark : String) (isLocal : String → Bool) (e : Element) : Prop where
  /-- A tag carries the prefix. -/
  marked : e.name ∈ Tag.all → Text.hasPrefix mark e.name = true
  /-- The structure of a table holds no white space. -/
  tight : Tag.bare mark e.name ∈ tableTags → ∀ t ∈ e.children, t.isBlankText = false
  /-- The sources of an image name no local files, unless they are loads already. -/
  settled : Tag.bare mark e.name = "img" → ∀ key ∈ sourceProps, ∀ source,
    e.props.get? key = some (.string source) → isLocal source = true →
      Text.hasPrefix "require(" source = true

theorem hasPrefix_rename {name : String} (h : (markTags mark).rename name ∈ Tag.all) :
    Text.hasPrefix mark ((markTags mark).rename name) = true := by
  rcases rename_cases mark name with ⟨hsame, htag⟩ | ⟨-, -, hmarked⟩
  · rw [hsame] at h ⊢
    exact htag h
  · rw [hmarked, Text.hasPrefix_append]

/-- A tag that gets the prefix does not carry it twice. -/
theorem hasPrefix_twice {name : String}
    (h : Text.hasPrefix (mark ++ mark) ((markTags mark).rename name) = true) :
    Text.hasPrefix (mark ++ mark) name = true := by
  rcases rename_cases mark name with ⟨hsame, -⟩ | ⟨-, hprefix, hmarked⟩
  · rwa [hsame] at h
  · rw [hmarked, Text.hasPrefix_append_append, hprefix] at h
    cases h

/-- A string that is not settled names a local file. -/
theorem localPath?_string (source : String) :
    localPath? isLocal (.string source)
      = if Text.hasPrefix "require(" source || !isLocal source then none else some source := rfl

theorem normal_root (e : Element) : Normal mark isLocal ((builtins mark isLocal).root e) := by
  refine ⟨hasPrefix_rename, fun htable t ht => ?_, fun himg key hkey source hget hlocal => ?_⟩
  · have hbare : Tag.bare mark e.name ∈ tableTags := by rwa [← bare_rename]
    have hchildren : t ∈ (e.children.filter ((dropTableSpace mark).keep e.name)).map
        (builtins mark isLocal).tree := by rwa [← Edit.row_eq_map]
    obtain ⟨before, hbefore, rfl⟩ := List.mem_map.mp hchildren
    have hkept := (List.mem_filter.mp hbefore).2
    rw [Edit.isBlankText_tree]
    simpa [dropTableSpace, hbare] using hkept
  · have hbare : Tag.bare mark e.name = "img" := by rwa [← bare_rename]
    have hnone : localPath? isLocal (.string source) = none :=
      settled_deferAssets hbare e.props key hkey _ hget
    rw [localPath?_string, hlocal] at hnone
    simpa using hnone

/-! ## What the passes keep -/

/-- The name is as it was, or it is a tag that got the prefix. -/
def NameKept (mark before after : String) : Prop :=
  after = before
    ∨ before ∈ Tag.all ∧ Text.hasPrefix mark before = false ∧ after = mark ++ before

/-- The props of an element are as they were, apart from the sources of images that became assets:
their keys are the same, and under each key the value is the same or the asset for it. -/
structure PropsKept (mark : String) (isLocal : String → Bool) (name : String)
    (before after : Props) : Prop where
  keys : before.Sorted → after.keys = before.keys
  values : ∀ key, after.get? key = before.get? key
    ∨ Tag.bare mark name = "img" ∧ key ∈ sourceProps
      ∧ ∃ source, before.get? key = some (.string source) ∧ isLocal source = true
        ∧ Text.hasPrefix "require(" source = false ∧ after.get? key = some (.localAsset source)

mutual

/-- A tree is as it was, node for node, apart from what the built-in passes are there for. -/
inductive Kept (mark : String) (isLocal : String → Bool) : Tree → Tree → Prop
  | text (value : String) : Kept mark isLocal (.text value) (.text value)
  | fragment {before after : List Tree} (children : RowKept mark isLocal false before after) :
      Kept mark isLocal (.fragment before) (.fragment after)
  | element {name name' : String} {props props' : List (String × PropValue)}
      {before after : List Tree} (hname : NameKept mark name name')
      (hprops : PropsKept mark isLocal name props props')
      (children : RowKept mark isLocal (tableTags.contains (Tag.bare mark name)) before after) :
      Kept mark isLocal (.element name props before) (.element name' props' after)

/-- A row of trees is as it was; blank texts may go if the row is that of a table's structure. -/
inductive RowKept (mark : String) (isLocal : String → Bool) : Bool → List Tree → List Tree → Prop
  | nil (table : Bool) : RowKept mark isLocal table [] []
  | keep {table : Bool} {t u : Tree} {ts us : List Tree} (first : Kept mark isLocal t u)
      (others : RowKept mark isLocal table ts us) : RowKept mark isLocal table (t :: ts) (u :: us)
  | drop {t : Tree} {ts us : List Tree} (blank : t.isBlankText = true)
      (others : RowKept mark isLocal true ts us) : RowKept mark isLocal true (t :: ts) us

end

theorem keys_deferProp {props : Props} (h : props.Sorted) (key : String) :
    (deferProp isLocal key props).keys = props.keys := by
  rw [deferProp]
  split
  · rename_i value hvalue
    split
    · exact Dict.keys_insert_of_get? h hvalue _
    · rfl
  · rfl

/-- Deferring changes the sources of an image alone. -/
theorem get?_deferAssets {name : String} (himg : Tag.bare mark name = "img") (props : Props)
    (key : String) :
    ((deferAssets mark isLocal).props name props).get? key
      = if key ∈ sourceProps then (props.get? key).map (deferred isLocal)
        else props.get? key := by
  rw [deferAssets_image himg, get?_deferProp, get?_deferProp, get?_deferProp]
  by_cases hsource : key = "source"
  · subst hsource
    simp [sourceProps]
  · by_cases hsrc : key = "src"
    · subst hsrc
      simp [sourceProps]
    · simp [sourceProps, hsource, hsrc, eq_comm (b := key)]

/-- A value stays as it was, unless it names a local file. -/
theorem deferred_cases (isLocal : String → Bool) (value : PropValue) :
    deferred isLocal value = value
      ∨ ∃ source, value = .string source ∧ isLocal source = true
        ∧ Text.hasPrefix "require(" source = false
        ∧ deferred isLocal value = .localAsset source := by
  rw [deferred, localPath?]
  split
  · rename_i source hsource
    split
    · exact .inl rfl
    · rename_i hnamed
      simp only [Bool.or_eq_true, Bool.not_eq_true', not_or, Bool.not_eq_true,
        Bool.not_eq_false] at hnamed
      exact .inr ⟨source, PropValue.eq_string hsource, hnamed.2, hnamed.1, rfl⟩
  · exact .inl rfl

theorem propsKept_deferAssets (name : String) (props : Props) :
    PropsKept mark isLocal name props ((deferAssets mark isLocal).props name props) := by
  by_cases himg : Tag.bare mark name = "img"
  · refine ⟨fun hsorted => ?_, fun key => ?_⟩
    · have hsrc : (deferProp isLocal "src" props).keys = props.keys := keys_deferProp hsorted "src"
      have hsorted' : Dict.Sorted (deferProp isLocal "src" props) := by
        rw [Dict.Sorted, hsrc]
        exact hsorted
      rw [deferAssets_image himg, keys_deferProp hsorted', hsrc]
    · rw [get?_deferAssets himg]
      split
      · rename_i hkey
        cases hvalue : props.get? key with
        | none => exact .inl rfl
        | some value =>
            rcases deferred_cases isLocal value with hsame | ⟨source, rfl, hlocal, hload, hasset⟩
            · exact .inl (congrArg some hsame)
            · exact .inr ⟨himg, hkey, source, rfl, hlocal, hload, congrArg some hasset⟩
      · exact .inl rfl
  · have hprops : (deferAssets mark isLocal).props name props = props := by
      simp [deferAssets, himg]
    rw [hprops]
    exact ⟨fun _ => rfl, fun key => .inl rfl⟩

theorem rowKept_row {table : Bool} {keep : Tree → Bool} {cs : List Tree}
    (hkeep : ∀ t, keep t = false → table = true ∧ t.isBlankText = true)
    (h : ∀ t ∈ cs, Kept mark isLocal t ((builtins mark isLocal).tree t)) :
    RowKept mark isLocal table cs ((builtins mark isLocal).row keep cs) := by
  induction cs with
  | nil => exact .nil table
  | cons t ts ih =>
      have hts := ih fun u hu => h u (List.mem_cons_of_mem _ hu)
      rw [Edit.row]
      split
      · exact .keep (h t (by simp)) hts
      · rename_i hdropped
        obtain ⟨rfl, hblank⟩ := hkeep t (by simpa using hdropped)
        exact .drop hblank hts

theorem kept_tree (t : Tree) : Kept mark isLocal t ((builtins mark isLocal).tree t) := by
  induction t using Tree.nested with
  | text value => exact .text value
  | fragment cs ih => exact .fragment (rowKept_row (fun _ h => by simp at h) ih)
  | element name props cs ih =>
      refine .element ?_ (propsKept_deferAssets name props) (rowKept_row (fun t hdrop => ?_) ih)
      · rcases rename_cases mark name with ⟨hsame, -⟩ | hmarked
        · exact .inl hsame
        · exact .inr hmarked
      · simpa [builtins, dropTableSpace] using hdrop

end Pass

/-- What holds after the built-in passes, everywhere in the tree: no tag is left without the prefix,
and none got it twice; the structure of tables holds no white space; no image names a local file.
Apart from the changes that this takes the tree is as it was. -/
theorem Pipeline.runBuiltins_normal (mark : String) (isLocal : String → Bool) (root : Element) :
    (runBuiltins mark isLocal root).failure = none
      ∧ (∀ e ∈ (runBuiltins mark isLocal root).root.elements, Pass.Normal mark isLocal e)
      ∧ List.Forall₂ (fun before after => Text.hasPrefix (mark ++ mark) after.name = true →
          Text.hasPrefix (mark ++ mark) before.name = true)
        root.elements (runBuiltins mark isLocal root).root.elements
      ∧ Pass.Kept mark isLocal root.toTree (runBuiltins mark isLocal root).root.toTree := by
  obtain ⟨hfailure, hroot⟩ := runBuiltins_eq mark isLocal root
  have helements : (runBuiltins mark isLocal root).root.elements
      = root.elements.map (Pass.builtins mark isLocal).root := by
    rw [hroot]
    exact Edit.elements_tree (e := Pass.builtins mark isLocal)
      (Pass.quiet_dropTableSpace mark).blank root.toTree
  refine ⟨hfailure, fun e he => ?_, ?_, ?_⟩
  · rw [helements] at he
    obtain ⟨before, -, rfl⟩ := List.mem_map.mp he
    exact Pass.normal_root before
  · rw [helements, List.forall₂_map_right_iff]
    exact List.forall₂_same.mpr fun before _ => Pass.hasPrefix_twice
  · rw [hroot]
    exact Pass.kept_tree root.toTree

end Mdx
