import Mdx.Proofs.Content
import Mdx.Proofs.Dict

/-!
# The order of the built-in passes

An edit after an edit is an edit again (`Edit.comp`). The three built-in passes recognise their
elements by the bare name, which marking does not change, and each changes something else of an
element; so they can be run in any order, and running them again changes nothing
(`Pipeline.passes_commute`).
-/

namespace Mdx

attribute [ext] Edit

/-! ## Edits after edits -/

namespace Edit

/-- One edit and then another. The second sees the names and the trees that the first one leaves. -/
def comp (first second : Edit) : Edit :=
  { rename := fun name => second.rename (first.rename name)
    props := fun name props => second.props (first.rename name) (first.props name props)
    keep := fun name t => first.keep name t && second.keep (first.rename name) (first.tree t) }

variable {first second : Edit}

theorem row_comp {cs : List Tree} (h : ∀ t ∈ cs, (first.comp second).tree t
      = second.tree (first.tree t)) (keep keep' : Tree → Bool) :
    (first.comp second).row (fun t => keep t && keep' (first.tree t)) cs
      = second.row keep' (first.row keep cs) := by
  rw [row_eq_map, row_eq_map, row_eq_map, List.filter_map, List.map_map, List.filter_filter]
  have hkeep : cs.filter (fun t => keep t && keep' (first.tree t))
      = cs.filter (fun t => (keep' ∘ first.tree) t && keep t) :=
    List.filter_congr fun t _ => Bool.and_comm _ _
  rw [hkeep]
  exact List.map_congr_left fun t ht => h t (List.mem_filter.mp ht).1

theorem tree_comp (first second : Edit) (t : Tree) :
    (first.comp second).tree t = second.tree (first.tree t) := by
  induction t using Tree.nested with
  | text value => rfl
  | fragment cs ih =>
      simp only [tree]
      rw [← row_comp ih]
      rfl
  | element name props cs ih =>
      simp only [tree]
      rw [← row_comp ih]
      rfl

theorem root_comp (first second : Edit) (r : Element) :
    (first.comp second).root r = second.root (first.root r) := by
  simp only [root]
  rw [← row_comp fun t _ => tree_comp first second t]
  rfl

/-- Editing a tree does not make a blank text of it, nor of a blank text anything else. -/
theorem isBlankText_tree (e : Edit) (t : Tree) : (e.tree t).isBlankText = t.isBlankText := by
  cases t <;> rfl

/-- Edits that commute can be exchanged on every root. -/
theorem root_comm (h : first.comp second = second.comp first) (r : Element) :
    second.root (first.root r) = first.root (second.root r) := by
  rw [← root_comp, ← root_comp, h]

end Edit

namespace Pass

variable {mark : String} {isLocal : String → Bool}

/-! ## Marked names -/

theorem bare_rename (name : String) :
    Tag.bare mark ((markTags mark).rename name) = Tag.bare mark name :=
  Tag.bare_marked mark name

/-- What marking does to a name: a tag without the prefix gets it, and any other name stays. -/
theorem rename_cases (mark name : String) :
    (markTags mark).rename name = name ∧ (name ∈ Tag.all → Text.hasPrefix mark name = true)
      ∨ name ∈ Tag.all ∧ Text.hasPrefix mark name = false
        ∧ (markTags mark).rename name = mark ++ name := by
  have hrename : (markTags mark).rename name = (Tag.marked? mark name).getD name := rfl
  rw [hrename, Tag.marked?]
  by_cases hempty : mark = ""
  · subst hempty
    exact .inl ⟨rfl, fun _ => rfl⟩
  · have hempty : mark.isEmpty = false := by simpa using hempty
    rw [hempty, Bool.false_or]
    cases hprefix : Text.hasPrefix mark name with
    | true => exact .inl ⟨rfl, fun _ => rfl⟩
    | false =>
        by_cases htag : name ∈ Tag.all
        · exact .inr ⟨htag, rfl, by simp [htag]⟩
        · exact .inl ⟨by simp [htag], fun h => absurd h htag⟩

/-- A tag that was marked carries the prefix, so it is not marked again. -/
theorem rename_rename (name : String) :
    (markTags mark).rename ((markTags mark).rename name) = (markTags mark).rename name := by
  rcases rename_cases mark name with ⟨hsame, -⟩ | ⟨-, -, hmarked⟩
  · rw [hsame, hsame]
  · rw [hmarked]
    rcases rename_cases mark (mark ++ name) with ⟨hsame, -⟩ | ⟨-, hprefix, -⟩
    · exact hsame
    · rw [Text.hasPrefix_append] at hprefix
      cases hprefix

/-! ## Deferred props -/

/-- The value of a source after it was deferred. -/
def deferred (isLocal : String → Bool) (value : PropValue) : PropValue :=
  ((localPath? isLocal value).map .localAsset).getD value

/-- An asset names no file any more. -/
theorem localPath?_deferred (value : PropValue) :
    localPath? isLocal (deferred isLocal value) = none := by
  rw [deferred]
  cases hpath : localPath? isLocal value with
  | none => simpa using hpath
  | some path => rfl

/-- Deferring a prop changes the value under its key alone. -/
theorem get?_deferProp (key other : String) (props : Props) :
    (deferProp isLocal key props).get? other
      = if key = other then (props.get? key).map (deferred isLocal) else props.get? other := by
  rw [deferProp]
  split
  · rename_i value hvalue
    rw [hvalue, Option.map_some, deferred]
    split
    · rename_i path hpath
      rw [hpath, Dict.get?_insert]
      rfl
    · rename_i hpath
      rw [hpath]
      split
      · rename_i hkey
        rw [← hkey, hvalue]
        rfl
      · rfl
  · rename_i hnone
    rw [hnone]
    split
    · rename_i hkey
      rw [← hkey, hnone]
      rfl
    · rfl

/-- The prop under the key names no local file. -/
def Settled (isLocal : String → Bool) (key : String) (props : Props) : Prop :=
  ∀ value, props.get? key = some value → localPath? isLocal value = none

theorem Settled.deferProp_eq {key : String} {props : Props} (h : Settled isLocal key props) :
    deferProp isLocal key props = props := by
  rw [deferProp]
  split
  · rename_i value hvalue
    rw [h value hvalue]
  · rfl

theorem settled_deferProp (key : String) (props : Props) :
    Settled isLocal key (deferProp isLocal key props) := by
  intro value hvalue
  rw [get?_deferProp, if_pos rfl] at hvalue
  obtain ⟨before, -, rfl⟩ := Option.map_eq_some_iff.mp hvalue
  exact localPath?_deferred before

theorem Settled.deferProp {key : String} {props : Props} (h : Settled isLocal key props)
    (other : String) : Settled isLocal key (deferProp isLocal other props) := by
  by_cases hkey : other = key
  · subst hkey
    exact settled_deferProp other props
  · intro value hvalue
    rw [get?_deferProp, if_neg hkey] at hvalue
    exact h value hvalue

theorem deferAssets_image {name : String} (himg : Tag.bare mark name = "img") (props : Props) :
    (deferAssets mark isLocal).props name props
      = deferProp isLocal "source" (deferProp isLocal "src" props) := by
  simp [deferAssets, himg, sourceProps]

/-- The props of an image are settled once they were deferred. -/
theorem settled_deferAssets {name : String} (himg : Tag.bare mark name = "img") (props : Props) :
    ∀ key ∈ sourceProps, Settled isLocal key ((deferAssets mark isLocal).props name props) := by
  rw [deferAssets_image himg]
  intro key hkey
  simp only [sourceProps, List.mem_cons, List.not_mem_nil, or_false] at hkey
  rcases hkey with rfl | rfl
  · exact (settled_deferProp "src" props).deferProp "source"
  · exact settled_deferProp "source" _

theorem deferAssets_twice (name : String) (props : Props) :
    (deferAssets mark isLocal).props name ((deferAssets mark isLocal).props name props)
      = (deferAssets mark isLocal).props name props := by
  by_cases himg : Tag.bare mark name = "img"
  · have hsettled : ∀ key ∈ sourceProps,
        Settled isLocal key ((deferAssets mark isLocal).props name props) :=
      settled_deferAssets himg props
    generalize (deferAssets mark isLocal).props name props = settled at hsettled
    rw [deferAssets_image himg, (hsettled "src" (by decide)).deferProp_eq,
      (hsettled "source" (by decide)).deferProp_eq]
  · simp [deferAssets, himg]

/-! ## Passes that commute -/

/-- Sources are deferred under a marked name as under the bare one. -/
theorem props_rename (name : String) :
    (deferAssets mark isLocal).props ((markTags mark).rename name)
      = (deferAssets mark isLocal).props name := by
  simp only [deferAssets, bare_rename]

/-- White space is dropped under a marked name as under the bare one. -/
theorem keep_rename (name : String) :
    (dropTableSpace mark).keep ((markTags mark).rename name) = (dropTableSpace mark).keep name := by
  simp only [dropTableSpace, bare_rename]

/-- White space is dropped whatever was done to the trees before. -/
theorem keep_tree (name : String) (e : Edit) (t : Tree) :
    (dropTableSpace mark).keep name (e.tree t) = (dropTableSpace mark).keep name t := by
  simp only [dropTableSpace, Edit.isBlankText_tree]

theorem markTags_comm_deferAssets :
    (markTags mark).comp (deferAssets mark isLocal)
      = (deferAssets mark isLocal).comp (markTags mark) := by
  refine Edit.ext rfl (funext fun name => ?_) rfl
  exact props_rename name

theorem markTags_comm_dropTableSpace :
    (markTags mark).comp (dropTableSpace mark) = (dropTableSpace mark).comp (markTags mark) := by
  refine Edit.ext rfl rfl (funext fun name => funext fun t => ?_)
  show (true && (dropTableSpace mark).keep ((markTags mark).rename name) ((markTags mark).tree t))
    = ((dropTableSpace mark).keep name t && true)
  rw [keep_rename, keep_tree, Bool.true_and, Bool.and_true]

theorem deferAssets_comm_dropTableSpace :
    (deferAssets mark isLocal).comp (dropTableSpace mark)
      = (dropTableSpace mark).comp (deferAssets mark isLocal) := by
  refine Edit.ext rfl rfl (funext fun name => funext fun t => ?_)
  show (true && (dropTableSpace mark).keep name ((deferAssets mark isLocal).tree t))
    = ((dropTableSpace mark).keep name t && true)
  rw [keep_tree, Bool.true_and, Bool.and_true]

/-- The edits of the built-in passes, in the order in which they run. -/
def edits (mark : String) (isLocal : String → Bool) : List Edit :=
  [markTags mark, deferAssets mark isLocal, dropTableSpace mark]

theorem edits_comm {e e' : Edit} (he : e ∈ edits mark isLocal) (he' : e' ∈ edits mark isLocal) :
    e.comp e' = e'.comp e := by
  simp only [edits, List.mem_cons, List.not_mem_nil, or_false] at he he'
  rcases he with rfl | rfl | rfl
  · rcases he' with rfl | rfl | rfl
    · rfl
    · exact markTags_comm_deferAssets
    · exact markTags_comm_dropTableSpace
  · rcases he' with rfl | rfl | rfl
    · exact markTags_comm_deferAssets.symm
    · rfl
    · exact deferAssets_comm_dropTableSpace
  · rcases he' with rfl | rfl | rfl
    · exact markTags_comm_dropTableSpace.symm
    · exact deferAssets_comm_dropTableSpace.symm
    · rfl

/-! ## The built-in passes as one edit -/

/-- What the three built-in passes do to an element: one changes its name, one its props, and one
drops children. -/
def builtins (mark : String) (isLocal : String → Bool) : Edit :=
  { rename := (markTags mark).rename
    props := (deferAssets mark isLocal).props
    keep := (dropTableSpace mark).keep }

theorem comp_eq_builtins :
    ((markTags mark).comp (deferAssets mark isLocal)).comp (dropTableSpace mark)
      = builtins mark isLocal := by
  refine Edit.ext rfl (funext fun name => ?_) (funext fun name => funext fun t => ?_)
  · exact props_rename name
  · show (true && (dropTableSpace mark).keep ((markTags mark).rename name) (Edit.tree _ t)) = _
    rw [keep_rename, keep_tree, Bool.true_and]
    rfl

theorem builtins_comp_builtins :
    (builtins mark isLocal).comp (builtins mark isLocal) = builtins mark isLocal := by
  refine Edit.ext (funext fun name => ?_) (funext fun name => funext fun props => ?_)
    (funext fun name => funext fun t => ?_)
  · exact rename_rename name
  · show (deferAssets mark isLocal).props ((markTags mark).rename name) _ = _
    rw [props_rename]
    exact deferAssets_twice name props
  · show ((dropTableSpace mark).keep name t
      && (dropTableSpace mark).keep ((markTags mark).rename name) (Edit.tree _ t)) = _
    rw [keep_rename, keep_tree, Bool.and_self]
    rfl

end Pass

/-! ## Runs -/

namespace Pipeline

/-- Passes that never fail are run one after the other. -/
theorem runPasses_of_total {passes : List Pass}
    (h : ∀ pass ∈ passes, ∀ root, (pass.run root).2 = none) (root : Element) :
    (runPasses passes root).failure = none
      ∧ (runPasses passes root).root = passes.foldl (fun r pass => (pass.run r).1) root := by
  induction passes generalizing root with
  | nil => exact ⟨rfl, rfl⟩
  | cons pass rest ih =>
      have hpass : pass.run root = ((pass.run root).1, none) :=
        Prod.ext rfl (h pass (by simp) root)
      have hrest := ih (fun p hp => h p (List.mem_cons_of_mem _ hp)) (pass.run root).1
      rw [runPasses, hpass]
      exact hrest

variable (mark : String) (isLocal : String → Bool)

/-- A run of the built-in passes alone. -/
def runBuiltins (root : Element) : Run :=
  (new mark (Pass.localAssets mark isLocal)).run root

/-- The run does to every element what the three passes do, as one edit. -/
theorem runBuiltins_eq (root : Element) :
    (runBuiltins mark isLocal root).failure = none
      ∧ (runBuiltins mark isLocal root).root = (Pass.builtins mark isLocal).root root := by
  refine ⟨rfl, ?_⟩
  rw [← Pass.comp_eq_builtins, Edit.root_comp, Edit.root_comp]
  rfl

/-- The built-in passes can be run in any order, and running all of them again changes nothing. -/
theorem passes_commute (root : Element) :
    (∀ passes : List Pass,
      passes.Perm [Pass.tagNames mark, Pass.localAssets mark isLocal, Pass.tableSpace mark] →
        (runPasses passes root).failure = none
          ∧ (runPasses passes root).root = (runBuiltins mark isLocal root).root)
      ∧ (runBuiltins mark isLocal (runBuiltins mark isLocal root).root).root
        = (runBuiltins mark isLocal root).root := by
  constructor
  · intro passes hperm
    have happlies : ∀ pass ∈ passes, ∃ e ∈ Pass.edits mark isLocal,
        ∀ r, pass.run r = (e.root r, none) := by
      intro pass hpass
      have hmem := hperm.mem_iff.mp hpass
      simp only [List.mem_cons, List.not_mem_nil, or_false] at hmem
      rcases hmem with rfl | rfl | rfl
      · exact ⟨Pass.markTags mark, by simp [Pass.edits], fun _ => rfl⟩
      · exact ⟨Pass.deferAssets mark isLocal, by simp [Pass.edits], fun _ => rfl⟩
      · exact ⟨Pass.dropTableSpace mark, by simp [Pass.edits], fun _ => rfl⟩
    have htotal : ∀ pass ∈ passes, ∀ r, (pass.run r).2 = none := by
      intro pass hpass r
      obtain ⟨e, -, he⟩ := happlies pass hpass
      rw [he]
    have hswap : ∀ pass ∈ passes, ∀ other ∈ passes, ∀ r : Element,
        (other.run (pass.run r).1).1 = (pass.run (other.run r).1).1 := by
      intro pass hpass other hother r
      obtain ⟨e, he, hrun⟩ := happlies pass hpass
      obtain ⟨e', he', hrun'⟩ := happlies other hother
      simp only [hrun, hrun']
      exact Edit.root_comm (Pass.edits_comm he he') r
    obtain ⟨hfailure, hroot⟩ := runPasses_of_total htotal root
    refine ⟨hfailure, ?_⟩
    rw [hroot, hperm.foldl_eq' hswap]
    rfl
  · rw [(runBuiltins_eq mark isLocal root).2, (runBuiltins_eq mark isLocal _).2,
      ← Edit.root_comp, Pass.builtins_comp_builtins]

end Pipeline

end Mdx
