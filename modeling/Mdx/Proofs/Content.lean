import Mdx.Pass.Pipeline
import Mdx.Proofs.Text
import Mdx.Proofs.Tree

/-!
# The content of trees

Two views of what a tree says: the characters of its texts that are not white space, and the texts
that its `code` elements hold. The built-in passes and lowering keep both.
-/

namespace Mdx

/-- The characters of a text that are not white space. -/
def ink (s : String) : List Char :=
  s.toList.filter fun c => !Text.isBlank c

@[simp] theorem ink_append (s t : String) : ink (s ++ t) = ink s ++ ink t := by
  simp [ink]

theorem ink_of_allBlank {s : String} (h : Text.allBlank s = true) : ink s = [] := by
  rw [Text.allBlank, List.all_eq_true] at h
  exact List.filter_eq_nil_iff.mpr fun c hc => by simp [h c hc]

/-- An element of the tag `code`, with or without the prefix. -/
def isCode (mark name : String) : Bool :=
  Tag.bare mark name == "code"

/-! ## Views -/

namespace Tree

/-- The value of a text. -/
def text? : Tree → Option String
  | .text value => some value
  | _ => none

mutual

/-- The texts that the `code` elements of a tree hold themselves, one for each element, parents
first. -/
def codeTexts (mark : String) : Tree → List String
  | .element name _ cs =>
    (if isCode mark name then [String.join (cs.filterMap text?)] else []) ++ rowCodeTexts mark cs
  | .text _ => []
  | .fragment cs => rowCodeTexts mark cs

/-- The texts that the `code` elements of a row of trees hold. -/
def rowCodeTexts (mark : String) : List Tree → List String
  | [] => []
  | t :: ts => codeTexts mark t ++ rowCodeTexts mark ts

end

theorem rowCodeTexts_eq_flatMap (mark : String) (cs : List Tree) :
    rowCodeTexts mark cs = cs.flatMap (codeTexts mark) := by
  induction cs with
  | nil => rfl
  | cons t ts ih => rw [rowCodeTexts, ih, List.flatMap_cons]

theorem ink_contents (cs : List Tree) : ink (contents cs) = cs.flatMap fun t => ink t.content := by
  induction cs with
  | nil => rfl
  | cons t ts ih => rw [contents, ink_append, ih, List.flatMap_cons]

theorem contents_append (cs ds : List Tree) :
    contents (cs ++ ds) = contents cs ++ contents ds := by
  induction cs with
  | nil => simp [contents]
  | cons t ts ih => rw [List.cons_append, contents, contents, ih, String.append_assoc]

theorem rowCodeTexts_append (mark : String) (cs ds : List Tree) :
    rowCodeTexts mark (cs ++ ds) = rowCodeTexts mark cs ++ rowCodeTexts mark ds := by
  simp [rowCodeTexts_eq_flatMap]

/-- A text of white space shows nothing. -/
theorem nothing_of_isBlankText {t : Tree} (h : t.isBlankText = true) (mark : String) :
    ink t.content = [] ∧ t.codeTexts mark = [] := by
  cases t with
  | text value => exact ⟨ink_of_allBlank h, rfl⟩
  | element name props cs => simp [isBlankText] at h
  | fragment cs => simp [isBlankText] at h

end Tree

namespace Wire.Node

mutual

/-- The texts of a node, joined. -/
def content : Node → String
  | .text value => value
  | .element _ _ cs => contents cs

/-- The texts of a row of nodes, joined. -/
def contents : List Node → String
  | [] => ""
  | n :: rest => content n ++ contents rest

end

/-- The value of a text. -/
def text? : Node → Option String
  | .text value => some value
  | _ => none

mutual

/-- The texts that the `code` elements of a node hold themselves, one for each element, parents
first. -/
def codeTexts (mark : String) : Node → List String
  | .text _ => []
  | .element name _ cs =>
    (if isCode mark name then [String.join (cs.filterMap text?)] else []) ++ rowCodeTexts mark cs

/-- The texts that the `code` elements of a row of nodes hold. -/
def rowCodeTexts (mark : String) : List Node → List String
  | [] => []
  | n :: rest => codeTexts mark n ++ rowCodeTexts mark rest

end

theorem rowCodeTexts_eq_flatMap (mark : String) (cs : List Node) :
    rowCodeTexts mark cs = cs.flatMap (codeTexts mark) := by
  induction cs with
  | nil => rfl
  | cons n rest ih => rw [rowCodeTexts, ih, List.flatMap_cons]

theorem contents_append (cs ds : List Node) :
    contents (cs ++ ds) = contents cs ++ contents ds := by
  induction cs with
  | nil => simp [contents]
  | cons n rest ih => rw [List.cons_append, contents, contents, ih, String.append_assoc]

theorem ink_contents (cs : List Node) : ink (contents cs) = cs.flatMap fun n => ink n.content := by
  induction cs with
  | nil => rfl
  | cons n rest ih => rw [contents, ink_append, ih, List.flatMap_cons]

end Wire.Node

/-- What shows nothing can be left out of a row. -/
theorem flatMap_filter_of_nil {α β : Type} {keep : α → Bool} {f g : α → List β} {row : List α}
    (hdrop : ∀ a ∈ row, keep a = false → g a = []) (hkeep : ∀ a ∈ row, f a = g a) :
    (row.filter keep).flatMap f = row.flatMap g := by
  induction row with
  | nil => rfl
  | cons a rest ih =>
      have hrest := ih (fun b hb => hdrop b (List.mem_cons_of_mem _ hb))
        (fun b hb => hkeep b (List.mem_cons_of_mem _ hb))
      rw [List.filter_cons, List.flatMap_cons]
      cases ha : keep a with
      | true => simp [hkeep a (by simp), hrest]
      | false => simp [hdrop a (by simp) ha, hrest]

/-! ## Edits -/

namespace Edit

/-- An edit that drops texts of white space only, none of them from `code` elements, and keeps the
`code` elements apart from others. -/
structure Quiet (mark : String) (e : Edit) : Prop where
  blank : ∀ name t, e.keep name t = false → t.isBlankText = true
  code : ∀ name t, isCode mark name = true → e.keep name t = true
  rename : ∀ name, isCode mark (e.rename name) = isCode mark name

theorem row_eq_map (e : Edit) (keep : Tree → Bool) (cs : List Tree) :
    row e keep cs = (cs.filter keep).map (tree e) := by
  induction cs with
  | nil => rfl
  | cons t ts ih =>
      rw [row, ih, List.filter_cons]
      cases keep t <;> rfl

theorem text?_tree (e : Edit) (t : Tree) : (tree e t).text? = t.text? := by
  cases t <;> rfl

/-- Rows show what their trees show, if only white space is dropped. -/
theorem row_shows {mark : String} {e : Edit} (keep : Tree → Bool) {cs : List Tree}
    (hkeep : ∀ t, keep t = false → t.isBlankText = true)
    (htree : ∀ t ∈ cs, ink (tree e t).content = ink t.content
      ∧ (tree e t).codeTexts mark = t.codeTexts mark) :
    ink (Tree.contents (row e keep cs)) = ink (Tree.contents cs)
      ∧ Tree.rowCodeTexts mark (row e keep cs) = Tree.rowCodeTexts mark cs := by
  rw [row_eq_map, Tree.ink_contents, Tree.ink_contents, Tree.rowCodeTexts_eq_flatMap,
    Tree.rowCodeTexts_eq_flatMap, List.flatMap_map, List.flatMap_map]
  constructor
  · exact flatMap_filter_of_nil
      (fun t _ hdrop => (Tree.nothing_of_isBlankText (hkeep t hdrop) mark).1)
      (fun t ht => (htree t ht).1)
  · exact flatMap_filter_of_nil
      (fun t _ hdrop => (Tree.nothing_of_isBlankText (hkeep t hdrop) mark).2)
      (fun t ht => (htree t ht).2)

theorem Quiet.tree {mark : String} {e : Edit} (he : e.Quiet mark) (t : Tree) :
    ink (e.tree t).content = ink t.content
      ∧ (e.tree t).codeTexts mark = t.codeTexts mark := by
  induction t using Tree.nested with
  | text value => exact ⟨rfl, rfl⟩
  | fragment cs ih => exact row_shows _ (fun _ h => by simp at h) ih
  | element name props cs ih =>
      obtain ⟨hink, hcodes⟩ := row_shows (e.keep name) (he.blank name) ih
      refine ⟨hink, ?_⟩
      rw [Edit.tree, Tree.codeTexts, Tree.codeTexts, hcodes, he.rename]
      by_cases hcode : isCode mark name = true
      · -- Nothing is dropped from a code element, so its own texts stay.
        have hall : cs.filter (e.keep name) = cs :=
          List.filter_eq_self.mpr fun t _ => he.code name t hcode
        have htexts : (row e (e.keep name) cs).filterMap Tree.text? = cs.filterMap Tree.text? := by
          rw [row_eq_map, hall, List.filterMap_map]
          exact congrArg (List.filterMap · cs) (funext fun t => text?_tree e t)
        rw [htexts]
      · rw [if_neg hcode, if_neg hcode]

theorem Quiet.root {mark : String} {e : Edit} (he : e.Quiet mark) (r : Element) :
    ink (e.root r).toTree.content = ink r.toTree.content
      ∧ (e.root r).toTree.codeTexts mark = r.toTree.codeTexts mark :=
  he.tree r.toTree

end Edit

/-! ## Built-in passes -/

/-- Marking a tag does not change which tag it is. -/
theorem Tag.bare_marked (mark name : String) :
    bare mark ((marked? mark name).getD name) = bare mark name := by
  rw [marked?]
  split
  · rfl
  · rename_i hunmarked
    split
    · rw [Bool.or_eq_true, not_or, Text.hasPrefix, Text.begins] at hunmarked
      have hname : Text.after? mark.toList name.toList = none := by
        simpa using hunmarked.2
      rw [Option.getD_some, bare, bare, Text.afterPrefix?, Text.afterPrefix?, String.toList_append,
        Text.after?_append, hname]
      simp
    · rfl

namespace Pass

theorem quiet_markTags (mark : String) : (markTags mark).Quiet mark :=
  { blank := fun _ _ h => by simp [markTags] at h
    code := fun _ _ _ => rfl
    rename := fun name => by rw [isCode, isCode, markTags, Tag.bare_marked] }

theorem quiet_deferAssets (mark : String) (isLocal : String → Bool) :
    (deferAssets mark isLocal).Quiet mark :=
  { blank := fun _ _ h => by simp [deferAssets] at h
    code := fun _ _ _ => rfl
    rename := fun _ => rfl }

theorem quiet_dropTableSpace (mark : String) : (dropTableSpace mark).Quiet mark :=
  { blank := fun name t h => by
      rw [dropTableSpace, Bool.not_eq_false', Bool.and_eq_true] at h
      exact h.2
    code := fun name t h => by
      rw [isCode, beq_iff_eq] at h
      show (!(tableTags.contains (Tag.bare mark name) && t.isBlankText)) = true
      rw [h]
      rfl
    rename := fun _ => rfl }

end Pass

/-- The built-in passes keep what a tree shows. -/
theorem Pipeline.run_shows (mark : String) (isLocal : String → Bool) (r : Element) :
    ink ((Pipeline.new mark (Pass.localAssets mark isLocal)).run r).root.toTree.content
        = ink r.toTree.content
      ∧ ((Pipeline.new mark (Pass.localAssets mark isLocal)).run r).root.toTree.codeTexts mark
        = r.toTree.codeTexts mark := by
  have hrun : ((Pipeline.new mark (Pass.localAssets mark isLocal)).run r).root
      = (Pass.dropTableSpace mark).root
          ((Pass.deferAssets mark isLocal).root ((Pass.markTags mark).root r)) := rfl
  obtain ⟨hink₁, hcodes₁⟩ := (Pass.quiet_markTags mark).root r
  obtain ⟨hink₂, hcodes₂⟩ := (Pass.quiet_deferAssets mark isLocal).root
    ((Pass.markTags mark).root r)
  obtain ⟨hink₃, hcodes₃⟩ := (Pass.quiet_dropTableSpace mark).root
    ((Pass.deferAssets mark isLocal).root ((Pass.markTags mark).root r))
  rw [hrun]
  exact ⟨hink₃.trans (hink₂.trans hink₁), hcodes₃.trans (hcodes₂.trans hcodes₁)⟩

/-! ## Lowering -/

namespace Wire

theorem isBlankText_of_skips {preformatted : Bool} {t : Tree}
    (h : Rendered.skips preformatted t = true) : t.isBlankText = true := by
  rw [Rendered.skips, Bool.and_eq_true] at h
  cases t with
  | text value =>
      have hlayout := h.2
      rw [Rendered.isLayout, Bool.and_eq_true] at hlayout
      exact hlayout.2
  | element name props cs => simp [Rendered.isLayout] at h
  | fragment cs => simp [Rendered.isLayout] at h

theorem text?_lowerTree (assets : AssetMap) (mark : String) (preformatted : Bool) (t : Tree) :
    (lowerTree assets mark preformatted t).text? = t.text? := by
  cases t <;> rfl

theorem lowerRow_shows {assets : AssetMap} {mark : String} {preformatted : Bool} {cs : List Tree}
    (htree : ∀ t ∈ cs, ink (lowerTree assets mark preformatted t).content = ink t.content
      ∧ (lowerTree assets mark preformatted t).codeTexts mark = t.codeTexts mark) :
    ink (Node.contents (lowerRow assets mark preformatted cs)) = ink (Tree.contents cs)
      ∧ Node.rowCodeTexts mark (lowerRow assets mark preformatted cs)
        = Tree.rowCodeTexts mark cs := by
  have hskip : ∀ t, (!Rendered.skips preformatted t) = false → t.isBlankText = true :=
    fun t h => isBlankText_of_skips (by simpa using h)
  rw [lowerRow_eq_map, Rendered.children, Node.ink_contents, Tree.ink_contents,
    Node.rowCodeTexts_eq_flatMap, Tree.rowCodeTexts_eq_flatMap, List.flatMap_map, List.flatMap_map]
  constructor
  · exact flatMap_filter_of_nil
      (fun t _ hdrop => (Tree.nothing_of_isBlankText (hskip t hdrop) mark).1)
      (fun t ht => (htree t ht).1)
  · exact flatMap_filter_of_nil
      (fun t _ hdrop => (Tree.nothing_of_isBlankText (hskip t hdrop) mark).2)
      (fun t ht => (htree t ht).2)

/-- Lowering keeps what a tree shows, as long as fragments are not taken for code. -/
theorem lowerTree_shows (assets : AssetMap) {mark : String}
    (hfragment : isCode mark fragmentName = false) (t : Tree) :
    ∀ preformatted : Bool, ink (lowerTree assets mark preformatted t).content = ink t.content
      ∧ (lowerTree assets mark preformatted t).codeTexts mark = t.codeTexts mark := by
  induction t using Tree.nested with
  | text value => exact fun _ => ⟨rfl, rfl⟩
  | fragment cs ih =>
      intro preformatted
      obtain ⟨hink, hcodes⟩ := lowerRow_shows fun t ht => ih t ht preformatted
      refine ⟨hink, ?_⟩
      rw [lowerTree, Node.codeTexts, hcodes, hfragment]
      rfl
  | element name props cs ih =>
      intro preformatted
      obtain ⟨hink, hcodes⟩ := lowerRow_shows fun t ht =>
        ih t ht (preformatted || Rendered.isPreformatted mark name)
      refine ⟨hink, ?_⟩
      rw [lowerTree, Node.codeTexts, hcodes, Tree.codeTexts]
      by_cases hcode : isCode mark name = true
      · -- Inside code white space is content, so nothing is skipped.
        have hpre : Rendered.isPreformatted mark name = true := by
          rw [isCode] at hcode
          rw [Rendered.isPreformatted, hcode, Bool.or_true]
        have hall : Rendered.children true cs = cs :=
          List.filter_eq_self.mpr fun t _ => by simp [Rendered.skips]
        rw [hpre, Bool.or_true, lowerRow_eq_map, hall, List.filterMap_map]
        refine congrArg (fun texts : List String => (if isCode mark name = true then
          [String.join texts] else []) ++ Tree.rowCodeTexts mark cs) ?_
        exact congrArg (List.filterMap · cs) (funext fun t => text?_lowerTree assets mark true t)
      · rw [if_neg hcode, if_neg hcode]

end Wire

end Mdx
