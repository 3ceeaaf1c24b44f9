import Mdx.Proofs.Convert.Tags
import Mdx.Proofs.Html.Rendering
import Mdx.Proofs.Html.Warnings
import Mdx.Proofs.Modes
import Mdx.Proofs.Pass.Order

/-!
# Plain documents render

A document without JSX can be rendered with the default components, from conversion to the page.
Conversion gives every element a tag; the passes mark it, and looking it up takes the mark off
again; and every tag has a component. What is left to warn of are images without a source. The main
statement is `Html.Renderer.render_plain`.
-/

namespace Mdx

/-! ## Names on the way to the page -/

/-- An edit brings in no names but new ones for those that were there. -/
theorem Edit.names_tree_subset (e : Edit) (t : Tree) : (e.tree t).names ⊆ t.names.map e.rename := by
  have hrow : ∀ {keep : Tree → Bool} {cs : List Tree},
      (∀ t ∈ cs, (e.tree t).names ⊆ t.names.map e.rename) →
      Tree.rowNames (e.row keep cs) ⊆ (Tree.rowNames cs).map e.rename := by
    intro keep cs hcs name hname
    rw [row_eq_map, Tree.rowNames_eq_flatMap, List.flatMap_map, List.mem_flatMap] at hname
    obtain ⟨t, ht, hname⟩ := hname
    have hmem := (List.mem_filter.mp ht).1
    rw [Tree.rowNames_eq_flatMap, List.map_flatMap, List.mem_flatMap]
    exact ⟨t, hmem, hcs t hmem hname⟩
  induction t using Tree.nested with
  | text value => exact List.nil_subset _
  | fragment cs ih => exact hrow ih
  | element name props cs ih => exact List.cons_subset_cons _ (hrow ih)

/-- A name that does not begin with the prefix is bare. -/
theorem Tag.bare_of_not_hasPrefix {mark name : String} (h : Text.hasPrefix mark name = false) :
    Tag.bare mark name = name := by
  have hnone : Text.after? mark.toList name.toList = none := by
    simpa [Text.hasPrefix, Text.begins] using h
  rw [Tag.bare, Text.afterPrefix?, hnone]
  rfl

/-- The prefix can be told from the tags: there is none, or no tag begins with it. -/
def Tag.Clear (mark : String) : Prop :=
  mark = "" ∨ ∀ tag ∈ Tag.all, Text.hasPrefix mark tag = false

theorem Tag.Clear.bare {mark tag : String} (h : Tag.Clear mark) (htag : tag ∈ Tag.all) :
    Tag.bare mark tag = tag := by
  rcases h with rfl | h
  · simp [Tag.bare, Text.afterPrefix?, Text.after?]
  · exact Tag.bare_of_not_hasPrefix (h tag htag)

namespace Html

/-- The page of a document: converted, run through the built-in passes, and lowered. -/
def page (mark : String) (isLocal : String → Bool) (assets : Wire.AssetMap)
    (frontmatter : Option (Dict Json)) (document : Markdown.Node) : Wire.Document :=
  let root := (Pipeline.runBuiltins mark isLocal (convert document).root).root
  (Wire.lower assets mark root frontmatter).document

/-- On the page of a plain document only tags are looked up. -/
theorem key_mem_of_plain {mark : String} (hmark : Tag.Clear mark) {document : Markdown.Node}
    (hplain : Markdown.Node.Plain document.all) (isLocal : String → Bool) (assets : Wire.AssetMap)
    (frontmatter : Option (Dict Json)) :
    ∀ l ∈ lookups mark (page mark isLocal assets frontmatter document).tree, l.key ∈ Tag.all := by
  intro l hl
  have htree : (page mark isLocal assets frontmatter document).tree
      = Wire.lowerTree assets mark false
        ((Pass.builtins mark isLocal).tree (convert document).root.toTree) := by
    have hroot := (Pipeline.runBuiltins_eq mark isLocal (convert document).root).2
    rw [page, hroot]
    rfl
  rw [htree, lookups_lowerTree] at hl
  obtain ⟨name, hname, rfl⟩ := List.mem_map.mp hl
  obtain ⟨tag, htag, rfl⟩ := List.mem_map.mp
    (Edit.names_tree_subset _ _ (List.mem_filter.mp hname).1)
  have hmem := convert_tagged hplain tag htag
  have hkey : (Lookup.ofName mark ((Pass.builtins mark isLocal).rename tag)).key = tag :=
    (Pass.bare_rename tag).trans (hmark.bare hmem)
  rw [hkey]
  exact hmem

/-! ## Default components -/

/-- Every tag has a component. -/
theorem get?_defaultComponents_ne_none {tag : String} (h : tag ∈ Tag.all) :
    defaultComponents.get? tag ≠ none := by
  rw [get?_defaultComponents, List.contains_iff_mem.mpr h, if_pos rfl]
  split
  · simp
  · split
    · simp
    · split <;> simp

/-- A default component fails only if it is that of images, and then for want of an asset. -/
theorem defaultComponents_cases {key : String} {component : Component}
    (h : defaultComponents.get? key = some component) :
    key = "img" ∧ component = Component.image
      ∨ ∀ ctx props inner, ∃ html, component ctx props inner = .ok html := by
  rw [get?_defaultComponents] at h
  split at h
  · cases h
    exact .inr fun ctx props inner => ⟨inner, rfl⟩
  · split at h
    · cases h
      exact .inr fun ctx props inner => ⟨_, rfl⟩
    · split at h
      · rename_i himg
        cases h
        exact .inl ⟨himg, rfl⟩
      · split at h
        · cases h
          exact .inr fun ctx props inner => ⟨_, rfl⟩
        · cases h

namespace Renderer

theorem recovers_defaultComponents {key : String} {component : Component}
    (h : defaultComponents.get? key = some component) : Recovers component := by
  rcases defaultComponents_cases h with ⟨-, rfl⟩ | hok
  · exact recovers_image
  · exact fun ctx props inner => .inl (hok ctx props inner)

variable {r : Renderer}

/-- A call is of the component that the namespace has under its name. -/
theorem component_of_mem_calls (n : Wire.Node) :
    ∀ order s, ∀ call ∈ r.calls order n s,
      r.components.get? call.context.name = some call.component := by
  induction n using Wire.Node.nested with
  | text value =>
      intro order s call hcall
      cases hcall
  | element name props cs ih =>
      intro order s call hcall
      have hrow : ∀ s, call ∈ r.rowCalls 0 (orders r.tagPrefix cs) cs s →
          r.components.get? call.context.name = some call.component := by
        intro s hcall
        obtain ⟨i, n, s', hn, inner, hinner, rfl⟩ := mem_rowCalls hcall
        exact ih n (List.mem_of_getElem? hn) _ s' inner hinner
      by_cases hname : name = fragmentName
      · subst hname
        rw [(node_fragment r order props cs s).2] at hcall
        exact hrow s hcall
      · cases hget : r.components.get? (Tag.bare r.tagPrefix name) with
        | none =>
            rw [(node_missing r order props cs s hname hget).2] at hcall
            split at hcall
            · cases hcall
            · exact hrow _ hcall
        | some component =>
            rw [(node_found r order props cs s hname hget).2] at hcall
            rcases List.mem_append.mp hcall with hcall | hown
            · exact hrow s hcall
            · split at hown
              · cases hown
              · rw [List.mem_singleton.mp hown]
                exact hget

/-- With the default components only images are replaced by placeholders. -/
theorem placeholderWarnings_default (h : r.components = defaultComponents)
    (document : Wire.Document) :
    ∀ d ∈ r.placeholderWarnings document, ∃ cause, d = placeholderWarning "img" cause := by
  intro d hd
  obtain ⟨call, hcall, hwarning⟩ := List.mem_filterMap.mp hd
  have hget := component_of_mem_calls document.tree .alone {} call hcall
  rw [h] at hget
  rw [Call.warning?] at hwarning
  split at hwarning
  · rename_i cause herror
    rcases defaultComponents_cases hget with ⟨himg, -⟩ | hok
    · rw [himg] at hwarning
      exact ⟨cause, (Option.some.inj hwarning).symm⟩
    · obtain ⟨html, hhtml⟩ := hok call.context call.props call.inner
      rw [hhtml] at herror
      cases herror
  · cases hwarning

/-- A namespace that has every key of a document: nothing is missing. -/
theorem absentKeys_eq_nil {document : Wire.Document}
    (h : ∀ l ∈ lookups r.tagPrefix document.tree, l.isMissing r.components = false) :
    r.absentKeys document = [] := by
  have hnone : (lookups r.tagPrefix document.tree).filter (·.isMissing r.components) = [] := by
    rw [List.filter_eq_nil_iff]
    intro l hl
    rw [h l hl]
    exact Bool.false_ne_true
  rw [absentKeys, missingKeys, hnone]
  rfl

/-- Where nothing is missing and components fail for want of an asset only, a rendering gives a page
and warns of the calls that failed. -/
theorem render_of_found
    (hr : ∀ key component, r.components.get? key = some component → Recovers component)
    {document : Wire.Document}
    (h : ∀ l ∈ lookups r.tagPrefix document.tree, l.isMissing r.components = false) :
    (∃ html, (r.render document).html = .ok html)
      ∧ (r.render document).diagnostics = r.placeholderWarnings document := by
  have hcalm : (lookups r.tagPrefix document.tree).find? (·.isFatal r.components) = none := by
    rw [List.find?_eq_none]
    intro l hl
    rw [Lookup.isFatal, h l hl]
    exact Bool.false_ne_true
  obtain ⟨⟨html, hhtml⟩, -⟩ := (render_outcome hr document).2 hcalm
  have hwarnings := render_warnings hhtml
  rw [absentKeys_eq_nil h] at hwarnings
  exact ⟨⟨html, hhtml⟩, hwarnings.eq_of_left_nil⟩

/-- Without JSX, and with headings of the depths that have tags, a document always renders with the
default components, whatever its nodes are. There is a warning for each image that was replaced by a
placeholder, and no other. -/
theorem render_plain (r : Renderer) (hdefault : r.components = defaultComponents)
    (hmark : Tag.Clear r.tagPrefix) (document : Markdown.Node)
    (hplain : ∀ n ∈ document.all, n.isPlain = true) (isLocal : String → Bool)
    (assets : Wire.AssetMap) (frontmatter : Option (Dict Json)) :
    let wire := page r.tagPrefix isLocal assets frontmatter document
    (Pipeline.runBuiltins r.tagPrefix isLocal (convert document).root).failure = none
      ∧ (∃ html, (r.render wire).html = .ok html)
      ∧ (r.render wire).diagnostics = r.placeholderWarnings wire
      ∧ ∀ d ∈ (r.render wire).diagnostics, ∃ cause, d = placeholderWarning "img" cause := by
  intro wire
  have hrecovers : ∀ key component, r.components.get? key = some component →
      Recovers component := by
    intro key component hget
    rw [hdefault] at hget
    exact recovers_defaultComponents hget
  have hfound : ∀ l ∈ lookups r.tagPrefix wire.tree, l.isMissing r.components = false := by
    intro l hl
    have hkey := key_mem_of_plain hmark hplain isLocal assets frontmatter l hl
    rw [Lookup.isMissing, Option.isNone_eq_false_iff, Option.isSome_iff_ne_none, hdefault]
    exact get?_defaultComponents_ne_none hkey
  obtain ⟨hhtml, hdiagnostics⟩ := render_of_found hrecovers hfound
  refine ⟨(Pipeline.runBuiltins_eq _ isLocal _).1, hhtml, hdiagnostics, ?_⟩
  rw [hdiagnostics]
  exact placeholderWarnings_default hdefault wire

/-- A document with rows and cells where none belong, references without targets, notes inside notes
and none for a reference, tasks, a heading in a cell, and images with and without a source. -/
def straysDocument : Markdown.Node :=
  .root
    [ .tableRow [.tableCell [.text "a"]],
      .heading 6 [.linkReference "x" (some "X") .full [.text "b"], .lineBreak, .inlineMath "c"],
      .list true (some 3) true
        [ .listItem false (some false) [], .paragraph [.footnoteReference "n"],
          .listItem true (some true) [.paragraph [.image "" "d" none]] ],
      .table [.left, .unset]
        [ .paragraph [], .tableRow [.tableCell [.heading 1 []], .text "e", .tableCell []],
          .tableRow [.tableCell [.image "f.png" "" (some "g")]] ],
      .footnoteDefinition "n"
        [.paragraph [.footnoteReference "n", .footnoteReference "m"], .math "h"],
      .footnoteReference "o",
      .html "<Card>", .imageReference "y" none .shortcut "i", .esm "import A from \"a\"" ]

theorem render_plain_strays :
    let r : Renderer := { components := defaultComponents, tagPrefix := "md." }
    let wire := page "md." (· == "f.png") (fun _ => none) none straysDocument
    Tag.Clear "md." ∧ (∀ n ∈ straysDocument.all, n.isPlain = true)
      ∧ (∃ html, (r.render wire).html = .ok html)
      ∧ (r.render wire).diagnostics = [placeholderWarning "img" (.unresolved "\"\"")] := by
  intro r wire
  have hmark : Tag.Clear "md." := .inr (by decide)
  have hplain : ∀ n ∈ straysDocument.all, n.isPlain = true := by decide
  obtain ⟨-, hhtml, hdiagnostics, -⟩ :=
    render_plain r rfl hmark straysDocument hplain (· == "f.png") (fun _ => none) none
  have hplaceholders : r.placeholderWarnings wire
      = [placeholderWarning "img" (.unresolved "\"\"")] := by
    decide +kernel
  exact ⟨hmark, hplain, hhtml, hdiagnostics.trans hplaceholders⟩

end Renderer

end Html

end Mdx
