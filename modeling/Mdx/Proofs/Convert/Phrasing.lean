import Mdx.Proofs.Compile.Outcome
import Mdx.Proofs.Convert.Content
import Mdx.Proofs.Words

/-!
# The words of paragraphs and headings

What a paragraph or a heading shows once it is compiled: the texts of its phrasing content in their
order, less those that are taken for layout (`Says`, with one law for each kind of phrasing
content). White space with a line feed is taken for layout wherever it stands, so that words are
joined where it is all that keeps them apart; `compileWire_keepsWords` says exactly when.
-/

namespace Mdx

namespace Markdown.Node

/-- Phrasing content: texts, inline code, and emphasis and links around phrasing content. -/
inductive Phrase : Node → Prop
  | text (value : String) : Phrase (.text value)
  | inlineCode (value : String) : Phrase (.inlineCode value)
  | emphasis {cs : List Node} (hcs : ∀ n ∈ cs, Phrase n) : Phrase (.emphasis cs)
  | strong {cs : List Node} (hcs : ∀ n ∈ cs, Phrase n) : Phrase (.strong cs)
  | delete {cs : List Node} (hcs : ∀ n ∈ cs, Phrase n) : Phrase (.delete cs)
  | link (url : String) (title : Option String) {cs : List Node} (hcs : ∀ n ∈ cs, Phrase n) :
      Phrase (.link url title cs)

/-- The tag and the content of a paragraph or a heading. -/
def block? : Node → Option (String × List Node)
  | .paragraph cs => some ("p", cs)
  | .heading depth cs => some ("h" ++ toString depth, cs)
  | _ => none

/-- The characters that a node shows itself. -/
def chars (n : Node) : List Char :=
  (n.textValue?.getD "").toList

/-- A text that is taken for layout. -/
def isLayout : Node → Bool
  | .text value => Rendered.isLayout (.text value)
  | _ => false

/-- Layout is white space, and not empty. -/
theorem chars_of_isLayout (n : Node) (h : n.isLayout = true) :
    n.chars ≠ [] ∧ ∀ c ∈ n.chars, Text.isBlank c = true := by
  cases n with
  | text value =>
      have hlayout : value.toList.contains '\n' = true ∧ Text.allBlank value = true :=
        Bool.and_eq_true_iff.mp h
      refine ⟨?_, List.all_eq_true.mp hlayout.2⟩
      intro hnil
      have hempty : value.toList = [] := hnil
      rw [hempty] at hlayout
      cases hlayout.1
  | _ => cases h

/-- The values of nodes that show text, joined. -/
theorem toList_join_values (ns : List Node) :
    (String.join (ns.filterMap textValue?)).toList = ns.flatMap chars := by
  induction ns with
  | nil => rfl
  | cons n ns ih =>
      rw [List.flatMap_cons, List.filterMap_cons, chars]
      cases n.textValue? with
      | none => simpa using ih
      | some value => simpa using ih

end Markdown.Node

namespace Convert

open Markdown (Node)

variable {isLocal : String → Bool}

/-! ## Trees after the passes -/

section

-- The prefix is a variable here, so that nothing evaluates names that carry it.
variable {mark : String}

/-- A tree after the built-in passes. -/
def finished (mark : String) (isLocal : String → Bool) (t : Tree) : Tree :=
  (Pass.dropTableSpace mark).tree
    ((Pass.deferAssets mark isLocal).tree ((Pass.markTags mark).tree t))

theorem pipeline_finished (root : Element) :
    ((Pipeline.new mark (Pass.localAssets mark isLocal)).run root).root.toTree
      = finished mark isLocal root.toTree := rfl

/-- The name of an element after the built-in passes. -/
def markedName (mark name : String) : String :=
  (Tag.marked? mark name).getD name

/-- An element in which text flows: no part of a table, and not preformatted. -/
def isFlowing (mark name : String) : Bool :=
  !(Pass.tableTags.contains (Tag.bare mark name)) && !(Rendered.isPreformatted mark name)

theorem isPreformatted_markedName (name : String) :
    Rendered.isPreformatted mark (markedName mark name) = Rendered.isPreformatted mark name := by
  rw [Rendered.isPreformatted, Rendered.isPreformatted, markedName, Tag.bare_marked]

/-- Outside of tables the passes keep all children. -/
theorem finished_element {name : String}
    (h : Pass.tableTags.contains (Tag.bare mark name) = false)
    (props : List (String × PropValue)) (cs : List Tree) :
    finished mark isLocal (.element name props cs)
      = .element (markedName mark name)
          ((Pass.deferAssets mark isLocal).props (markedName mark name) props)
          (cs.map (finished mark isLocal)) := by
  have hkeep : ∀ t, (Pass.dropTableSpace mark).keep (markedName mark name) t = true := by
    intro t
    show (!(Pass.tableTags.contains (Tag.bare mark (markedName mark name)) && t.isBlankText)) = true
    rw [markedName, Tag.bare_marked, h]
    rfl
  have hall : ∀ ts : List Tree, ts.filter (fun _ => true) = ts :=
    fun ts => List.filter_eq_self.mpr fun _ _ => rfl
  show Tree.element (markedName mark name) _
    ((Pass.dropTableSpace mark).row ((Pass.dropTableSpace mark).keep (markedName mark name))
      ((Pass.deferAssets mark isLocal).row (fun _ => true)
        ((Pass.markTags mark).row (fun _ => true) cs))) = _
  rw [Edit.row_eq_map, Edit.row_eq_map, Edit.row_eq_map, hall, hall,
    List.filter_eq_self.mpr fun t _ => hkeep t, List.map_map, List.map_map]
  rfl

/-- An element without props gets none. -/
theorem deferAssets_nil (name : String) : (Pass.deferAssets mark isLocal).props name [] = [] := by
  show (if _ then _ else _) = _
  split
  · rfl
  · rfl

end

theorem isFlowing_heading (depth : Nat) :
    isFlowing Tag.defaultPrefix ("h" ++ toString depth) = true := by
  have htable : "h" ++ toString depth ∉ Pass.tableTags := by
    intro h
    have hfirst : ∀ tag ∈ Pass.tableTags, tag.toList.head? ≠ some 'h' := by decide
    exact heading_ne (hfirst _ h) depth rfl
  have hpre := heading_ne (show "pre".toList.head? ≠ some 'h' by decide) depth
  have hcode := heading_ne (show "code".toList.head? ≠ some 'h' by decide) depth
  simp only [isFlowing, Rendered.isPreformatted, bare_heading]
  generalize "h" ++ toString depth = tag at htable hpre hcode
  simp [htable, hpre, hcode]

/-! ## What trees say -/

/-- A row of trees after the passes, on the wire. -/
def wireRow (isLocal : String → Bool) (ts : List Tree) : List Wire.Node :=
  Wire.lowerRow (fun _ => none) Tag.defaultPrefix false
    (ts.map (finished Tag.defaultPrefix isLocal))

/-- A row of trees says nodes: on the wire it has their texts in order, less the layout. -/
def Says (isLocal : String → Bool) (ns : List Node) (ts : List Tree) : Prop :=
  (Wire.Node.contents (wireRow isLocal ts)).toList = Text.kept Node.chars Node.isLayout ns

theorem wireRow_append (ts us : List Tree) :
    wireRow isLocal (ts ++ us) = wireRow isLocal ts ++ wireRow isLocal us := by
  simp [wireRow, Wire.lowerRow_eq_map, Rendered.children]

/-- An element in which text flows has its row of children on the wire. -/
theorem wireRow_element {name : String} (h : isFlowing Tag.defaultPrefix name = true)
    (props : List (String × PropValue)) (ts : List Tree) :
    wireRow isLocal [.element name props ts]
      = [.element (markedName Tag.defaultPrefix name)
          (Wire.lowerProps (fun _ => none) ((Pass.deferAssets Tag.defaultPrefix isLocal).props
            (markedName Tag.defaultPrefix name) props))
          (wireRow isLocal ts)] := by
  rw [isFlowing, Bool.and_eq_true, Bool.not_eq_true', Bool.not_eq_true'] at h
  rw [wireRow, List.map_cons, List.map_nil, finished_element h.1]
  show [Wire.Node.element _ _ (Wire.lowerRow _ _
    (false || Rendered.isPreformatted Tag.defaultPrefix (markedName Tag.defaultPrefix name)) _)] = _
  rw [isPreformatted_markedName, h.2]
  rfl

namespace Says

variable {ns ms : List Node} {ts us : List Tree}

theorem nil : Says isLocal [] [] := rfl

theorem append (h : Says isLocal ns ts) (h' : Says isLocal ms us) :
    Says isLocal (ns ++ ms) (ts ++ us) := by
  rw [Says, wireRow_append, Wire.Node.contents_append, String.toList_append, h, h',
    Text.kept_append]

theorem text (value : String) : Says isLocal [.text value] [.text value] := by
  have hrow : wireRow isLocal [.text value]
      = if Rendered.isLayout (.text value) then [] else [.text value] := by
    cases h : Rendered.isLayout (.text value) with
    | true => simp [wireRow, finished, Edit.tree, Wire.lowerRow, Rendered.skips, h]
    | false => simp [wireRow, finished, Edit.tree, Wire.lowerRow, Wire.lowerTree, Rendered.skips, h]
  rw [Says, hrow]
  cases h : Rendered.isLayout (.text value) with
  | true =>
      rw [Text.kept_cons_of_drops (show Node.isLayout (.text value) = true from h)]
      rfl
  | false =>
      rw [Text.kept_cons_of_keeps (show Node.isLayout (.text value) = false from h)]
      simp [Wire.Node.contents, Wire.Node.content, Node.chars, Node.textValue?, Text.kept_nil]

/-- Inside code white space is content. -/
theorem inlineCode (value : String) :
    Says isLocal [.inlineCode value] [.plain "code" [.text value]] := by
  have hpre : Rendered.isPreformatted Tag.defaultPrefix (markedName Tag.defaultPrefix "code")
      = true := by decide
  rw [Says, wireRow, Tree.plain, List.map_cons, List.map_nil, finished_element (by decide),
    Text.kept_cons_of_keeps rfl]
  show (Wire.Node.contents [.element (markedName Tag.defaultPrefix "code") _ (Wire.lowerRow _ _
    (false || Rendered.isPreformatted Tag.defaultPrefix (markedName Tag.defaultPrefix "code"))
      [.text value])]).toList = _
  rw [hpre]
  simp [Wire.lowerRow, Wire.lowerTree, Rendered.skips, Wire.Node.contents, Wire.Node.content,
    Node.chars, Node.textValue?, Text.kept_nil]

/-- An element says what its children say. -/
theorem element (h : Says isLocal ns ts) {n : Node} (htext : n.textValue? = none) {name : String}
    (hname : isFlowing Tag.defaultPrefix name = true) (props : List (String × PropValue)) :
    Says isLocal (n :: ns) [.element name props ts] := by
  have hlayout : n.isLayout = false := by
    cases n <;> first | rfl | cases htext
  have hchars : n.chars = [] := by rw [Node.chars, htext]; rfl
  rw [Says, wireRow_element hname, Text.kept_cons_of_keeps hlayout, hchars, ← h]
  simp [Wire.Node.contents, Wire.Node.content]

end Says

/-- A node is converted to one tree, which says it, whatever was converted before. -/
def Spoken (isLocal : String → Bool) (n : Node) : Prop :=
  ∃ t, (∀ targets s, (node targets n).run s = ([t], s)) ∧ Says isLocal n.all [t]

theorem spoken_row {cs : List Node} (h : ∀ n ∈ cs, Spoken isLocal n) :
    ∃ ts, (∀ targets s, (row targets cs).run s = (ts, s))
      ∧ Says isLocal (Node.rowNodes true cs) ts := by
  induction cs with
  | nil => exact ⟨[], fun _ _ => rfl, .nil⟩
  | cons n rest ih =>
      obtain ⟨t, hrun, hsays⟩ := h n (by simp)
      obtain ⟨ts, hruns, hsay⟩ := ih fun m hm => h m (List.mem_cons_of_mem _ hm)
      refine ⟨[t] ++ ts, fun targets s => ?_, hsays.append hsay⟩
      rw [row, StateT.run_bind, hrun]
      show StateT.run (row targets rest >>= _) s = _
      rw [StateT.run_bind, hruns]
      rfl

/-- A node that becomes an element around its children. -/
theorem spoken_element {n : Node} {cs : List Node} {name : String}
    {props : List (String × PropValue)} (hcs : ∀ m ∈ cs, Spoken isLocal m)
    (hnode : ∀ targets, node targets n = (do return [.element name props (← row targets cs)]))
    (hall : n.all = n :: Node.rowNodes true cs) (htext : n.textValue? = none)
    (hname : isFlowing Tag.defaultPrefix name = true) : Spoken isLocal n := by
  obtain ⟨ts, hruns, hsays⟩ := spoken_row hcs
  refine ⟨.element name props ts, fun targets s => ?_, ?_⟩
  · rw [hnode, StateT.run_bind, hruns]
    rfl
  · rw [hall]
    exact hsays.element htext hname props

theorem spoken_of_phrase {n : Node} (h : n.Phrase) : Spoken isLocal n := by
  induction h with
  | text value => exact ⟨.text value, fun _ _ => rfl, .text value⟩
  | inlineCode value => exact ⟨.plain "code" [.text value], fun _ _ => rfl, .inlineCode value⟩
  | emphasis _ ih => exact spoken_element ih (fun _ => rfl) rfl rfl (by decide)
  | strong _ ih => exact spoken_element ih (fun _ => rfl) rfl rfl (by decide)
  | delete _ ih => exact spoken_element ih (fun _ => rfl) rfl rfl (by decide)
  | link url title _ ih => exact spoken_element ih (fun _ => rfl) rfl rfl (by decide)

/-! ## Paragraphs and headings -/

theorem isFlowing_block {block : Node} {tag : String} {cs : List Node}
    (h : block.block? = some (tag, cs)) : isFlowing Tag.defaultPrefix tag = true := by
  cases block with
  | paragraph _ =>
      cases h
      decide
  | heading depth _ =>
      cases h
      exact isFlowing_heading depth
  | _ => cases h

theorem node_block {block : Node} {tag : String} {cs : List Node}
    (h : block.block? = some (tag, cs)) (targets : Dict (String × Option String)) :
    node targets block = (do return [.plain tag (← row targets cs)]) := by
  cases block with
  | paragraph _ =>
      cases h
      rfl
  | heading _ _ =>
      cases h
      rfl
  | _ => cases h

/-- The phrasing content of a block is converted in the same way wherever the block stands. -/
theorem spoken_block {block : Node} {tag : String} {cs : List Node}
    (h : block.block? = some (tag, cs)) (hcs : ∀ n ∈ cs, n.Phrase) :
    ∃ ts, (∀ targets s, (node targets block).run s = ([.plain tag ts], s))
      ∧ Says isLocal (Node.rowNodes true cs) ts := by
  obtain ⟨ts, hrun, hsays⟩ := spoken_row fun n hn => spoken_of_phrase (hcs n hn)
  refine ⟨ts, fun targets s => ?_, hsays⟩
  rw [node_block h, StateT.run_bind, hrun]
  rfl

/-! ## Documents -/

/-- Rows are converted one after the other. -/
theorem row_append_run (targets : Dict (String × Option String)) (before after : List Node) :
    ∀ s, (row targets (before ++ after)).run s
      = (((row targets before).run s).1
          ++ ((row targets after).run ((row targets before).run s).2).1,
        ((row targets after).run ((row targets before).run s).2).2) := by
  induction before with
  | nil => exact fun s => rfl
  | cons n rest ih =>
      intro s
      have hcons : ∀ cs : List Node, (row targets (n :: cs)).run s
          = (((node targets n).run s).1 ++ ((row targets cs).run ((node targets n).run s).2).1,
            ((row targets cs).run ((node targets n).run s).2).2) := fun _ => rfl
      rw [List.cons_append, hcons, hcons, ih, List.append_assoc]

/-- A document is converted to its blocks on lines of their own, with the footnotes after them. -/
theorem body_root_run (defs : Definitions) (cs : List Node) (s : State) :
    ∃ notes, ((body defs (.root cs)).run s).1
      = joinLines ((row defs.targets cs).run s).1 ++ notes := by
  rw [body_eq, StateT.run_bind]
  show ∃ notes, (StateT.run (endSection defs >>= _) ((row defs.targets cs).run s).2).1 = _
  rw [StateT.run_bind]
  generalize (endSection defs).run ((row defs.targets cs).run s).2 = ended
  obtain ⟨_ | last, s'⟩ := ended
  · exact ⟨[], (List.append_nil _).symm⟩
  · exact ⟨_, rfl⟩

/-- The line feeds between blocks are layout. -/
theorem wireRow_joinLines (ts : List Tree) :
    wireRow isLocal (joinLines ts) = wireRow isLocal ts := by
  have hnewline : wireRow isLocal [newline] = [] := rfl
  induction ts with
  | nil => rfl
  | cons t ts ih =>
      cases ts with
      | nil => rfl
      | cons u us =>
          rw [joinLines, ← List.singleton_append, ← List.singleton_append (l := joinLines _),
            wireRow_append, wireRow_append, hnewline, ih, List.nil_append, ← wireRow_append,
            List.singleton_append]
          exact fun h => List.cons_ne_nil _ _ h

/-- The test for local files of the default settings. -/
def defaultLocal : String → Bool :=
  Pass.startsWithAny [".", "@"]

/-- The root of a document has the row of its children on the wire. -/
theorem lower_root (ts : List Tree) (frontmatter : Option (Dict Json)) :
    (Wire.lower (fun _ => none) Tag.defaultPrefix
        ((Compiler.ofConfig {}).pipeline.run { name := "div", children := ts }).root
        frontmatter).document
      = { tree := .element "html.div" [] (wireRow defaultLocal ts)
          frontmatter := frontmatter.filter fun map => !map.isEmpty } := by
  have hdiv : markedName Tag.defaultPrefix "div" = "html.div" := by decide
  have hrow : wireRow defaultLocal [.element "div" [] ts]
      = [.element "html.div" [] (wireRow defaultLocal ts)] := by
    rw [wireRow_element (by decide), deferAssets_nil, hdiv]
    rfl
  have hpipeline : (Compiler.ofConfig {}).pipeline
      = .new Tag.defaultPrefix (Pass.localAssets Tag.defaultPrefix defaultLocal) := rfl
  rw [Wire.lower, hpipeline, pipeline_finished]
  exact congrArg (fun tree => ({ tree := tree, frontmatter := _ } : Wire.Document))
    (List.cons.inj hrow).1

/-- The wire nodes for the blocks at the head of a document. -/
def wireBefore (document : Node) (before : List Node) : List Wire.Node :=
  wireRow defaultLocal ((row (Definitions.collect {} document).targets before).run {}).1

/-- The blocks of a document have their places on the wire: what is before a block, the block, and
what is after it. -/
theorem wireRow_convert {block : Node} {t : Tree}
    (h : ∀ targets s, (node targets block).run s = ([t], s)) (before after : List Node) :
    ∃ later, wireRow defaultLocal (convert (.root (before ++ block :: after))).root.children
      = wireBefore (.root (before ++ block :: after)) before
        ++ (wireRow defaultLocal [t] ++ later) := by
  rw [wireBefore]
  generalize hdefs : Definitions.collect {} (.root (before ++ block :: after)) = defs
  obtain ⟨notes, hbody⟩ := body_root_run defs (before ++ block :: after) {}
  have hchildren : (convert (.root (before ++ block :: after))).root.children
      = ((body defs (.root (before ++ block :: after))).run {}).1 := by
    rw [← hdefs]
    rfl
  -- The blocks before may have numbered footnotes; the block passes that state on as it is.
  have hblock : ∀ s, (row defs.targets (block :: after)).run s
      = (t :: ((row defs.targets after).run s).1, ((row defs.targets after).run s).2) := by
    intro s
    rw [row, StateT.run_bind, h]
    rfl
  rw [hchildren, hbody, wireRow_append, wireRow_joinLines, row_append_run, hblock, wireRow_append,
    ← List.singleton_append, wireRow_append, List.append_assoc, List.append_assoc]
  exact ⟨_, rfl⟩

end Convert

open Markdown (Node)

open Mdx.Convert (defaultLocal markedName wireRow wireBefore)

/-- When a paragraph or a heading keeps its words. Wherever it stands, it is converted to the same
element, and compiled as a block of a document, that element has the text of the phrasing content
up to white space exactly unless a text that is taken for layout is all that keeps two words
apart. -/
theorem compileWire_keepsWords {passes : List DocumentPass} {source path : String}
    {parsed document block : Node} {frontmatter : Option (Dict Json)} {before after : List Node}
    {tag : String} {cs : List Node}
    (hread : (Compiler.default passes).read source path = .ok parsed)
    (hpasses : Compiler.runDocumentPasses path passes parsed = .ok document)
    (hresult : (Frontmatter.extract document).result = .ok frontmatter)
    (hdocument : (Frontmatter.extract document).document = .root (before ++ block :: after))
    (hblock : block.block? = some (tag, cs)) (hcs : ∀ n ∈ cs, n.Phrase) :
    ∃ ts, (∀ targets s, (Convert.node targets block).run s = ([.plain tag ts], s))
      ∧ (∃ later, ((Compiler.default passes).compileWire source path).outcome.1
        = .ok
          { tree := .element "html.div" []
              (wireBefore (.root (before ++ block :: after)) before
                ++ .element (markedName Tag.defaultPrefix tag) [] (wireRow defaultLocal ts)
                  :: later)
            frontmatter := frontmatter.filter fun map => !map.isEmpty })
      ∧ (Text.collapse (Wire.Node.contents (wireRow defaultLocal ts))
          = Text.collapse (String.join ((Node.rowNodes true cs).filterMap Node.textValue?))
        ↔ ¬ Text.Joins Node.chars Node.isLayout (Node.rowNodes true cs)) := by
  obtain ⟨ts, hnode, hsays⟩ := Convert.spoken_block hblock hcs
  obtain ⟨later, hrow⟩ := Convert.wireRow_convert hnode before after
  have houtcome := Compiler.outcome_compileWire hread hpasses hresult rfl
  have hlower := Convert.lower_root (convert (.root (before ++ block :: after))).root.children
    frontmatter
  rw [Tree.plain, Convert.wireRow_element (Convert.isFlowing_block hblock),
    Convert.deferAssets_nil, List.singleton_append] at hrow
  rw [hrow] at hlower
  rw [hdocument] at houtcome
  refine ⟨ts, hnode, ⟨later, houtcome.trans (congrArg Except.ok hlower)⟩, ?_⟩
  rw [Text.collapse_eq_iff, hsays, Node.toList_join_values]
  exact Text.words_kept_iff Node.chars_of_isLayout _

/-- A line break in front of code that begins with a space, which keeps the words apart. -/
def spacedBreak : List Node :=
  [.emphasis [.text "a"], .text "\n", .inlineCode " b"]

/-- A document with `spacedBreak` as a heading between paragraphs. -/
def spacedDocument : Node :=
  .root [.paragraph [.text "x"], .heading 1 spacedBreak, .paragraph [.text "y"]]

/-- Reading ended with `spacedDocument`. -/
def isSpacedDocument : Except CompileError Node → Bool
  | .ok (.root [.paragraph [.text "x"],
      .heading 1 [.emphasis [.text "a"], .text "\n", .inlineCode " b"],
      .paragraph [.text "y"]]) => true
  | _ => false

theorem compileWire_keepsWords_spaced :
    (Compiler.default []).read "x\n\n*a*\n\x60 b\x60\n===\ny" "d.md" = .ok spacedDocument
      ∧ Compiler.runDocumentPasses "d.md" [] spacedDocument = .ok spacedDocument
      ∧ (Frontmatter.extract spacedDocument).result = .ok none
      ∧ (Frontmatter.extract spacedDocument).document
        = .root ([.paragraph [.text "x"]] ++ .heading 1 spacedBreak :: [.paragraph [.text "y"]])
      ∧ (Node.heading 1 spacedBreak).block? = some ("h1", spacedBreak)
      ∧ (∀ n ∈ spacedBreak, n.Phrase)
      ∧ ∃ ws later,
        ((Compiler.default []).compileWire "x\n\n*a*\n\x60 b\x60\n===\ny" "d.md").outcome.1
          = .ok
            { tree := .element "html.div" []
                (.element "html.p" [] [.text "x"] :: .element "html.h1" [] ws :: later)
              frontmatter := none }
        ∧ Text.collapse (Wire.Node.contents ws) = "a b" := by
  have hread : (Compiler.default []).read "x\n\n*a*\n\x60 b\x60\n===\ny" "d.md"
      = .ok spacedDocument := by
    have hshape : isSpacedDocument
        ((Compiler.default []).read "x\n\n*a*\n\x60 b\x60\n===\ny" "d.md") = true := by
      decide +kernel
    rw [isSpacedDocument.eq_def] at hshape
    split at hshape
    · assumption
    · cases hshape
  have hphrases : ∀ n ∈ spacedBreak, n.Phrase := by
    simp only [spacedBreak, List.forall_mem_cons]
    exact ⟨.emphasis (by simpa using .text "a"), .text "\n", .inlineCode " b", by simp⟩
  have hapart : ¬ Text.Joins Node.chars Node.isLayout (Node.rowNodes true spacedBreak) :=
    (Text.words_kept_iff Node.chars_of_isLayout _).mp (by decide)
  have hvalues : Text.collapse
      (String.join ((Node.rowNodes true spacedBreak).filterMap Node.textValue?)) = "a b" := by
    decide
  have hpasses : Compiler.runDocumentPasses "d.md" [] spacedDocument = .ok spacedDocument := rfl
  have hresult : (Frontmatter.extract spacedDocument).result = .ok none := rfl
  have hdocument : (Frontmatter.extract spacedDocument).document
      = .root ([.paragraph [.text "x"]] ++ .heading 1 spacedBreak :: [.paragraph [.text "y"]]) :=
    rfl
  have hblock : (Node.heading 1 spacedBreak).block? = some ("h1", spacedBreak) := rfl
  obtain ⟨ts, -, ⟨later, houtcome⟩, hwords⟩ :=
    compileWire_keepsWords hread hpasses hresult hdocument hblock hphrases
  exact ⟨hread, hpasses, hresult, hdocument, hblock, hphrases, _, later, houtcome,
    (hwords.mpr hapart).trans hvalues⟩

/-- A line break between two words with markup of their own. -/
def softBreak : List Node :=
  [.emphasis [.text "a"], .text "\n", .emphasis [.text "b"]]

/-- Reading ended with `softBreak` as the only paragraph. -/
def isSoftBreak : Except CompileError Node → Bool
  | .ok (.root [.paragraph [.emphasis [.text "a"], .text "\n", .emphasis [.text "b"]]]) => true
  | _ => false

/-- The line break is taken for layout, and the words on both sides of it become one. -/
theorem compileWire_joins_softBreak :
    (Compiler.default []).read "*a*\n*b*" "d.md" = .ok (.root [.paragraph softBreak])
      ∧ (∀ n ∈ softBreak, n.Phrase)
      ∧ ∃ ws, ((Compiler.default []).compileWire "*a*\n*b*" "d.md").outcome.1
          = .ok
            { tree := .element "html.div" [] [.element "html.p" [] ws]
              frontmatter := none }
        ∧ Text.collapse (Wire.Node.contents ws) = "ab"
        ∧ Text.collapse (String.join ((Node.rowNodes true softBreak).filterMap Node.textValue?))
          = "a b" := by
  have hphrases : ∀ n ∈ softBreak, n.Phrase := by
    simp only [softBreak, List.forall_mem_cons]
    exact ⟨.emphasis (by simpa using .text "a"), .text "\n",
      .emphasis (by simpa using .text "b"), by simp⟩
  have hread : (Compiler.default []).read "*a*\n*b*" "d.md"
      = .ok (.root [.paragraph softBreak]) := by
    have hshape : isSoftBreak ((Compiler.default []).read "*a*\n*b*" "d.md") = true := by
      decide +kernel
    rw [isSoftBreak.eq_def] at hshape
    split at hshape
    · assumption
    · cases hshape
  have hresult : (Frontmatter.extract (.root [.paragraph softBreak])).result = .ok none := rfl
  have houtcome := Compiler.outcome_compileWire hread rfl hresult rfl
  refine ⟨hread, hphrases, [.element "html.em" [] [.text "a"], .element "html.em" [] [.text "b"]],
    houtcome.trans ?_, by decide, by decide⟩
  rfl

end Mdx
