import Mdx.Proofs.Module.Grammar
import Mdx.Proofs.Module.Layout

/-!
# The default export of a module

A module has one default export: the function that shows the document. A default export of the
document's own is the layout, and has to become a binding.

* `exportsDefault`, which reads from the words of a statement whether it exports a default, over
  comments, line ends and the several forms there are;
* `Site.Caught`, the default exports that become the layout;
* `text_oneDefault_iff`, the main statement: the module has one default export exactly if every
  default export of the document, cut into its statements, is caught.
-/

namespace Mdx.Module

open Text

/-! ## Statements that export a default -/

-- Words of the host language as characters, so that they can be compared without decoding a string.

def exportWord : List Char := ['e', 'x', 'p', 'o', 'r', 't']

def defaultWord : List Char := ['d', 'e', 'f', 'a', 'u', 'l', 't']

def asWord : List Char := ['a', 's']

def constWord : List Char := ['c', 'o', 'n', 's', 't']

def layoutWord : List Char := ['M', 'D', 'X', 'L', 'a', 'y', 'o', 'u', 't']

/-- What the first words of a statement tell. -/
inductive Lead where
  /-- Nothing yet. -/
  | start
  /-- It exports something. -/
  | exported
  /-- It exports a list, and an item is to come; `found` says that `default` is among the names. -/
  | item (found : Bool)
  /-- It exports a list, and a name was read, which may be `default` itself (`last`). -/
  | named (found last : Bool)
  /-- It exports a list, and a new name is to come. -/
  | itemAs (found : Bool)
  /-- It exports a list, and a new name was read. -/
  | renamed (found : Bool)
  /-- It exports a whole module. -/
  | whole
  /-- It exports a whole module, and a name is to come. -/
  | wholeAs
  /-- It exports a default or not, whatever follows. -/
  | settled (found : Bool)
  deriving DecidableEq

namespace Lead

/-- A word of the statement; no characters are no word. -/
def word (lead : Lead) (chars : List Char) : Lead :=
  if chars = [] then lead
  else
    match lead with
    | start => if chars = exportWord then exported else settled false
    | exported => settled (chars = defaultWord)
    | item found => named found (chars = defaultWord)
    | named found _ => if chars = asWord then itemAs found else settled false
    | itemAs found => renamed (found || chars = defaultWord)
    | renamed _ => settled false
    | whole => if chars = asWord then wholeAs else settled false
    | wholeAs => settled (chars = defaultWord)
    | settled found => settled found

/-- A character of the statement that is not in a word. -/
def mark (lead : Lead) (c : Char) : Lead :=
  match lead with
  | start => if c = ';' then start else settled false
  | exported => if c = '\x7b' then item false else if c = '*' then whole else settled false
  | item found => settled (found && c = '\x7d')
  | named found last =>
    if c = ',' then item (found || last) else settled ((found || last) && c = '\x7d')
  | renamed found => if c = ',' then item found else settled (found && c = '\x7d')
  | itemAs _ | whole | wholeAs => settled false
  | settled found => settled found

@[simp] theorem word_nil (lead : Lead) : lead.word [] = lead := rfl

@[simp] theorem word_settled (found : Bool) (chars : List Char) :
    (settled found).word chars = settled found := by
  simp [word]

@[simp] theorem mark_settled (found : Bool) (c : Char) :
    (settled found).mark c = settled found := rfl

/-- Once a statement has begun, the words of a default export and those of a binding both settle it,
and in the same way. -/
theorem word_default_eq_binding {lead : Lead} (h : lead ≠ start) :
    (lead.word exportWord).word defaultWord
      = ((lead.word constWord).word layoutWord).mark '=' := by
  cases lead with
  | start => exact absurd rfl h
  | exported | item | named | itemAs | renamed | whole | wholeAs | settled => rfl

end Lead

/-- Where a reader of a statement is. -/
inductive Place where
  /-- In the code, after the characters of a word. -/
  | code (chars : List Char)
  /-- After a slash, which may open a comment. -/
  | slash
  | lineComment
  | blockComment
  /-- After a star in a block comment. -/
  | star
  deriving DecidableEq

/-- What a reader of a statement knows. -/
structure Reading where
  place : Place := .code []
  lead : Lead := .start
  deriving DecidableEq

/-- The character ends a line of code. -/
def isLineEnd (c : Char) : Bool :=
  c = '\n' || c = '\r' || c = '\u2028' || c = '\u2029'

namespace Reading

/-- Reads a character of code. -/
def stepCode (lead : Lead) (chars : List Char) (c : Char) : Reading :=
  if isNameChar c then ⟨.code (chars ++ [c]), lead⟩
  else if isBlank c then ⟨.code [], lead.word chars⟩
  else if c = '/' then ⟨.slash, lead.word chars⟩
  else ⟨.code [], (lead.word chars).mark c⟩

def step (r : Reading) (c : Char) : Reading :=
  match r.place with
  | .code chars => stepCode r.lead chars c
  | .slash =>
    if c = '/' then ⟨.lineComment, r.lead⟩
    else if c = '*' then ⟨.blockComment, r.lead⟩
    else stepCode (r.lead.mark '/') [] c
  | .lineComment => if isLineEnd c then ⟨.code [], r.lead⟩ else r
  | .blockComment => if c = '*' then ⟨.star, r.lead⟩ else r
  | .star =>
    if c = '/' then ⟨.code [], r.lead⟩
    else if c = '*' then r
    else ⟨.blockComment, r.lead⟩

def run (r : Reading) (s : List Char) : Reading :=
  s.foldl step r

theorem run_append (r : Reading) (s t : List Char) : r.run (s ++ t) = (r.run s).run t :=
  List.foldl_append

theorem run_cons (r : Reading) (c : Char) (s : List Char) : r.run (c :: s) = (r.step c).run s := rfl

theorem lead_stepCode (found : Bool) (chars : List Char) (c : Char) :
    (stepCode (.settled found) chars c).lead = .settled found := by
  rw [stepCode]
  split
  · rfl
  · split
    · simp
    · split <;> simp

/-- A settled reading stays so. -/
theorem lead_step {r : Reading} {found : Bool} (h : r.lead = .settled found) (c : Char) :
    (r.step c).lead = .settled found := by
  obtain ⟨place, lead⟩ := r
  subst h
  cases place with
  | code chars => exact lead_stepCode found chars c
  | slash =>
      simp only [step, Lead.mark_settled]
      split
      · rfl
      · split
        · rfl
        · exact lead_stepCode found [] c
  | lineComment => simp only [step]; split <;> rfl
  | blockComment => simp only [step]; split <;> rfl
  | star =>
      simp only [step]
      split
      · rfl
      · split <;> rfl

theorem lead_run {r : Reading} {found : Bool} (h : r.lead = .settled found) (s : List Char) :
    (r.run s).lead = .settled found := by
  induction s generalizing r with
  | nil => exact h
  | cons c s ih => exact ih (lead_step h c)

/-! ### Line ends -/

theorem stepCode_feed (lead : Lead) (chars : List Char) :
    stepCode lead chars '\n' = ⟨.code [], lead.word chars⟩ := by
  rw [stepCode, if_neg (by decide), if_pos (by decide)]

theorem stepCode_return (lead : Lead) (chars : List Char) :
    stepCode lead chars '\r' = ⟨.code [], lead.word chars⟩ := by
  rw [stepCode, if_neg (by decide), if_pos (by decide)]

/-- A carriage return before a line feed is not noticed. -/
theorem step_return_feed (r : Reading) : (r.step '\r').step '\n' = r.step '\n' := by
  obtain ⟨place, lead⟩ := r
  cases place <;>
    simp [step, stepCode_feed, stepCode_return, isLineEnd]

theorem run_reline (r : Reading) (s : List Char) : r.run (reline s) = r.run s := by
  induction s generalizing r with
  | nil => rfl
  | cons c s ih =>
      rw [reline]
      split
      · rename_i hreturn
        obtain ⟨rfl, hfeed⟩ := hreturn
        obtain ⟨s, rfl⟩ := List.head?_eq_some_iff.mp hfeed
        rw [ih, run_cons, run_cons, run_cons, step_return_feed]
      · exact ih (r.step c)

/-- At the start of a line a reader is in the code or in a block comment. -/
def AtStart (r : Reading) : Prop :=
  r.place = .code [] ∨ r.place = .blockComment

theorem atStart_feed (r : Reading) : (r.step '\n').AtStart := by
  obtain ⟨place, lead⟩ := r
  cases place <;> simp [AtStart, step, stepCode_feed, isLineEnd]

theorem atStart_run {s : List Char} (h : AtLine s) : (run {} s).AtStart := by
  rcases h with rfl | h
  · exact .inl rfl
  · obtain ⟨t, rfl⟩ := List.getLast?_eq_some_iff.mp h
    rw [run_append]
    exact atStart_feed _

theorem run_indent {r : Reading} (h : r.AtStart) {ws : List Char}
    (hws : ∀ c ∈ ws, isIndent c = true) : r.run ws = r := by
  induction ws with
  | nil => rfl
  | cons c ws ih =>
      obtain ⟨hc, hws⟩ := List.forall_mem_cons.mp hws
      have hblank : isBlank c = true := (Bool.and_eq_true_iff.mp hc).1
      have hstep : r.step c = r := by
        obtain ⟨place, lead⟩ := r
        rcases h with rfl | rfl
        · simp [step, stepCode, isNameChar_blank hblank, hblank]
        · have hstar : c ≠ '*' := by rintro rfl; exact absurd hblank (by decide)
          simp [step, hstar]
      rw [run_cons, hstep]
      exact ih hws

/-! ### The words of a default export and of a binding -/

theorem run_word {w : List Char} (h : ∀ c ∈ w, isNameChar c = true) (chars : List Char)
    (lead : Lead) : run ⟨.code chars, lead⟩ w = ⟨.code (chars ++ w), lead⟩ := by
  induction w generalizing chars with
  | nil => rw [List.append_nil]; rfl
  | cons c w ih =>
      obtain ⟨hc, hw⟩ := List.forall_mem_cons.mp h
      have hstep : step ⟨.code chars, lead⟩ c = ⟨.code (chars ++ [c]), lead⟩ := if_pos hc
      rw [run_cons, hstep, ih hw, List.append_assoc, List.singleton_append]

/-- A word is read, and the space after it. -/
theorem run_word_space {w : List Char} (h : ∀ c ∈ w, isNameChar c = true) (lead : Lead)
    (s : List Char) :
    run ⟨.code [], lead⟩ (w ++ ' ' :: s) = run ⟨.code [], lead.word w⟩ s := by
  have hspace : step ⟨.code w, lead⟩ ' ' = ⟨.code [], lead.word w⟩ := by
    simp [step, stepCode, isNameChar_space, isBlank]
  rw [run_append, run_word h, run_cons, List.nil_append, hspace]

theorem run_comment {s : List Char} (h : '*' ∉ s) (lead : Lead) :
    run ⟨.blockComment, lead⟩ s = ⟨.blockComment, lead⟩ := by
  induction s with
  | nil => rfl
  | cons c s ih =>
      have hc : c ≠ '*' := (List.ne_of_not_mem_cons h).symm
      have hs : '*' ∉ s := List.not_mem_of_not_mem_cons h
      have hstep : step ⟨.blockComment, lead⟩ c = ⟨.blockComment, lead⟩ := if_neg hc
      rw [run_cons, hstep, ih hs]

theorem run_exportDefault (lead : Lead) :
    run ⟨.code [], lead⟩ exportDefault = ⟨.code [], (lead.word exportWord).word defaultWord⟩ := by
  have hwords : exportDefault = exportWord ++ ' ' :: (defaultWord ++ [' ']) := by decide
  rw [hwords, run_word_space (forall_of_all (by decide)),
    run_word_space (forall_of_all (by decide))]
  rfl

theorem run_layoutBinding (lead : Lead) :
    run ⟨.code [], lead⟩ layoutBinding
      = ⟨.code [], ((lead.word constWord).word layoutWord).mark '='⟩ := by
  have hwords : layoutBinding = constWord ++ ' ' :: (layoutWord ++ ' ' :: ['=', ' ']) := by decide
  rw [hwords, run_word_space (forall_of_all (by decide)),
    run_word_space (forall_of_all (by decide))]
  rfl

/-- The words of a default export at the start of a line can be replaced by those of a binding,
unless nothing stands before them. -/
theorem run_binding {r : Reading} (h : r.AtStart) (hne : r ≠ {}) :
    r.run layoutBinding = r.run exportDefault := by
  obtain ⟨place, lead⟩ := r
  rcases h with rfl | rfl
  · have hlead : lead ≠ .start := by rintro rfl; exact hne rfl
    rw [run_layoutBinding, run_exportDefault, Lead.word_default_eq_binding hlead]
  · rw [run_comment (by decide), run_comment (by decide)]

end Reading

/-- The statement exports a default. -/
def exportsDefault (s : List Char) : Bool :=
  (Reading.run {} (s ++ ['\n'])).lead = .settled true

example :
    ["export default L", "/* * */ export // a\n default(L)", "export {a, L as default}",
      "export {default} from 'l'", "export * as default from 'l'"].all
        (fun s => exportsDefault s.toList) = true := by
  decide +kernel

example :
    ["export const d = 'export default L'", "// export default L", "export {default as L} from 'l'",
      "import L from 'l'", "export {a, b}", "exports default L"].any
        (fun s => exportsDefault s.toList) = false := by
  decide +kernel

/-- Nothing but white space, comments and semicolons. -/
def IsTrivia (s : List Char) : Prop :=
  Reading.run {} s = {}

instance (s : List Char) : Decidable (IsTrivia s) :=
  inferInstanceAs (Decidable (_ = _))

theorem exportsDefault_congr {s t : List Char} (h : Reading.run {} s = Reading.run {} t) :
    exportsDefault s = exportsDefault t := by
  rw [exportsDefault, exportsDefault, Reading.run_append, Reading.run_append, h]

/-- What the first words settle holds of the statement. -/
theorem exportsDefault_append {s : List Char} {found : Bool}
    (h : (Reading.run {} s).lead = .settled found) (t : List Char) :
    exportsDefault (s ++ t) = found := by
  rw [exportsDefault, List.append_assoc, Reading.run_append, Reading.lead_run h]
  cases found <;> rfl

theorem exportsDefault_reline (s : List Char) : exportsDefault (reline s) = exportsDefault s :=
  exportsDefault_congr (Reading.run_reline {} s)

theorem exportsDefault_binding {before : List Char} (h : IsTrivia before) (value : List Char) :
    exportsDefault (reline before ++ (layoutBinding ++ value)) = false := by
  rw [← List.append_assoc]
  refine exportsDefault_append ?_ value
  rw [Reading.run_append, Reading.run_reline, h, Reading.run_layoutBinding]
  rfl

/-! ## What becomes of a statement -/

/-- Binding the layout keeps whether a statement exports a default, apart from the default export
that is bound. -/
theorem exportsDefault_bindText (found fresh : Bool) (s : List Char) :
    (∃ before value, found = false ∧ cutDefault? fresh s = some (before, value) ∧ IsTrivia before)
      ∨ exportsDefault (bindText found fresh s) = exportsDefault s := by
  cases found with
  | true => exact .inr (exportsDefault_reline s)
  | false =>
      cases hcut : cutDefault? fresh s with
      | none =>
          rw [bindText_none hcut]
          exact .inr (exportsDefault_reline s)
      | some cut =>
          obtain ⟨before, value⟩ := cut
          by_cases htrivia : IsTrivia before
          · exact .inl ⟨before, value, rfl, rfl, htrivia⟩
          · refine .inr ?_
            obtain ⟨hfresh, ws, hws, rfl⟩ := cutDefault?_eq_some hcut
            have hline : AtLine before := by
              rcases List.eq_nil_or_concat before with rfl | ⟨t, c, rfl⟩
              · exact .inl rfl
              · exact .inr (by simpa [freshAfter] using hfresh)
            have hstart := Reading.atStart_run hline
            rw [bindText_some hcut]
            refine exportsDefault_congr ?_
            rw [Reading.run_append, Reading.run_append, Reading.run_reline, Reading.run_reline,
              Reading.run_binding hstart htrivia, Reading.run_append, Reading.run_append,
              Reading.run_append, Reading.run_indent hstart hws]

namespace Site

variable {σ : Site}

/-- The statement is the default export that becomes the layout: it has the first line of the
document that begins with `export default `, after nothing but comments and semicolons. -/
def Caught (σ : Site) : Prop :=
  (∀ s ∈ σ.before, NoDefaultLine s)
    ∧ ∃ before value, DefaultLine (σ.prior ++ σ.statement) (σ.prior ++ before) value
      ∧ NoDefaultLine (σ.prior ++ before) ∧ IsTrivia before

/-- The default that the statement exports is bound as the layout in the module. -/
def Bound (σ : Site) : Prop :=
  ∃ before ws value, IsTrivia before ∧ (∀ c ∈ ws, isIndent c = true)
    ∧ σ.statement = before ++ (ws ++ (exportDefault ++ value))
    ∧ σ.image = reline before ++ (layoutBinding ++ reline value)

theorem caught_iff (h : Ended σ.prior) :
    σ.Caught ↔ ∃ before value, anyDefault (σ.before ++ [σ.prior]) = false
      ∧ cutDefault? (freshAfter true σ.prior) σ.statement = some (before, value)
      ∧ IsTrivia before := by
  constructor
  · rintro ⟨hbefore, before, value, hline, hnone, htrivia⟩
    have hprior : cutDefault? true σ.prior = none := by
      have hcut := cutDefault?_eq_none_iff.mpr hnone
      rw [cutDefault?_append h] at hcut
      split at hcut
      · cases hcut
      · assumption
    have hwhole := cutDefault?_eq_some_iff.mpr ⟨hline, hnone⟩
    rw [cutDefault?_append h, hprior] at hwhole
    obtain ⟨cut, hcut, heq⟩ := Option.map_eq_some_iff.mp hwhole
    obtain ⟨hleft, hright⟩ := Prod.mk.inj heq
    obtain rfl : cut = (before, value) := Prod.ext (List.append_cancel_left hleft) hright
    refine ⟨before, value, anyDefault_eq_false.mpr fun s hs => ?_, hcut, htrivia⟩
    rcases List.mem_append.mp hs with hs | hs
    · exact hbefore s hs
    · rw [List.mem_singleton.mp hs]
      exact cutDefault?_eq_none_iff.mp hprior
  · rintro ⟨before, value, hany, hcut, htrivia⟩
    have hnone := anyDefault_eq_false.mp hany
    have hprior := cutDefault?_eq_none_iff.mpr (hnone σ.prior (by simp))
    have hwhole : cutDefault? true (σ.prior ++ σ.statement) = some (σ.prior ++ before, value) := by
      rw [cutDefault?_append h, hprior, hcut]
      rfl
    obtain ⟨hline, habove⟩ := cutDefault?_eq_some_iff.mp hwhole
    exact ⟨fun s hs => hnone s (by simp [hs]), before, value, hline, habove, htrivia⟩

theorem Caught.bound (h : Ended σ.prior) (hcaught : σ.Caught) :
    σ.Bound ∧ exportsDefault σ.image = false := by
  obtain ⟨before, value, hany, hcut, htrivia⟩ := (caught_iff h).mp hcaught
  obtain ⟨-, ws, hws, hstatement⟩ := cutDefault?_eq_some hcut
  have himage : σ.image = reline before ++ (layoutBinding ++ reline value) := by
    rw [image, hany, bindText_some hcut]
  refine ⟨⟨before, ws, value, htrivia, hws, hstatement, himage⟩, ?_⟩
  rw [himage]
  exact exportsDefault_binding htrivia (reline value)

theorem exportsDefault_image (h : Ended σ.prior) :
    σ.Caught ∨ exportsDefault σ.image = exportsDefault σ.statement := by
  rw [caught_iff h]
  exact exportsDefault_bindText _ _ _

end Site

/-! ## The statements of a module -/

/-- Lines as they stand in a module. -/
def written (ls : List String) : List Char :=
  typeset (ls.map String.toList)

theorem written_append (ls more : List String) :
    written (ls ++ more) = written ls ++ written more := by
  simp [written, typeset]

theorem toList_join_lines (ls : List String) :
    (String.join (ls.map (· ++ "\n"))).toList = written ls := by
  simp [written, typeset, String.toList_join, List.flatMap_map]

theorem written_ofList (texts : List (List Char)) :
    written (texts.map String.ofList) = typeset texts := by
  simp [written, Function.comp_def]

theorem flatten_written (ls : List String) :
    (ls.map fun line => written [line]).flatten = written ls := by
  induction ls with
  | nil => rfl
  | cons line ls ih =>
      rw [List.map_cons, List.flatten_cons, ih, ← written_append, List.singleton_append]

/-- The document's own default export is the layout. -/
def hasLayout (blocks : List (List (List Char))) : Bool :=
  (bindLayouts false (blocks.map List.flatten)).1

/-- The statements of the module of a document whose blocks have the given statements: the imports,
the document's own statements, the metadata, the look-ups of components, the function that builds
the tree, and the default export. -/
def moduleStatements (options : Options) (root : Element) (frontmatter : Option (Dict Json))
    (blocks : List (List (List Char))) : List (List Char) :=
  (importLines options).map (fun line => written [line])
    ++ imagesFrom [] blocks
    ++ [ written [frontmatterLine frontmatter],
        written (lookupLines.take 7), written (lookupLines.drop 7),
        written (contentLines (expression options.tagPrefix root
          (bindLayouts false (blocks.map List.flatten)).2)) ]
    ++ [written (exportLines (hasLayout blocks))]

theorem toList_text (options : Options) (root : Element) (frontmatter : Option (Dict Json))
    {blocks : List (List (List Char))}
    (h : ∀ block ∈ blocks, ∀ s ∈ block.dropLast, Complete s) :
    (text options root frontmatter (blocks.map fun block => String.ofList block.flatten)).toList
      = (moduleStatements options root frontmatter blocks).flatten := by
  have hesm : (blocks.map fun block => String.ofList block.flatten).map String.toList
      = blocks.map List.flatten := by
    simp [Function.comp_def]
  have himages : typeset (bindLayouts false (blocks.map List.flatten)).2
      = (imagesFrom [] blocks).flatten := typeset_bindLayouts [] h
  have hlookup : written (lookupLines.take 7) ++ written (lookupLines.drop 7)
      = written lookupLines := by
    rw [← written_append, List.take_append_drop]
  rw [text, hesm, toList_join_lines, moduleStatements]
  simp only [written_append, List.flatten_append, flatten_written, written_ofList, himages,
    List.flatten_cons, List.flatten_nil, List.append_nil, List.append_assoc, ← hlookup, hasLayout]

/-- The module has one default export, its own, and the document's default export is its layout.
This is told of the pieces into which `blocks` cuts the document's blocks, each by how it begins
(`exportsDefault`). The pieces have to be the statements of the blocks: a default export behind
another statement of its piece is not seen. -/
structure OneDefault (options : Options) (root : Element) (frontmatter : Option (Dict Json))
    (blocks : List (List (List Char))) : Prop where
  single : (moduleStatements options root frontmatter blocks).filter exportsDefault
    = [written (exportLines (hasLayout blocks))]
  bound : ∀ σ ∈ sitesFrom [] blocks, exportsDefault σ.statement = true →
    σ.Bound ∧ hasLayout blocks = true

/-! ## Generated statements -/

theorem written_cons (line : String) (ls : List String) :
    written (line :: ls) = line.toList ++ '\n' :: written ls := by
  rw [written, List.map_cons, typeset_cons, written]

theorem exportsDefault_written {start : String} {found : Bool}
    (h : (Reading.run {} start.toList).lead = .settled found) (rest ending : String)
    (ls : List String) : exportsDefault (written ((start ++ rest ++ ending) :: ls)) = found := by
  rw [written_cons, String.toList_append, String.toList_append, List.append_assoc,
    List.append_assoc]
  exact exportsDefault_append h _

theorem exportsDefault_written_line {line : String} {found : Bool}
    (h : (Reading.run {} line.toList).lead = .settled found) (ls : List String) :
    exportsDefault (written (line :: ls)) = found := by
  rw [written_cons]
  exact exportsDefault_append h _

theorem filter_importLines (options : Options) :
    ((importLines options).map fun line => written [line]).filter exportsDefault = [] := by
  have huse : (Reading.run {} "import \x7buseMDXComponents\x7d from ".toList).lead
      = .settled false := by
    decide +kernel
  have hjsx : (Reading.run {}
      "import \x7bFragment as _Fragment, jsx as _jsx, jsxs as _jsxs\x7d from ".toList).lead
        = .settled false := by
    decide +kernel
  rw [List.filter_eq_nil_iff]
  intro t ht
  obtain ⟨line, hline, rfl⟩ := List.mem_map.mp ht
  rw [Bool.not_eq_true]
  rcases List.mem_cons.mp hline with rfl | hline
  · exact exportsDefault_written huse _ _ []
  · rw [List.mem_singleton.mp hline]
    exact exportsDefault_written hjsx _ _ []

/-- The default exports of a module are those of the document that are left, and its own. -/
theorem filter_moduleStatements (options : Options) (root : Element)
    (frontmatter : Option (Dict Json)) (blocks : List (List (List Char))) :
    (moduleStatements options root frontmatter blocks).filter exportsDefault
      = (imagesFrom [] blocks).filter exportsDefault
        ++ [written (exportLines (hasLayout blocks))] := by
  have hfrontmatter : exportsDefault (written [frontmatterLine frontmatter]) = false := by
    have hstart : (Reading.run {} "export const frontmatter = ".toList).lead = .settled false := by
      decide +kernel
    exact exportsDefault_written hstart _ _ []
  have hbuiltin : exportsDefault (written (lookupLines.take 7)) = false :=
    exportsDefault_written_line (by decide +kernel) _
  have hcustom : exportsDefault (written (lookupLines.drop 7)) = false :=
    exportsDefault_written_line (by decide +kernel) _
  have hcontent (tree : Expr) : exportsDefault (written (contentLines tree)) = false :=
    exportsDefault_written_line (by decide +kernel) _
  have hexport : exportsDefault (written (exportLines (hasLayout blocks))) = true :=
    exportsDefault_written_line (by decide +kernel) _
  rw [moduleStatements, List.filter_append, List.filter_append, List.filter_append,
    filter_importLines]
  simp [hfrontmatter, hbuiltin, hcustom, hcontent, hexport]

/-! ## The statements of a document -/

theorem forall_images {p : List Char → Prop} (hend : ∀ s, p (blockEnd s))
    (before : List (List Char)) (blocks : List (List (List Char))) :
    (∀ t ∈ imagesFrom before blocks, p t) ↔ ∀ σ ∈ sitesFrom before blocks, p σ.image := by
  induction blocks generalizing before with
  | nil => simp [imagesFrom, sitesFrom]
  | cons block blocks ih =>
      rw [imagesFrom, sitesFrom, List.forall_mem_append, List.forall_mem_append,
        List.forall_mem_cons, ih]
      simp [hend]

theorem mem_blockSites {before : List (List Char)} {prior : List Char} {ss : List (List Char)}
    {σ : Site} (hprior : Ended prior) (h : ∀ s ∈ ss.dropLast, Complete s)
    (hσ : σ ∈ blockSites before prior ss) :
    Ended σ.prior ∧ ∃ rest, prior ++ ss.flatten = σ.prior ++ σ.statement ++ rest := by
  induction ss generalizing prior with
  | nil => cases hσ
  | cons s rest ih =>
      rcases List.mem_cons.mp hσ with rfl | hσ
      · exact ⟨hprior, rest.flatten, by simp⟩
      · cases rest with
        | nil => cases hσ
        | cons next rest =>
            obtain ⟨hs, hrest⟩ := List.forall_mem_cons.mp h
            obtain ⟨hended, more, hmore⟩ := ih (hprior.append hs.ended) hrest hσ
            exact ⟨hended, more, by rw [← hmore]; simp⟩

/-- A statement stands in the text of a block, after what can no more become a default export. -/
theorem mem_sitesFrom {before : List (List Char)} {blocks : List (List (List Char))} {σ : Site}
    (h : ∀ block ∈ blocks, ∀ s ∈ block.dropLast, Complete s) (hσ : σ ∈ sitesFrom before blocks) :
    Ended σ.prior ∧ ∃ block ∈ blocks, ∃ rest, block.flatten = σ.prior ++ σ.statement ++ rest := by
  induction blocks generalizing before with
  | nil => cases hσ
  | cons block blocks ih =>
      obtain ⟨hblock, hblocks⟩ := List.forall_mem_cons.mp h
      rcases List.mem_append.mp hσ with hσ | hσ
      · obtain ⟨hended, hrest⟩ := mem_blockSites (.inl rfl) hblock hσ
        exact ⟨hended, block, by simp, hrest⟩
      · obtain ⟨hended, block, hmem, hrest⟩ := ih hblocks hσ
        exact ⟨hended, block, by simp [hmem], hrest⟩

theorem DefaultLine.append {s before value : List Char} (h : DefaultLine s before value)
    (t : List Char) : DefaultLine (s ++ t) before (value ++ t) := by
  obtain ⟨hline, ws, hws, rfl⟩ := h
  exact ⟨hline, ws, hws, by simp⟩

theorem hasLayout_of_caught {blocks : List (List (List Char))} {σ : Site}
    (h : ∀ block ∈ blocks, ∀ s ∈ block.dropLast, Complete s) (hσ : σ ∈ sitesFrom [] blocks)
    (hcaught : σ.Caught) : hasLayout blocks = true := by
  obtain ⟨-, block, hblock, rest, htext⟩ := mem_sitesFrom h hσ
  obtain ⟨-, before, value, hline, -⟩ := hcaught
  rw [hasLayout, bindLayouts_flag, Bool.false_or, ← Bool.not_eq_false]
  intro hnone
  have hblock := anyDefault_eq_false.mp hnone block.flatten (List.mem_map_of_mem hblock)
  rw [htext] at hblock
  exact hblock _ _ (hline.append rest)

/-! ## Main statement -/

theorem exportsDefault_blockEnd (s : List Char) : exportsDefault (blockEnd s) = false := by
  rw [blockEnd]
  split <;> decide

theorem single_iff (options : Options) (root : Element) (frontmatter : Option (Dict Json))
    (blocks : List (List (List Char))) :
    (moduleStatements options root frontmatter blocks).filter exportsDefault
        = [written (exportLines (hasLayout blocks))]
      ↔ ∀ σ ∈ sitesFrom [] blocks, exportsDefault σ.image = false := by
  have himages := forall_images (p := fun t => exportsDefault t = false) exportsDefault_blockEnd []
    blocks
  rw [filter_moduleStatements, ← himages, List.append_left_eq_self, List.filter_eq_nil_iff]
  simp

/-- The module of a document has one default export exactly if every default export of the document
is caught: it stands at the start of a line, is written `export default ` with one space between the
words and one after them, and no line above it in the blocks begins so. Otherwise there is another
default export beside that of the module. The equivalence holds for every cut of the blocks into
pieces that are complete but for the last of each block, and reads the pieces by their beginnings;
it is about the default exports of the document if the pieces are its statements. -/
theorem text_oneDefault_iff (options : Options) (root : Element) (frontmatter : Option (Dict Json))
    (blocks : List (List (List Char)))
    (h : ∀ block ∈ blocks, ∀ s ∈ block.dropLast, Complete s) :
    (text options root frontmatter (blocks.map fun block => String.ofList block.flatten)).toList
        = (moduleStatements options root frontmatter blocks).flatten
      ∧ (OneDefault options root frontmatter blocks
        ↔ ∀ σ ∈ sitesFrom [] blocks, exportsDefault σ.statement = true → σ.Caught) := by
  refine ⟨toList_text options root frontmatter h, fun hone σ hσ hdefault => ?_, fun hcaught => ?_⟩
  · have himage := (single_iff options root frontmatter blocks).mp hone.single σ hσ
    refine (Site.exportsDefault_image (mem_sitesFrom h hσ).1).resolve_right fun hsame => ?_
    rw [himage, hdefault] at hsame
    cases hsame
  · refine ⟨(single_iff options root frontmatter blocks).mpr fun σ hσ => ?_,
      fun σ hσ hdefault => ?_⟩
    · have hended := (mem_sitesFrom h hσ).1
      cases hdefault : exportsDefault σ.statement with
      | true => exact (Site.Caught.bound hended (hcaught σ hσ hdefault)).2
      | false =>
          rcases Site.exportsDefault_image hended with hcaught | hsame
          · exact (Site.Caught.bound hended hcaught).2
          · rw [hsame, hdefault]
    · have hcaught := hcaught σ hσ hdefault
      exact ⟨(Site.Caught.bound (mem_sitesFrom h hσ).1 hcaught).1, hasLayout_of_caught h hσ hcaught⟩

/-- A document of one element. -/
def plainRoot : Element :=
  { name := "html.div" }

/-- Blocks with a layout below a comment, and with a statement that has its words in a string. -/
def layoutBlocks : List (List (List Char)) :=
  [ ["import L from 'l';\r\n".toList, "// The layout.\n  export default L".toList],
    ["export const a = 'export default b'".toList] ]

theorem text_oneDefault_iff_layout :
    (∀ block ∈ layoutBlocks, ∀ s ∈ block.dropLast, Complete s)
      ∧ (∃ σ ∈ sitesFrom [] layoutBlocks, exportsDefault σ.statement = true)
      ∧ OneDefault {} plainRoot none layoutBlocks := by
  have hcomplete : ∀ block ∈ layoutBlocks, ∀ s ∈ block.dropLast, Complete s := by decide
  have hcut : ∀ σ ∈ sitesFrom [] layoutBlocks, exportsDefault σ.statement = true →
      anyDefault (σ.before ++ [σ.prior]) = false
        ∧ cutDefault? (freshAfter true σ.prior) σ.statement
          = some ("// The layout.\n".toList, "L".toList) := by
    decide
  refine ⟨hcomplete, by decide, ?_⟩
  have hiff := (text_oneDefault_iff {} plainRoot none layoutBlocks hcomplete).2
  refine hiff.mpr fun σ hσ hdefault => ?_
  obtain ⟨hany, hcut⟩ := hcut σ hσ hdefault
  exact (Site.caught_iff (mem_sitesFrom hcomplete hσ).1).mpr ⟨_, _, hany, hcut, by decide⟩

/-- Blocks that each have one default export, which does not begin a line or is written in another
way. -/
def missedBlocks : List (List (List Char)) :=
  [ ["import Layout from './layout.js';".toList, " export default Layout".toList],
    ["export \x7bLayout as default\x7d".toList],
    ["export \x7bdefault\x7d from './layout.js'".toList],
    ["export default(Layout)".toList] ]

theorem missedBlocks_complete : ∀ block ∈ missedBlocks, ∀ s ∈ block.dropLast, Complete s := by
  decide

theorem missedBlocks_kept : ∀ block ∈ missedBlocks,
    (imagesFrom [] [block]).filter exportsDefault = block.filter exportsDefault
      ∧ hasLayout [block] = false := by
  decide +kernel

/-- A default export that is missed stands in the module beside the module's own. -/
theorem text_twoDefaults :
    missedBlocks.map (fun block => (block.filter exportsDefault).length) = [1, 1, 1, 1]
      ∧ missedBlocks.map (fun block => (text {} plainRoot none [.ofList block.flatten]).toList)
        = missedBlocks.map (fun block => (moduleStatements {} plainRoot none [block]).flatten)
      ∧ missedBlocks.map (fun block =>
          (moduleStatements {} plainRoot none [block]).filter exportsDefault)
        = missedBlocks.map (fun block =>
          block.filter exportsDefault ++ [written (exportLines false)]) := by
  refine ⟨by decide +kernel, List.map_congr_left fun block hblock => ?_,
    List.map_congr_left fun block hblock => ?_⟩
  · have hcomplete : ∀ b ∈ [block], ∀ s ∈ b.dropLast, Complete s := by
      intro b hb
      rw [List.mem_singleton.mp hb]
      exact missedBlocks_complete block hblock
    have htext := toList_text {} plainRoot none hcomplete
    rwa [List.map_singleton] at htext
  · obtain ⟨himages, hlayout⟩ := missedBlocks_kept block hblock
    rw [filter_moduleStatements, himages, hlayout]

end Mdx.Module
