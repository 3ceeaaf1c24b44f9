import Mdx.Proofs.Html.Plain
import Mdx.Proofs.Wire.RoundTrip

/-!
# The tags of a page

Which tags a browser sees in a page, whatever is written in it. `Tokenizer` follows a page character
by character, as browsers do: outside of tags, in the name of a tag, and between and inside its
attributes. Texts and values are escaped, so they do not lead it astray, and neither do names of
attributes that stay between the spaces around them (`staysName`). The main statement is
`Renderer.render_sameTags`: two documents with the same elements, whatever their texts and props,
are rendered to pages with the same tags. Keys of props are written as they are, so the statement is
for keys that stay names; `Renderer.render_tagsOfKey` has a page with a tag that stands in a key.
-/

namespace Mdx

namespace Wire.Node

mutual

/-- The node without its texts and props: its elements by their names, and where they stand. -/
def skeleton : Node → Node
  | .text _ => .text ""
  | .element name _ cs => .element name [] (rowSkeleton cs)

/-- The skeletons of a row of nodes. -/
def rowSkeleton : List Node → List Node
  | [] => []
  | n :: rest => skeleton n :: rowSkeleton rest

end

end Wire.Node

namespace Html

/-- A tag by its name alone. -/
inductive Bracket where
  | opening (name : String)
  | closing (name : String)
  deriving DecidableEq, Repr

namespace Tokenizer

/-! ## Reading tags -/

/-- White space between the parts of a tag. -/
def isSpace (c : Char) : Bool :=
  [' ', '\t', '\n', '\x0c', '\r'].contains c

/-- Where in the attributes of a tag reading stands. -/
inductive Place where
  /-- Before the name of an attribute. -/
  | gap
  | name
  /-- After a name, where a value may still follow. -/
  | afterName
  | beforeValue
  /-- In a value that ends with the mark. -/
  | quoted (mark : Char)
  | unquoted
  deriving DecidableEq

namespace Place

/-- The place after a character that does not end the tag. -/
def next (c : Char) : Place → Place
  | .gap => if isSpace c || c = '/' then .gap else .name
  | .name | .afterName =>
    if isSpace c then .afterName
    else if c = '/' then .gap
    else if c = '=' then .beforeValue
    else .name
  | .beforeValue =>
    if isSpace c then .beforeValue
    else if c = '"' || c = '\x27' then .quoted c
    else .unquoted
  | .quoted mark => if c = mark then .gap else .quoted mark
  | .unquoted => if isSpace c then .gap else .unquoted

/-- A tag ends with an angle bracket, unless it stands in a quoted value. -/
def isEnd (c : Char) : Place → Bool
  | .quoted _ => false
  | _ => c = '>'

end Place

/-- What is being read. -/
inductive Mode where
  /-- Text outside of tags. -/
  | text
  /-- What follows an opening angle bracket. -/
  | start
  /-- What follows an opening angle bracket and a slash. -/
  | finish
  /-- A comment or a declaration. -/
  | skipped
  | tagName (closing : Bool) (name : List Char)
  | attributes (tag : Bracket) (place : Place)

/-- The tag of a name. -/
def bracket (closing : Bool) (name : List Char) : Bracket :=
  if closing then .closing (String.ofList name) else .opening (String.ofList name)

/-- Reads a character, which may be the end of a tag. -/
def step (c : Char) : Mode → Mode × Option Bracket
  | .text => (if c = '<' then .start else .text, none)
  | .start =>
    (if c = '/' then .finish
      else if c.isAlpha then .tagName false [c]
      else if c = '!' || c = '?' then .skipped
      else if c = '<' then .start
      else .text, none)
  | .finish =>
    (if c.isAlpha then .tagName true [c] else if c = '>' then .text else .skipped, none)
  | .skipped => (if c = '>' then .text else .skipped, none)
  | .tagName closing name =>
    if c = '>' then (.text, some (bracket closing name))
    else if isSpace c || c = '/' then (.attributes (bracket closing name) .gap, none)
    else (.tagName closing (name ++ [c]), none)
  | .attributes tag place =>
    if place.isEnd c then (.text, some tag) else (.attributes tag (place.next c), none)

/-- Reads characters, with the tags that end in them. -/
def run : List Char → Mode → Mode × List Bracket
  | [], mode => (mode, [])
  | c :: rest, mode =>
    let after := run rest (step c mode).1
    (after.1, (step c mode).2.toList ++ after.2)

/-- The tags of a page, in order. -/
def tags (html : String) : List Bracket :=
  (run html.toList .text).2

/-! ## Parts of a page -/

theorem run_append (s t : List Char) (mode : Mode) :
    run (s ++ t) mode
      = ((run t (run s mode).1).1, (run s mode).2 ++ (run t (run s mode).1).2) := by
  induction s generalizing mode with
  | nil => rfl
  | cons c s ih =>
      rw [List.cons_append, run, run, ih]
      simp

/-- One part after another. -/
theorem run_append_of {s t : List Char} {mode mode' mode'' : Mode} {out out' : List Bracket}
    (hs : run s mode = (mode', out)) (ht : run t mode' = (mode'', out')) :
    run (s ++ t) mode = (mode'', out ++ out') := by
  rw [run_append, hs, ht]

/-- Text without an angle bracket begins no tag. -/
theorem run_text {s : List Char} (h : '<' ∉ s) : run s .text = (.text, []) := by
  induction s with
  | nil => rfl
  | cons c s ih =>
      have hc : c ≠ '<' := fun hc => h (by simp [hc])
      have hs := ih fun hs => h (List.mem_cons_of_mem _ hs)
      simp [run, step, hc, hs]

/-- A quoted value does not end before its mark. -/
theorem run_quoted {s : List Char} {mark : Char} (h : mark ∉ s) (tag : Bracket) :
    run s (.attributes tag (.quoted mark)) = (.attributes tag (.quoted mark), []) := by
  induction s with
  | nil => rfl
  | cons c s ih =>
      have hc : c ≠ mark := fun hc => h (by simp [hc])
      have hs := ih fun hs => h (List.mem_cons_of_mem _ hs)
      simp [run, step, Place.isEnd, Place.next, hc, hs]

/-- The characters of a name are read into it. -/
theorem run_tagName {s : List Char} (h : ∀ c ∈ s, isNameChar c = true) (closing : Bool)
    (name : List Char) :
    run s (.tagName closing name) = (.tagName closing (name ++ s), []) := by
  induction s generalizing name with
  | nil => simp [run]
  | cons c s ih =>
      have hc : c ≠ '>' ∧ isSpace c = false ∧ c ≠ '/' := by
        have hname := h c (by simp)
        simp [isNameChar] at hname
        simp [isSpace, hname]
      have hs := ih (fun d hd => h d (List.mem_cons_of_mem _ hd)) (name ++ [c])
      simp [run, step, hc, hs]

/-! ## Attributes -/

/-- Between spaces the text is read as names of attributes and as nothing else. -/
def staysName (name : String) : Bool :=
  name.toList.all (fun c => !(['>', '/', '='].contains c)) && name.toList.any (fun c => !isSpace c)

/-- The name of an attribute has been read, and its value may follow. -/
def Place.isNamed : Place → Bool
  | .name | .afterName => true
  | _ => false

/-- A character of a name, or a space, after the name of an attribute. -/
theorem Place.next_isNamed {c : Char} (hc : c ∉ ['>', '/', '=']) {place : Place}
    (h : place.isNamed = true) : place.isEnd c = false ∧ (place.next c).isNamed = true := by
  simp only [List.mem_cons, List.not_mem_nil, or_false, not_or] at hc
  cases place with
  | name | afterName =>
      cases hspace : isSpace c <;> simp [isEnd, next, isNamed, hc, hspace]
  | gap | beforeValue | quoted mark | unquoted => cases h

theorem run_named {s : List Char} (hs : ∀ c ∈ s, c ∉ ['>', '/', '=']) (tag : Bracket)
    {place : Place} (h : place.isNamed = true) :
    ∃ place' : Place, place'.isNamed = true
      ∧ run s (.attributes tag place) = (.attributes tag place', []) := by
  induction s generalizing place with
  | nil => exact ⟨place, h, rfl⟩
  | cons c s ih =>
      obtain ⟨hend, hnext⟩ := Place.next_isNamed (hs c (by simp)) h
      obtain ⟨place', hplace', hrun⟩ := ih (fun d hd => hs d (List.mem_cons_of_mem _ hd)) hnext
      refine ⟨place', hplace', ?_⟩
      simp [run, step, hend, hrun]

/-- Before the name of an attribute, spaces are skipped up to the name. -/
theorem run_gap {s : List Char} (hs : ∀ c ∈ s, c ∉ ['>', '/', '='])
    (hany : ∃ c ∈ s, isSpace c = false) (tag : Bracket) :
    ∃ place : Place, place.isNamed = true
      ∧ run s (.attributes tag .gap) = (.attributes tag place, []) := by
  induction s with
  | nil => simp at hany
  | cons c s ih =>
      have hc := hs c (by simp)
      have hrest : ∀ d ∈ s, d ∉ ['>', '/', '='] := fun d hd => hs d (List.mem_cons_of_mem _ hd)
      simp only [List.mem_cons, List.not_mem_nil, or_false, not_or] at hc
      cases hspace : isSpace c with
      | true =>
          have hlater : ∃ d ∈ s, isSpace d = false := by
            obtain ⟨d, hd, hdspace⟩ := hany
            rcases List.mem_cons.mp hd with rfl | hd
            · rw [hspace] at hdspace
              cases hdspace
            · exact ⟨d, hd, hdspace⟩
          obtain ⟨place, hplace, hrun⟩ := ih hrest hlater
          refine ⟨place, hplace, ?_⟩
          simp [run, step, Place.isEnd, Place.next, hc, hspace, hrun]
      | false =>
          have hname : Place.name.isNamed = true := rfl
          obtain ⟨place, hplace, hrun⟩ := run_named hrest tag hname
          refine ⟨place, hplace, ?_⟩
          simp [run, step, Place.isEnd, Place.next, hc, hspace, hrun]

/-- A tag has been opened, and may end or go on with an attribute. -/
inductive Ready (tag : String) : Mode → Prop where
  | name : Ready tag (.tagName false tag.toList)
  | gap : Ready tag (.attributes (.opening tag) .gap)
  | named {place : Place} : place.isNamed = true → Ready tag (.attributes (.opening tag) place)

theorem bracket_opening (tag : String) : bracket false tag.toList = .opening tag := by
  simp [bracket]

theorem bracket_closing (tag : String) : bracket true tag.toList = .closing tag := by
  simp [bracket]

variable {tag : String}

/-- The end of a tag. -/
theorem run_end {mode : Mode} (h : Ready tag mode) : run ['>'] mode = (.text, [.opening tag]) := by
  cases h with
  | name => simp [run, step, bracket_opening]
  | gap => rfl
  | @named place hplace =>
      cases place with
      | name | afterName => rfl
      | gap | beforeValue | quoted mark | unquoted => cases hplace

/-- A space and the name of an attribute. -/
theorem run_attributeName {name : String} (hname : staysName name = true) {mode : Mode}
    (h : Ready tag mode) :
    ∃ place : Place, place.isNamed = true
      ∧ run (' ' :: name.toList) mode = (.attributes (.opening tag) place, []) := by
  rw [staysName, Bool.and_eq_true, List.all_eq_true, List.any_eq_true] at hname
  have hchars : ∀ c ∈ name.toList, c ∉ ['>', '/', '='] := by
    intro c hc
    simpa using hname.1 c hc
  have hany : ∃ c ∈ name.toList, isSpace c = false := by
    obtain ⟨c, hc, hspace⟩ := hname.2
    exact ⟨c, hc, by simpa using hspace⟩
  have hspace : isSpace ' ' = true := by decide
  have hgap := run_gap hchars hany (.opening tag)
  cases h with
  | name =>
      obtain ⟨place, hplace, hrun⟩ := hgap
      exact ⟨place, hplace, by simp [run, step, bracket_opening, hspace, hrun]⟩
  | gap =>
      obtain ⟨place, hplace, hrun⟩ := hgap
      exact ⟨place, hplace, by simp [run, step, Place.isEnd, Place.next, hspace, hrun]⟩
  | @named before hbefore =>
      obtain ⟨hend, hnext⟩ := Place.next_isNamed (c := ' ') (by decide) hbefore
      obtain ⟨place, hplace, hrun⟩ := run_named hchars (.opening tag) hnext
      exact ⟨place, hplace, by simp [run, step, hend, hrun]⟩

/-- The value of an attribute ends where its quotes do, since it has none inside. -/
theorem run_value (tag : String) (value : Option String) {place : Place}
    (h : place.isNamed = true) :
    ∃ mode : Mode, Ready tag mode
      ∧ run (valueChars value) (.attributes (.opening tag) place) = (mode, []) := by
  cases value with
  | none => exact ⟨_, .named h, rfl⟩
  | some value =>
      have hopen : run "=\"".toList (.attributes (.opening tag) place)
          = (.attributes (.opening tag) (.quoted '"'), []) := by
        cases place with
        | name | afterName => rfl
        | gap | beforeValue | quoted mark | unquoted => cases h
      have hvalue := run_quoted (Scanner.quote_notMem_escape value) (.opening tag)
      have hclose : run ['"'] (.attributes (.opening tag) (.quoted '"'))
          = (.attributes (.opening tag) .gap, []) := rfl
      exact ⟨_, .gap, run_append_of (run_append_of hopen hvalue) hclose⟩

theorem run_attribute {a : Attribute} (ha : staysName a.1 = true) {mode : Mode}
    (h : Ready tag mode) : ∃ mode' : Mode, Ready tag mode' ∧ run a.chars mode = (mode', []) := by
  obtain ⟨place, hplace, hname⟩ := run_attributeName ha h
  obtain ⟨mode', hmode', hvalue⟩ := run_value tag a.2 hplace
  exact ⟨mode', hmode', run_append_of hname hvalue⟩

theorem run_attributes {attributes : List Attribute}
    (ha : ∀ a ∈ attributes, staysName a.1 = true) {mode : Mode} (h : Ready tag mode) :
    ∃ mode' : Mode, Ready tag mode'
      ∧ run (attributes.flatMap Attribute.chars) mode = (mode', []) := by
  induction attributes generalizing mode with
  | nil => exact ⟨mode, h, rfl⟩
  | cons a rest ih =>
      obtain ⟨mode₁, hmode₁, hfirst⟩ := run_attribute (ha a (by simp)) h
      obtain ⟨mode₂, hmode₂, hrest⟩ := ih (fun b hb => ha b (List.mem_cons_of_mem _ hb)) hmode₁
      exact ⟨mode₂, hmode₂, run_append_of hfirst hrest⟩

/-! ## Tags -/

/-- After an angle bracket, and a slash if there is one, the name of a tag is read. -/
theorem run_tag (htag : tag ∈ Tag.all) :
    run tag.toList .start = (.tagName false tag.toList, [])
      ∧ run tag.toList .finish = (.tagName true tag.toList, []) := by
  have hletter : Tag.all.all (fun tag => tag.toList.head?.any Char.isAlpha) = true := by
    decide +kernel
  have hname := (Scanner.isNameChar_of_isName (isName_tag (List.contains_iff_mem.mpr htag))).2
  have hfirst := List.all_eq_true.mp hletter tag htag
  cases hchars : tag.toList with
  | nil => simp [hchars] at hfirst
  | cons c cs =>
      rw [hchars] at hname hfirst
      have hc : c.isAlpha = true := by simpa using hfirst
      have hslash : c ≠ '/' := by
        rintro rfl
        exact absurd hc (by decide)
      have hcs : ∀ d ∈ cs, isNameChar d = true := fun d hd => hname d (List.mem_cons_of_mem _ hd)
      constructor
      · simp [run, step, hc, hslash, run_tagName hcs]
      · simp [run, step, hc, run_tagName hcs]

theorem run_opening (htag : tag ∈ Tag.all) {attributes : List Attribute}
    (ha : ∀ a ∈ attributes, staysName a.1 = true) :
    run (Token.chars (.opening tag attributes)) .text = (.text, [.opening tag]) := by
  have hready : Ready tag (.tagName false tag.toList) := .name
  obtain ⟨mode, hmode, hattributes⟩ := run_attributes ha hready
  have hstart : run ['<'] .text = (.start, []) := rfl
  have hname := run_append_of hstart (run_tag htag).1
  exact run_append_of (run_append_of hname hattributes) (run_end hmode)

theorem run_closing (htag : tag ∈ Tag.all) :
    run (Token.chars (.closing tag)) .text = (.text, [.closing tag]) := by
  have hstart : run "</".toList .text = (.finish, []) := rfl
  have hend : run ['>'] (.tagName true tag.toList) = (.text, [.closing tag]) := by
    simp [run, step, bracket_closing]
  exact run_append_of (run_append_of hstart (run_tag htag).2) hend

end Tokenizer

/-! ## The tags of a document -/

open Tokenizer (staysName tags)

mutual

/-- The tags that the elements of a node are written with. -/
def brackets (mark : String) : Wire.Node → List Bracket
  | .text _ => []
  | .element name _ cs =>
    match role mark name with
    | .element tag =>
      .opening tag
        :: (if voidTags.contains tag then [] else rowBrackets mark cs ++ [.closing tag])
    | _ => rowBrackets mark cs

/-- The tags that the elements of a row are written with. -/
def rowBrackets (mark : String) : List Wire.Node → List Bracket
  | [] => []
  | n :: rest => brackets mark n ++ rowBrackets mark rest

end

mutual

/-- The names of the attributes that the props of a node's elements are written as. -/
def written (mark : String) : Wire.Node → List String
  | .text _ => []
  | .element name props cs =>
    (match role mark name with
      | .element _ => (props.filterMap attribute?).map Prod.fst
      | _ => [])
      ++ rowWritten mark cs

/-- The names of the attributes that the props of a row are written as. -/
def rowWritten (mark : String) : List Wire.Node → List String
  | [] => []
  | n :: rest => written mark n ++ rowWritten mark rest

end

/-- The tags are told from the names of the elements alone. -/
theorem brackets_skeleton (mark : String) (n : Wire.Node) :
    brackets mark n.skeleton = brackets mark n := by
  have hrow : ∀ {cs : List Wire.Node},
      (∀ n ∈ cs, brackets mark n.skeleton = brackets mark n) →
      rowBrackets mark (Wire.Node.rowSkeleton cs) = rowBrackets mark cs := by
    intro cs hcs
    induction cs with
    | nil => rfl
    | cons n rest ih =>
        rw [Wire.Node.rowSkeleton, rowBrackets, rowBrackets, hcs n (by simp),
          ih fun m hm => hcs m (List.mem_cons_of_mem _ hm)]
  induction n using Wire.Node.nested with
  | text value => rfl
  | element name props cs ih => rw [Wire.Node.skeleton, brackets, brackets, hrow ih]

/-- So are the look-ups. -/
theorem lookups_skeleton (mark : String) (n : Wire.Node) :
    lookups mark n.skeleton = lookups mark n := by
  have hrow : ∀ {cs : List Wire.Node},
      (∀ n ∈ cs, lookups mark n.skeleton = lookups mark n) →
      rowLookups mark (Wire.Node.rowSkeleton cs) = rowLookups mark cs := by
    intro cs hcs
    induction cs with
    | nil => rfl
    | cons n rest ih =>
        rw [Wire.Node.rowSkeleton, rowLookups, rowLookups, hcs n (by simp),
          ih fun m hm => hcs m (List.mem_cons_of_mem _ hm)]
  induction n using Wire.Node.nested with
  | text value => rfl
  | element name props cs ih => rw [Wire.Node.skeleton, lookups, lookups, hrow ih]

/-- An image is looked up under its key. -/
theorem mem_lookups_of_image {mark name : String} (h : role mark name = .image)
    (props : Dict Json) (cs : List Wire.Node) :
    ∃ l ∈ lookups mark (.element name props cs), l.key = "img" := by
  have hname : name ≠ fragmentName := by
    rintro rfl
    simp [role] at h
  have hkey : Tag.bare mark name = "img" := by
    by_cases hkey : Tag.bare mark name = "img"
    · exact hkey
    · rw [role, if_neg hname, if_neg hkey] at h
      split at h
      · cases h
      · split at h <;> cases h
  rw [lookups, if_neg hname]
  exact ⟨.ofName mark name, by simp, hkey⟩

theorem staysName_attributes {props : Dict Json}
    (h : ∀ a ∈ props.filterMap attribute?, staysName a.1 = true) (scope : Option Json)
    (extra : Dict Json) : ∀ a ∈ attributes props scope extra, staysName a.1 = true := by
  intro a ha
  rcases List.mem_append.mp ha with ha | ha
  · exact h a ha
  · rw [styleAttribute] at ha
    split at ha
    · simp at ha
    · rw [List.mem_singleton.mp ha]
      exact show staysName "style" = true by decide

namespace Renderer

/-- What the page of a document needs for its tags to be those of the document's elements. -/
structure Tame (mark : String) (n : Wire.Node) : Prop where
  images : ∀ l ∈ lookups mark n, l.key ≠ "img"
  names : ∀ name ∈ written mark n, staysName name = true

theorem run_rowForest {r : Renderer} {cs : List Wire.Node}
    (h : ∀ n ∈ cs, Tame r.tagPrefix n → ∀ index,
      Tokenizer.run (Dom.chars (r.forest index n)) .text = (.text, brackets r.tagPrefix n))
    (images : ∀ l ∈ rowLookups r.tagPrefix cs, l.key ≠ "img")
    (names : ∀ name ∈ rowWritten r.tagPrefix cs, staysName name = true) (index : Nat) :
    Tokenizer.run (Dom.chars (r.rowForest index cs)) .text
      = (.text, rowBrackets r.tagPrefix cs) := by
  induction cs generalizing index with
  | nil => rfl
  | cons n rest ih =>
      have hn : Tame r.tagPrefix n :=
        ⟨fun l hl => images l (List.mem_append_left _ hl),
          fun name hname => names name (List.mem_append_left _ hname)⟩
      have hrest := ih (fun m hm => h m (List.mem_cons_of_mem _ hm))
        (fun l hl => images l (List.mem_append_right _ hl))
        (fun name hname => names name (List.mem_append_right _ hname)) (index + 1)
      rw [rowForest, chars_append, rowBrackets]
      exact Tokenizer.run_append_of (h n (by simp) hn index) hrest

/-- The page of a node has the tags of its elements. -/
theorem run_forest (r : Renderer) {n : Wire.Node} (h : Tame r.tagPrefix n) (index : Nat) :
    Tokenizer.run (Dom.chars (r.forest index n)) .text = (.text, brackets r.tagPrefix n) := by
  induction n using Wire.Node.nested generalizing index with
  | text value =>
      rw [forest, Dom.chars_text, brackets]
      simpa [Dom.chars, Dom.tokens] using Tokenizer.run_text (Scanner.lt_notMem_escape value)
  | element name props cs ih =>
      have himages : ∀ l ∈ rowLookups r.tagPrefix cs, l.key ≠ "img" := by
        intro l hl
        apply h.images
        rw [lookups]
        split
        · exact hl
        · exact List.mem_cons_of_mem _ hl
      have hrow := run_rowForest (fun n hn hn' index => ih n hn hn' index) himages
        (fun key hkey => h.names key (List.mem_append_right _ hkey)) 0
      have hprops := fun key hkey => h.names key (List.mem_append_left _ hkey)
      rw [forest, brackets]
      cases hrole : role r.tagPrefix name with
      | splice => exact hrow
      | image =>
          obtain ⟨l, hl, hkey⟩ := mem_lookups_of_image hrole props cs
          exact absurd hkey (h.images l hl)
      | element tag =>
          have htag := mem_all_of_role hrole
          rw [hrole] at hprops
          have hattributes := staysName_attributes
            (fun a (ha : a ∈ props.filterMap attribute?) => hprops a.1 (List.mem_map_of_mem ha))
          have hopening := Tokenizer.run_opening htag
            (hattributes (r.styles.get? (Tag.bare r.tagPrefix name)) (flushStyle tag index))
          have hclosing := Tokenizer.run_append_of hrow (Tokenizer.run_closing htag)
          simp only [Dom.chars_element]
          split
          · exact Tokenizer.run_append_of hopening rfl
          · refine Tokenizer.run_append_of hopening ?_
            simpa [Dom.chars, Dom.tokens] using hclosing

theorem recovers_of_default {r : Renderer} (hr : r.components = defaultComponents) :
    ∀ key component, r.components.get? key = some component → Recovers component :=
  fun _ _ h => recovers_defaultComponents (hr ▸ h)

/-- With the default components a document has a page if what it cannot do without are tags. -/
theorem exists_page {r : Renderer} (hr : r.components = defaultComponents) {d : Wire.Document}
    (h : ∀ l ∈ lookups r.tagPrefix d.tree, l.needed = true → l.key ∈ Tag.all) :
    ∃ html, (r.render d).html = .ok html := by
  have hcalm : (lookups r.tagPrefix d.tree).find? (Lookup.isFatal r.components) = none := by
    rw [List.find?_eq_none]
    intro l hl hfatal
    rw [Lookup.isFatal, Bool.and_eq_true, Lookup.isMissing, Option.isNone_iff_eq_none, hr] at hfatal
    exact get?_defaultComponents_ne_none (h l hl hfatal.2) hfatal.1
  exact ((render_outcome (recovers_of_default hr) d).2 hcalm).1

/-- A page is the text of its document's forest. -/
theorem chars_of_render {r : Renderer} (hr : r.components = defaultComponents)
    {d : Wire.Document} {html : String} (hok : (r.render d).html = .ok html) :
    html.toList = Dom.chars (r.forest 0 d.tree) := by
  refine yields_node hr d.tree Order.alone {} html ((r.node .alone d.tree).run.run {}).2 ?_
  rw [← hok]
  rfl

/-- The tags of a page are those of its document's elements. -/
theorem tags_of_render {r : Renderer} (hr : r.components = defaultComponents)
    {d : Wire.Document} (h : Tame r.tagPrefix d.tree) {html : String}
    (hok : (r.render d).html = .ok html) : tags html = brackets r.tagPrefix d.tree := by
  rw [tags, chars_of_render hr hok, run_forest r h 0]

/-- Documents with the same elements are rendered to pages with the same tags, or fail for the same
reason, whatever their texts and the values of their props are. Keys of props are written as they
are, so for the tags they have to stay names. -/
theorem render_sameTags (r : Renderer) (hr : r.components = defaultComponents)
    (d d' : Wire.Document) (hshape : d.tree.skeleton = d'.tree.skeleton)
    (himages : ∀ l ∈ lookups r.tagPrefix d.tree, l.key ≠ "img") :
    (∃ html html', (r.render d).html = .ok html ∧ (r.render d').html = .ok html'
        ∧ ((∀ name ∈ written r.tagPrefix d.tree ++ written r.tagPrefix d'.tree,
            staysName name = true) → tags html = tags html'))
      ∨ ∃ e, (r.render d).html = .error e ∧ (r.render d').html = .error e := by
  have hlookups : lookups r.tagPrefix d'.tree = lookups r.tagPrefix d.tree := by
    rw [← lookups_skeleton, ← hshape, lookups_skeleton]
  have hbrackets : brackets r.tagPrefix d'.tree = brackets r.tagPrefix d.tree := by
    rw [← brackets_skeleton, ← hshape, brackets_skeleton]
  obtain ⟨hfails, hsucceeds⟩ := render_outcome (recovers_of_default hr) d
  obtain ⟨hfails', hsucceeds'⟩ := render_outcome (recovers_of_default hr) d'
  rw [hlookups] at hfails' hsucceeds'
  cases hfatal : (lookups r.tagPrefix d.tree).find? (Lookup.isFatal r.components) with
  | some l => exact .inr ⟨_, hfails l hfatal, hfails' l hfatal⟩
  | none =>
      obtain ⟨⟨html, hok⟩, -⟩ := hsucceeds hfatal
      obtain ⟨⟨html', hok'⟩, -⟩ := hsucceeds' hfatal
      refine .inl ⟨html, html', hok, hok', fun hnames => ?_⟩
      have htame : Tame r.tagPrefix d.tree :=
        ⟨himages, fun name hname => hnames name (List.mem_append_left _ hname)⟩
      have htame' : Tame r.tagPrefix d'.tree :=
        ⟨hlookups ▸ himages, fun name hname => hnames name (List.mem_append_right _ hname)⟩
      rw [tags_of_render hr htame hok, tags_of_render hr htame' hok', hbrackets]

/-- A document with a prop of each kind, an unknown component and a line break. -/
def templatePage (text key : String) (value : Json) : Wire.Document :=
  { tree :=
      .element "html.div" [(key, value), ("className", .arr [.str text])]
        [ .text text,
          .element "Unknown" [(text, value)] [.element "html.h1" [("style", value)] [.text text]],
          .element "html.br" [(key, .bool true)] [] ] }

theorem render_sameTags_crafted :
    let r : Renderer := { components := defaultComponents }
    let plain := templatePage "a" "id" (.str "b")
    let crafted := templatePage "</div><script>" "on<b \"\x27" (.obj [("color", .str "\"><b>")])
    plain.tree.skeleton = crafted.tree.skeleton
      ∧ (∀ l ∈ lookups r.tagPrefix plain.tree, l.key ≠ "img")
      ∧ (∀ name ∈ written r.tagPrefix plain.tree ++ written r.tagPrefix crafted.tree,
        staysName name = true)
      ∧ ∃ html html', (r.render plain).html = .ok html ∧ (r.render crafted).html = .ok html'
        ∧ tags html = tags html' := by
  intro r plain crafted
  have himages : ∀ l ∈ lookups r.tagPrefix plain.tree, l.key ≠ "img" := by decide +kernel
  have hnames : ∀ name ∈ written r.tagPrefix plain.tree ++ written r.tagPrefix crafted.tree,
      staysName name = true := by decide +kernel
  have hr : r.components = defaultComponents := rfl
  have hneeded : ∀ l ∈ lookups r.tagPrefix plain.tree, l.needed = true → l.key ∈ Tag.all := by
    decide +kernel
  obtain ⟨page, hpage⟩ := exists_page hr hneeded
  refine ⟨rfl, himages, hnames, ?_⟩
  rcases render_sameTags r hr plain crafted rfl himages with
    ⟨html, html', hhtml, hhtml', htags⟩ | ⟨e, he, -⟩
  · exact ⟨html, html', hhtml, hhtml', htags hnames⟩
  · rw [hpage] at he
    cases he

/-- A paragraph that has a prop of the given key. -/
def keyPage (key : String) : Wire.Document :=
  { tree := .element "html.p" [(key, .bool true)] [] }

/-- A response with that page, whatever the key is, is accepted. -/
theorem document_keyPage (key : String) :
    (Remote.Response.mk 200 (keyPage key).text).document = .ok (keyPage key) := by
  have hexact : (keyPage key).Exact := by
    simp [keyPage, Wire.Document.Exact, Wire.Node.Exact, Json.Exact, Json.Integral, Json.Ordered,
      Json.Everywhere, Json.EveryField, Dict.Sorted, Dict.keys, Wire.Node.ExactRow]
  have hdepth : (keyPage key).json.depth ≤ Json.maxDepth := by
    rw [Wire.Document.depth_json]
    simp [keyPage, Wire.Document.frontmatterDepth, Wire.Node.json, Json.depth, Json.fieldsDepth,
      Json.maxDepth]
  have hread : Json.read? (keyPage key).text = some (keyPage key).json.canonical := by
    rw [Json.read?, Wire.Document.text_eq, Json.read?_text (Wire.Document.json_integral hexact)]
    simp [Json.value?_ofJson, hdepth]
  simp [Remote.Response.document, Remote.Response.isOk, hread,
    Wire.Document.hasTree_canonical hexact, Wire.Document.ofJson?_canonical hexact hdepth]

/-- A key can bring a tag into the page: both responses are accepted, their documents have the same
elements, and only one of the pages has a tag named b. -/
theorem render_tagsOfKey :
    let r : Renderer := { components := defaultComponents }
    let plain := keyPage "x"
    let crafted := keyPage "x><b"
    (Remote.Response.mk 200 plain.text).document = .ok plain
      ∧ (Remote.Response.mk 200 crafted.text).document = .ok crafted
      ∧ plain.tree.skeleton = crafted.tree.skeleton
      ∧ (∀ l ∈ lookups r.tagPrefix plain.tree, l.key ≠ "img")
      ∧ ∃ html html', (r.render plain).html = .ok html ∧ (r.render crafted).html = .ok html'
        ∧ tags html = [.opening "p", .closing "p"]
        ∧ tags html' = [.opening "p", .opening "b", .closing "p"] := by
  intro r plain crafted
  have hr : r.components = defaultComponents := rfl
  have hneeded : ∀ l ∈ lookups r.tagPrefix plain.tree, l.needed = true → l.key ∈ Tag.all := by
    decide +kernel
  obtain ⟨html, hok⟩ := exists_page hr hneeded
  -- The look-ups are the same: they do not depend on keys.
  obtain ⟨html', hok'⟩ : ∃ html', (r.render crafted).html = .ok html' := exists_page hr hneeded
  refine ⟨document_keyPage _, document_keyPage _, rfl, by decide +kernel, html, html', hok, hok',
    ?_, ?_⟩
  · rw [tags, chars_of_render hr hok]
    decide +kernel
  · rw [tags, chars_of_render hr hok']
    decide +kernel

end Renderer

end Html

end Mdx
