import Mdx.Proofs.Convert.Footnotes

/-!
# The elements of converted documents

Where the elements of a converted document come from. An element is told by its head, which is its
name and its props. The document gives some heads itself: those of its JSX elements, and those of
the marks and notes of its footnotes. `Event` lists what it gives in the order of conversion, and
`written` the heads of that. All other heads are made by conversion on its own account (`Made`), and
`Inserted` says that only such heads stand between those that are written. A JSX element is lost if
it is taken for a paragraph of a tight list. The main statement is `convert_written`. Where the
tables of a document are well formed, `events_given` reads its events off its nodes.
-/

namespace Mdx

/-! ## Lists with elements put between -/

/-- The second list is the first with elements that satisfy `p` put between. -/
inductive Inserted {α : Type} (p : α → Prop) : List α → List α → Prop
  | nil : Inserted p [] []
  | keep (x : α) {xs ys : List α} : Inserted p xs ys → Inserted p (x :: xs) (x :: ys)
  | put {y : α} {xs ys : List α} : p y → Inserted p xs ys → Inserted p xs (y :: ys)

namespace Inserted

variable {α : Type} {p : α → Prop} {xs ys zs : List α}

theorem refl (xs : List α) : Inserted p xs xs := by
  induction xs with
  | nil => exact .nil
  | cons x xs ih => exact .keep x ih

theorem of_eq (h : ys = xs) : Inserted p xs ys := by
  rw [h]
  exact refl xs

theorem append {xs' ys' : List α} (h : Inserted p xs ys) (h' : Inserted p xs' ys') :
    Inserted p (xs ++ xs') (ys ++ ys') := by
  induction h with
  | nil => exact h'
  | keep x _ ih => exact .keep x ih
  | put hy _ ih => exact .put hy ih

theorem trans (h : Inserted p xs ys) (h' : Inserted p ys zs) : Inserted p xs zs := by
  induction h' generalizing xs with
  | nil => exact h
  | put hy _ ih => exact .put hy (ih h)
  | keep y _ ih =>
      cases h with
      | keep _ h => exact .keep y (ih h)
      | put hy h => exact .put hy (ih h)

/-- Nothing but elements that satisfy `p`. -/
theorem of_forall (h : ∀ y ∈ ys, p y) : Inserted p [] ys := by
  induction ys with
  | nil => exact .nil
  | cons y ys ih =>
      exact .put (h y List.mem_cons_self) (ih fun y hy => h y (List.mem_cons_of_mem _ hy))

theorem sublist (h : Inserted p xs ys) : xs.Sublist ys := by
  induction h with
  | nil => exact .slnil
  | keep x _ ih => exact .cons_cons x ih
  | put _ _ ih => exact .cons _ ih

/-- What is put between does not show where it is filtered out. -/
theorem filter_eq (h : Inserted p xs ys) {q : α → Bool} (hq : ∀ y, p y → q y = false) :
    ys.filter q = xs.filter q := by
  induction h with
  | nil => rfl
  | keep x _ ih => rw [List.filter_cons, List.filter_cons, ih]
  | put hy _ ih => rw [List.filter_cons, hq _ hy, if_neg (by decide), ih]

end Inserted

/-! ## Heads -/

/-- The name and the props of an element. -/
abbrev Head := String × Props

def Element.head (e : Element) : Head :=
  (e.name, e.props)

/-- The heads of the elements of a row, parents first. -/
def heads (ts : List Tree) : List Head :=
  (Tree.rowElements ts).map Element.head

@[simp] theorem heads_nil : heads [] = [] := rfl

@[simp] theorem heads_append (ts us : List Tree) : heads (ts ++ us) = heads ts ++ heads us := by
  simp [heads, Tree.rowElements_eq_flatMap]

theorem heads_cons (t : Tree) (ts : List Tree) : heads (t :: ts) = heads [t] ++ heads ts :=
  heads_append [t] ts

@[simp] theorem heads_element (name : String) (props : List (String × PropValue))
    (ts us : List Tree) :
    heads (.element name props ts :: us) = (name, props) :: (heads ts ++ heads us) := by
  simp [heads, Tree.rowElements, Tree.elements, Element.head]

@[simp] theorem heads_text (value : String) (us : List Tree) :
    heads (.text value :: us) = heads us := rfl

@[simp] theorem heads_fragment (ts us : List Tree) :
    heads (.fragment ts :: us) = heads ts ++ heads us := by
  simp [heads, Tree.rowElements, Tree.elements]

namespace Convert

open Markdown (Node Attribute)

@[simp] theorem heads_newline (us : List Tree) : heads (newline :: us) = heads us := rfl

/-- The head that a JSX element is given. -/
def jsxHead (jsx : String × List Attribute) : Head :=
  (jsx.1, jsxProps jsx.2)

/-- The head of the link in a mark. -/
def markHead (id : String) (use : Nat) : Head :=
  ("a",
    [ ("ariaDescribedBy", .string "footnote-label"),
      ("dataFootnoteRef", .bool true),
      ("href", .string ("#user-content-fn-" ++ footnoteId id)),
      ("id", .string ("user-content-fnref-" ++ footnoteId id
        ++ if use == 1 then "" else "-" ++ toString use)) ])

/-- The anchor of a use of a footnote, given the name that the footnote has in anchors. -/
def markAnchor (name : String) (use : Nat) : String :=
  "user-content-fnref-" ++ (name ++ if use == 1 then "" else "-" ++ toString use)

theorem get?_markHead (id : String) (use : Nat) :
    (markHead id use).2.get? "id" = some (.string (markAnchor (footnoteId id) use)) := by
  have hget : (markHead id use).2.get? "id" = some (.string ("user-content-fnref-"
      ++ footnoteId id ++ if use == 1 then "" else "-" ++ toString use)) := rfl
  exact hget.trans (congrArg (fun text => some (PropValue.string text)) String.append_assoc)

/-- The head of a note. -/
def noteHead (id : String) : Head :=
  ("li", [("id", .string ("user-content-fn-" ++ footnoteId id))])

/-- The head of a link that is a mark of a footnote. -/
def isMark (head : Head) : Bool :=
  head.1 == "a" && head.2.has "dataFootnoteRef"

/-- The head of an item that is the note of a footnote. -/
def isNote (head : Head) : Bool :=
  head.1 == "li" && head.2.has "id"

/-- A head that conversion makes on its own account: it belongs to no mark and no note, and that of
a paragraph has no props. -/
structure Made (head : Head) : Prop where
  raised : head.1 ≠ "sup"
  mark : isMark head = false
  note : isNote head = false
  paragraph : head.1 = "p" → head.2 = []

namespace Made

/-- Without props there is only the name to look at. -/
theorem plain {name : String} (h : name ≠ "sup") : Made (name, []) :=
  { raised := h
    mark := by simp [isMark, Dict.has, Dict.get?]
    note := by simp [isNote, Dict.has, Dict.get?]
    paragraph := fun _ => rfl }

theorem of_name {name : String} (h : name ∉ ["sup", "a", "li", "p"]) (props : Props) :
    Made (name, props) := by
  simp only [List.mem_cons, List.not_mem_nil, or_false, not_or] at h
  obtain ⟨hsup, ha, hli, hp⟩ := h
  exact { raised := hsup, mark := by simp [isMark, ha], note := by simp [isNote, hli],
          paragraph := fun hname => absurd hname hp }

theorem heading (depth : Nat) : Made ("h" ++ toString depth, []) :=
  plain (heading_ne (by decide) depth)

theorem anchor {props : Props} (h : props.has "dataFootnoteRef" = false) : Made ("a", props) :=
  { raised := by simp
    mark := by simp [isMark, h]
    note := by simp [isNote]
    paragraph := by simp }

theorem item {props : Props} (h : props.has "id" = false) : Made ("li", props) :=
  { raised := by simp
    mark := by simp [isMark]
    note := by simp [isNote, h]
    paragraph := by simp }

theorem link (url : String) (title : Option String) :
    Made ("a", withTitle title [("href", .string url)]) := by
  apply anchor
  cases title <;> simp [withTitle, Dict.has, Dict.get?, Dict.get?_insert]

end Made

/-! ## Arranged rows -/

/-- A row in which every paragraph is replaced by what it holds, as it is in a tight list. -/
def opened : List Tree → List Tree
  | [] => []
  | .element name props cs :: ts =>
    (if name = "p" then cs else [.element name props cs]) ++ opened ts
  | .text value :: ts => .text value :: opened ts
  | .fragment cs :: ts => .fragment cs :: opened ts

theorem opened_append (ts us : List Tree) : opened (ts ++ us) = opened ts ++ opened us := by
  induction ts with
  | nil => rfl
  | cons t ts ih => cases t <;> simp [opened, ih]

/-- Only paragraphs are replaced. -/
theorem opened_single {t : Tree} (h : t.isNamed "p" = false) : opened [t] = [t] := by
  cases t with
  | element name props cs =>
      have hname : name ≠ "p" := by simpa [Tree.isNamed] using h
      simp [opened, hname]
  | text value => rfl
  | fragment cs => rfl

/-- No head is new where paragraphs are replaced. -/
theorem heads_opened_subset (ts : List Tree) : heads (opened ts) ⊆ heads ts := by
  induction ts with
  | nil => exact List.Subset.refl _
  | cons t ts ih =>
      intro head hhead
      have htail : head ∈ heads (opened ts) → head ∈ heads (t :: ts) := by
        intro h
        rw [heads_cons]
        exact List.mem_append_right _ (ih h)
      cases t with
      | element name props cs =>
          by_cases hname : name = "p"
          · simp only [opened, if_pos hname, heads_append, List.mem_append] at hhead
            rcases hhead with h | h
            · simp [h]
            · exact htail h
          · simp only [opened, if_neg hname, heads_append, List.mem_append] at hhead
            rcases hhead with h | h
            · simp at h
              simp only [heads_element, List.mem_cons, List.mem_append]
              tauto
            · exact htail h
      | text value => exact htail hhead
      | fragment cs =>
          simp only [opened, heads_fragment, List.mem_append] at hhead ⊢
          exact hhead.imp_right fun h => ih h

theorem heads_joinLines (ts : List Tree) : heads (joinLines ts) = heads ts := by
  fun_induction joinLines ts with
  | case1 => rfl
  | case2 t => rfl
  | case3 t ts _ ih => rw [heads_cons, heads_newline, ih, ← heads_cons]

theorem heads_onLines (ts : List Tree) : heads (onLines ts) = heads ts := by
  rw [onLines, heads_newline, heads_append, heads_joinLines]
  split <;> simp

theorem heads_newline_if (b : Bool) : heads (if b then [newline] else []) = [] := by
  cases b <;> rfl

/-- In a tight list the content of an item is that of its paragraphs. -/
theorem heads_itemContent (loose : Bool) (ts : List Tree) :
    ∀ first : Bool,
      heads (itemContent loose first ts) = heads (if loose then ts else opened ts) := by
  induction ts with
  | nil => intro first; cases loose <;> rfl
  | cons t ts ih =>
      intro first
      have hitem : ∀ body : List Tree, heads body = heads (if loose then [t] else opened [t]) →
          ∀ b : Bool, heads ((if b then [newline] else []) ++ body ++ itemContent loose false ts)
            = heads (if loose then t :: ts else opened (t :: ts)) := by
        intro body hbody b
        have hsplit : heads (opened (t :: ts)) = heads (opened [t]) ++ heads (opened ts) := by
          rw [← heads_append, ← opened_append]
          rfl
        rw [heads_append, heads_append, heads_newline_if, hbody, ih, List.nil_append]
        cases loose
        · exact hsplit.symm
        · exact (heads_cons t ts).symm
      cases t with
      | element name props cs =>
          apply hitem (if name == "p" && !loose then cs else [.element name props cs])
          by_cases hname : name = "p" <;> cases loose <;> simp [opened, hname]
      | text value => exact hitem [.text value] (by cases loose <;> rfl) _
      | fragment cs => exact hitem [.fragment cs] (by cases loose <;> rfl) _

/-- The box of a task is put into a paragraph. -/
theorem inserted_addCheckbox (checked : Bool) (ts : List Tree) :
    Inserted Made (heads ts) (heads (addCheckbox checked ts))
      ∧ Inserted Made (heads (opened ts)) (heads (opened (addCheckbox checked ts))) := by
  have hbox : ∀ {hs : List Head}, Inserted Made hs
      (("input", [("checked", .bool checked), ("disabled", .bool true),
        ("type", .string "checkbox")]) :: hs) :=
    .put (.of_name (by decide) _) (.refl _)
  have hfill : ∀ cs : List Tree, Inserted Made (heads cs)
      (heads (checkbox checked :: (if cs.isEmpty then [] else .text " " :: cs))) := by
    intro cs
    cases cs with
    | nil => exact hbox
    | cons c cs => exact hbox
  rw [addCheckbox.eq_def]
  split
  · rename_i props cs rest
    simp only [heads_element, opened, if_true, heads_append]
    exact ⟨.keep _ ((hfill cs).append (.refl _)), (hfill cs).append (.refl _)⟩
  · have hp : Made ("p", []) := .plain (by decide)
    simp only [Tree.plain, heads_element, opened, if_true, heads_append]
    exact ⟨.put hp ((hfill []).append (.refl _)), (hfill []).append (.refl _)⟩

theorem heads_listItem (loose : Bool) (ts : List Tree) :
    heads [listItem loose none ts] = ("li", []) :: heads (if loose then ts else opened ts) := by
  rw [listItem, heads_element, heads_append, heads_itemContent]
  cases ts.getLast? with
  | none => simp
  | some last =>
      simp only [heads_newline_if, heads_nil, List.append_nil]
      rfl

/-- An item holds what was converted, with its paragraphs replaced if the list is tight. -/
theorem inserted_listItem (loose : Bool) (checked : Option Bool) (ts : List Tree) :
    Inserted Made (heads (if loose then ts else opened ts))
      (heads [listItem loose checked ts]) := by
  cases checked with
  | none =>
      rw [heads_listItem]
      exact .put (.plain (by decide)) (.refl _)
  | some checked =>
      -- A task differs from an item with the box as content in its props alone.
      have htask : heads [listItem loose (some checked) ts]
          = ("li", [("className", .string "task-list-item")])
            :: heads (if loose then addCheckbox checked ts
              else opened (addCheckbox checked ts)) := by
        have hplain := heads_listItem loose (addCheckbox checked ts)
        simp only [listItem, heads_element] at hplain ⊢
        rw [(List.cons.inj hplain).2]
        rfl
      rw [htask]
      refine .put (.item (by simp [Dict.has, Dict.get?])) ?_
      obtain ⟨hwhole, hopened⟩ := inserted_addCheckbox checked ts
      cases loose
      · exact hopened
      · exact hwhole

theorem inserted_element {name : String} {props : List (String × PropValue)}
    (h : Made (name, props)) (ts : List Tree) :
    Inserted Made (heads ts) (heads [.element name props ts]) := by
  rw [heads_element, heads_nil, List.append_nil]
  exact .put h (.refl _)

/-- An element around a row on lines of its own. -/
theorem inserted_onLines {name : String} {props : List (String × PropValue)}
    (h : Made (name, props)) (ts : List Tree) :
    Inserted Made (heads ts) (heads [.element name props (onLines ts)]) := by
  have hlines := inserted_element h (onLines ts)
  rwa [heads_onLines] at hlines

theorem codeBlock_made (className : Option String) (value : String) :
    ∀ head ∈ heads [codeBlock className value], Made head := by
  simp only [codeBlock, Tree.plain, codeText, heads_element, heads_text, heads_nil, List.append_nil,
    List.mem_cons, List.not_mem_nil, or_false, forall_eq_or_imp, forall_eq]
  exact ⟨.plain (by decide), .of_name (by decide) _⟩

theorem inserted_list (ordered : Bool) (start : Option Nat) (hasTask : Bool) (ts : List Tree) :
    Inserted Made (heads ts) (heads [list ordered start hasTask ts]) := by
  have hname : (if ordered then "ol" else "ul") ∉ ["sup", "a", "li", "p"] := by
    cases ordered <;> decide
  exact inserted_onLines (.of_name hname _) ts

theorem inserted_table (ts : List Tree) : Inserted Made (heads ts) (heads [table ts]) := by
  have hpart : ∀ {name : String}, name ∉ ["sup", "a", "li", "p"] → ∀ us : List Tree,
      Inserted Made (heads us) (heads [.plain name (onLines us)]) :=
    fun hname us => inserted_onLines (.of_name hname []) us
  refine .trans ?_ (hpart (by decide) _)
  match ts with
  | [] => exact .nil
  | [row] => exact hpart (by decide) [row]
  | row :: second :: more =>
      rw [heads_cons row, heads_append]
      exact (hpart (by decide) [row]).append (hpart (by decide) (second :: more))

/-! ### Notes -/

theorem inserted_addBackLink (id : String) (position : Nat) (ts : List Tree) :
    Inserted Made (heads ts) (heads (addBackLink (backLink id position) ts)) := by
  have hback : Inserted Made [] (heads [backLink id position]) :=
    .put (.anchor (by simp [Dict.has, Dict.get?])) .nil
  fun_induction addBackLink (backLink id position) ts with
  | case1 => exact hback
  | case2 props cs =>
      simp only [heads_element, heads_append, heads_text, heads_nil, List.append_nil]
      exact .keep _ (by simpa using (Inserted.refl (heads cs)).append hback)
  | case3 t => exact by simpa [← heads_cons] using (Inserted.refl (heads [t])).append hback
  | case4 t ts _ _ ih =>
      rw [heads_cons, heads_cons t (addBackLink _ ts)]
      exact (Inserted.refl _).append ih

theorem inserted_footnoteItem (id : String) (position : Nat) (ts : List Tree) :
    Inserted Made (noteHead id :: heads ts) (heads [footnoteItem id position ts]) := by
  rw [footnoteItem, heads_element, heads_onLines, heads_nil, List.append_nil]
  exact .keep _ (inserted_addBackLink id position ts)

theorem inserted_footnoteSection (ts : List Tree) :
    Inserted Made (heads ts) (heads [footnoteSection ts]) := by
  refine .trans ?_ (inserted_onLines (.of_name (by decide) _) _)
  have hlabel : Inserted Made []
      [("h2", [("className", .string "sr-only"), ("id", .string "footnote-label")])] :=
    .put (.of_name (by decide) _) .nil
  rw [heads_cons]
  exact hlabel.append (inserted_onLines (.of_name (by decide) []) ts)

/-! ## What a document gives -/

/-- What a document gives to its tree itself. -/
inductive Event where
  /-- A JSX element; `tight` says that it stands directly in an item of a tight list. -/
  | jsx (name : String) (attributes : List Attribute) (tight : Bool)
  /-- A reference to a footnote. -/
  | reference (id : String)
  /-- The note of a footnote. -/
  | note (id : String)

/-- A JSX element is lost if it stands directly in a tight list and is named as paragraphs are. -/
def Event.isLost : Event → Bool
  | .jsx name _ tight => tight && name == "p"
  | _ => false

/-- The JSX element of an event. -/
def Event.jsx? : Event → Option (String × List Attribute)
  | .jsx name attributes _ => some (name, attributes)
  | _ => none

/-- The footnote that is referred to. -/
def Event.reference? : Event → Option String
  | .reference id => some id
  | _ => none

/-- The footnotes that events refer to. -/
def referred (events : List Event) : List String :=
  events.filterMap Event.reference?

/-- The heads of events, after references that were made before. -/
def written (seen : List String) : List Event → List Head
  | [] => []
  | .jsx name attributes tight :: rest =>
    (if Event.isLost (.jsx name attributes tight) then [] else [(name, jsxProps attributes)])
      ++ written seen rest
  | .reference id :: rest =>
    ("sup", []) :: markHead id (seen.count id + 1) :: written (seen ++ [id]) rest
  | .note id :: rest => noteHead id :: written seen rest

theorem written_append (seen : List String) (events more : List Event) :
    written seen (events ++ more)
      = written seen events ++ written (seen ++ referred events) more := by
  induction events generalizing seen with
  | nil => simp [written, referred]
  | cons event rest ih =>
      cases event <;> simp [written, referred, List.filterMap_cons, Event.reference?, ih]

/-- What a JSX element with the given name gives before its content. -/
def jsxEvent (tight : Bool) (name : Option String) (attributes : List Attribute) : List Event :=
  (name.map fun name => Event.jsx name attributes tight).toList

section

variable (targets : Dict (String × Option String))

mutual

/-- What a node gives; `tight` says that it stands directly in an item of a tight list. So does what
stands in a reference that has no target, since nothing is put around it. -/
def events (tight : Bool) : Node → List Event
  | .footnoteReference id => [.reference id]
  | .jsxFlow name attributes cs => jsxEvent tight name attributes ++ rowEvents false cs
  | .jsxText name attributes cs => jsxEvent tight name attributes ++ rowEvents false cs
  | .root cs => rowEvents tight cs
  | .linkReference id _ _ cs => rowEvents (tight && (targets.get? id).isNone) cs
  | .list _ _ spread cs => itemEvents false (spread || cs.any isSpreadItem) cs
  | .listItem spread _ cs => rowEvents (!spread) cs
  | .table _ cs => tableEvents cs
  | .paragraph cs | .heading _ cs | .blockquote cs | .emphasis cs | .strong cs | .delete cs
  | .link _ _ cs => rowEvents false cs
  | _ => []

/-- What a row of nodes gives. -/
def rowEvents (tight : Bool) : List Node → List Event
  | [] => []
  | n :: rest => events tight n ++ rowEvents tight rest

/-- What the children of a list give. Its items are as loose as the list; what is no item may be
tight for another reason. -/
def itemEvents (tight loose : Bool) : List Node → List Event
  | [] => []
  | .listItem _ _ cs :: rest => rowEvents (!loose) cs ++ itemEvents tight loose rest
  | n :: rest => events tight n ++ itemEvents tight loose rest

/-- What the rows of a table give. -/
def tableEvents : List Node → List Event
  | [] => []
  | .tableRow cs :: rest => cellEvents cs ++ tableEvents rest
  | _ :: rest => tableEvents rest

/-- What the cells of a row give. -/
def cellEvents : List Node → List Event
  | [] => []
  | .tableCell cs :: rest => rowEvents false cs ++ cellEvents rest
  | _ :: rest => cellEvents rest

end

end

/-! ## Conversions that write events -/

/-- A conversion writes events: between the heads of these it has only heads of its own. The events
depend on whether the trees are put into a tight list, in which paragraphs are replaced by what they
hold. -/
structure Writes (refs : List String) (events : Bool → List Event)
    (m : StateM State (List Tree)) : Prop extends Performs refs m where
  told : ∀ tight, referred (events tight) = refs
  whole : ∀ {s : State} {since seen : List String}, s.Counts since seen →
    Inserted Made (written seen (events false)) (heads (m.run s).1)
  opened : ∀ {s : State} {since seen : List String}, s.Counts since seen →
    Inserted Made (written seen (events true)) (heads (opened (m.run s).1))

namespace Writes

variable {refs more : List String} {es es' : Bool → List Event} {m m' : StateM State (List Tree)}

theorem made {ts : List Tree} (h : ∀ head ∈ heads ts, Made head) :
    Writes [] (fun _ => []) (pure ts) :=
  { toPerforms := .pure ts
    told := fun _ => rfl
    whole := fun _ => .of_forall h
    opened := fun _ => .of_forall fun head hhead => h head (heads_opened_subset ts hhead) }

theorem append (h : Writes refs es m) (h' : Writes more es' m') :
    Writes (refs ++ more) (fun tight => es tight ++ es' tight)
      (do let here ← m; return here ++ (← m')) := by
  have hrun : ∀ s, ((do let here ← m; return here ++ (← m') : StateM State (List Tree)).run s).1
      = (m.run s).1 ++ (m'.run (m.run s).2).1 := fun _ => rfl
  refine ⟨h.toPerforms.append h'.toPerforms, fun tight => ?_, fun hs => ?_, fun hs => ?_⟩
  · have htold := h.told tight
    have htold' := h'.told tight
    rw [referred] at htold htold' ⊢
    rw [List.filterMap_append, htold, htold']
  · rw [hrun, heads_append, written_append, h.told]
    exact (h.whole hs).append (h'.whole (h.counts hs))
  · rw [hrun, opened_append, heads_append, written_append, h.told]
    exact (h.opened hs).append (h'.opened (h.counts hs))

/-- What is done before a conversion does not matter if it numbers and counts nothing. -/
theorem after {first : StateM State Unit}
    (hfirst : ∀ s, (first.run s).2.order = s.order ∧ (first.run s).2.uses = s.uses)
    (h : Writes refs es m) : Writes refs es (do first; m) :=
  { toPerforms := h.toPerforms.after hfirst
    told := h.told
    whole := fun hs => h.whole (hs.same (hfirst _))
    opened := fun hs => h.opened (hs.same (hfirst _)) }

/-- One tree, other than a paragraph, is put around what a conversion makes. -/
theorem around (h : Writes refs es m) {shape : List Tree → Tree}
    (hname : ∀ ts, (shape ts).isNamed "p" = false)
    (hraised : ∀ ts, (raised ts).Sublist (raised [shape ts]))
    (hshape : ∀ ts, Inserted Made (heads ts) (heads [shape ts])) :
    Writes refs (fun _ => es false) (do return [shape (← m)]) := by
  have hwhole : ∀ {s : State} {since seen : List String}, s.Counts since seen →
      Inserted Made (written seen (es false)) (heads [shape (m.run s).1]) :=
    fun hs => (h.whole hs).trans (hshape _)
  refine ⟨h.toPerforms.map hraised, fun _ => h.told false, hwhole, fun {s _ _} hs => ?_⟩
  have hopened := opened_single (hname (m.run s).1)
  exact (hwhole hs).trans (.of_eq (congrArg heads hopened))

theorem element (h : Writes refs es m) {name : String} {props : List (String × PropValue)}
    (hname : name ≠ "p") (hmade : Made (name, props)) :
    Writes refs (fun _ => es false) (do return [.element name props (← m)]) :=
  h.around (fun _ => by simp [Tree.isNamed, hname]) (raised_sublist_element name props)
    (inserted_element hmade)

/-- An element around a row on lines of its own. -/
theorem lined (h : Writes refs es m) {name : String} {props : List (String × PropValue)}
    (hname : name ≠ "p") (hmade : Made (name, props)) :
    Writes refs (fun _ => es false) (do return [.element name props (onLines (← m))]) := by
  refine h.around (fun _ => by simp [Tree.isNamed, hname]) (fun ts => ?_) (inserted_onLines hmade)
  have hsub := raised_sublist_element name props (onLines ts)
  rwa [transparent_raised.onLines] at hsub

/-- A paragraph that stands in a tight list is gone, and what it holds stands there. -/
theorem paragraph (h : Writes refs es m) :
    Writes refs (fun _ => es false) (do return [.plain "p" (← m)]) := by
  refine ⟨h.toPerforms.element "p" [], fun _ => h.told false, fun hs => ?_, fun {s _ _} hs => ?_⟩
  · exact (h.whole hs).trans (inserted_element (.plain (by decide)) _)
  · have hopened : Convert.opened [.plain "p" (m.run s).1] = (m.run s).1 := by
      simp [Convert.opened, Tree.plain]
    exact (h.whole hs).trans (.of_eq (congrArg heads hopened))

theorem item (h : Writes refs es m) (loose : Bool) (checked : Option Bool) :
    Writes refs (fun _ => es (!loose)) (do return [listItem loose checked (← m)]) := by
  have hwhole : ∀ {s : State} {since seen : List String}, s.Counts since seen →
      Inserted Made (written seen (es (!loose))) (heads [listItem loose checked (m.run s).1]) := by
    intro s since seen hs
    refine .trans ?_ (inserted_listItem loose checked (m.run s).1)
    cases loose
    · exact h.opened hs
    · exact h.whole hs
  have hraised := h.toPerforms.map_eq fun ts => transparent_raised.listItem loose checked ts
  refine ⟨hraised, fun _ => h.told _, hwhole, fun {s _ _} hs => ?_⟩
  have hopened := opened_single (t := listItem loose checked (m.run s).1)
    (by simp [listItem, Tree.isNamed])
  exact (hwhole hs).trans (.of_eq (congrArg heads hopened))

/-- The brackets of a reference without a target are texts around what stands between them. -/
theorem brackets (h : Writes refs es m) (before after : String) :
    Writes refs es (do return .text before :: ((← m) ++ [.text after])) := by
  refine ⟨h.toPerforms.map_eq fun ts => ?_, h.told, fun {s _ _} hs => ?_, fun {s _ _} hs => ?_⟩
  · rw [transparent_raised.cons, raised_append]
    exact List.append_nil _
  · have hheads : heads (.text before :: ((m.run s).1 ++ [.text after])) = heads (m.run s).1 := by
      simp
    exact (h.whole hs).trans (.of_eq hheads)
  · have hheads : heads (Convert.opened (.text before :: ((m.run s).1 ++ [.text after])))
        = heads (Convert.opened (m.run s).1) := by
      simp [Convert.opened, opened_append]
    exact (h.opened hs).trans (.of_eq hheads)

theorem jsx (h : Writes refs es m) (name : Option String) (attributes : List Attribute) :
    Writes refs (fun tight => jsxEvent tight name attributes ++ es false)
      (do return [← jsx name attributes (← m)]) := by
  refine ⟨h.toPerforms.jsx name attributes, fun tight => ?_, fun {s _ _} hs => ?_,
    fun {s _ seen} hs => ?_⟩
  · rw [← h.told false]
    cases name <;> rfl
  · have hwhole := h.whole hs
    cases name with
    | none =>
        have hheads : heads [.fragment (m.run s).1] = heads (m.run s).1 := by simp
        exact hwhole.trans (.of_eq hheads)
    | some name =>
        have hheads : heads [.element name (jsxProps attributes) (m.run s).1]
            = (name, jsxProps attributes) :: heads (m.run s).1 := by simp
        exact (Inserted.keep _ hwhole).trans (.of_eq hheads)
  · have hwhole := h.whole hs
    cases name with
    | none =>
        have hheads : heads (Convert.opened [.fragment (m.run s).1]) = heads (m.run s).1 := by
          simp [Convert.opened]
        exact hwhole.trans (.of_eq hheads)
    | some name =>
        by_cases hname : name = "p"
        · -- The element is taken for a paragraph, so it is lost.
          subst hname
          have hheads : heads (Convert.opened [.element "p" (jsxProps attributes) (m.run s).1])
              = heads (m.run s).1 := by simp [Convert.opened]
          exact hwhole.trans (.of_eq hheads)
        · have hheads : heads (Convert.opened [.element name (jsxProps attributes) (m.run s).1])
              = (name, jsxProps attributes) :: heads (m.run s).1 := by
            simp [Convert.opened, hname]
          have hkept : ∀ rest, written seen (jsxEvent true (some name) attributes ++ rest)
              = (name, jsxProps attributes) :: written seen rest := by
            simp [jsxEvent, written, Event.isLost, hname]
          rw [hkept]
          exact (Inserted.keep _ hwhole).trans (.of_eq hheads)

theorem reference (id : String) :
    Writes [id] (fun _ => [.reference id]) (do return [← footnoteReference id]) := by
  have hwhole : ∀ {s : State} {since seen : List String}, s.Counts since seen →
      heads [((footnoteReference id).run s).1] = written seen [.reference id] := by
    intro s since seen hs
    rw [(hs.reference id).2]
    simp [footnoteMark, Tree.plain, written, markHead]
  refine ⟨.reference id, fun _ => rfl, fun hs => .of_eq (hwhole hs), fun {s _ _} hs => ?_⟩
  have hopened := opened_single (t := ((footnoteReference id).run s).1)
    (by rw [(hs.reference id).2]; simp [footnoteMark, Tree.plain, Tree.isNamed])
  exact .of_eq ((congrArg heads hopened).trans (hwhole hs))

/-- A note is an item around what its definition is converted to. -/
theorem note (h : Writes refs es m) (id : String) (position : Nat) :
    Writes refs (fun _ => .note id :: es false)
      (do return [footnoteItem id position (← m)]) := by
  have hwhole : ∀ {s : State} {since seen : List String}, s.Counts since seen →
      Inserted Made (written seen (.note id :: es false))
        (heads [footnoteItem id position (m.run s).1]) :=
    fun hs => (Inserted.keep _ (h.whole hs)).trans (inserted_footnoteItem id position _)
  have hraised := h.toPerforms.map_eq fun ts => raised_footnoteItem id position ts
  refine ⟨hraised, fun _ => h.told false, hwhole, fun {s _ _} hs => ?_⟩
  have hopened := opened_single (t := footnoteItem id position (m.run s).1) rfl
  exact (hwhole hs).trans (.of_eq (congrArg heads hopened))

end Writes

/-! ## Nodes -/

section

variable (targets : Dict (String × Option String))

/-- Of the children of a table only the rows give anything. -/
theorem tableEvents_cons {n : Node} (h : ∀ inner, n ≠ .tableRow inner) (rest : List Node) :
    tableEvents targets (n :: rest) = tableEvents targets rest := by
  cases n <;> first | rfl | exact absurd rfl (h _)

/-- Of the children of a row only the cells give anything. -/
theorem cellEvents_cons {n : Node} (h : ∀ inner, n ≠ .tableCell inner) (rest : List Node) :
    cellEvents targets (n :: rest) = cellEvents targets rest := by
  cases n <;> first | rfl | exact absurd rfl (h _)

theorem itemEvents_cons {n : Node} (h : ∀ spread checked inner, n ≠ .listItem spread checked inner)
    (tight loose : Bool) (rest : List Node) :
    itemEvents targets tight loose (n :: rest)
      = events targets tight n ++ itemEvents targets tight loose rest := by
  cases n <;> first | rfl | exact absurd rfl (h _ _ _)

/-! ### Events of nodes -/

/-- An event without its place. -/
def Event.bare : Event → Event
  | .jsx name attributes _ => .jsx name attributes false
  | event => event

/-- What a node gives itself, apart from the nodes below it. -/
def given? : Node → Option Event
  | .jsxFlow (some name) attributes _ | .jsxText (some name) attributes _ =>
    some (.jsx name attributes false)
  | .footnoteReference id => some (.reference id)
  | _ => none

/-- Where tables are well formed, whatever is met gives what its nodes give, footnote definitions
apart. -/
theorem walk_given :
    Walk
      (fun n => (∀ m ∈ n.outside, m.isTabular = true) → n.isRow = false → n.isCell = false →
        ∀ tight, (events targets tight n).map Event.bare = n.outside.filterMap given?)
      (fun cs => (∀ m ∈ Node.rowNodes false cs, m.isTabular = true) →
        (∀ c ∈ cs, c.isRow = false ∧ c.isCell = false) →
          ∀ tight, (rowEvents targets tight cs).map Event.bare
            = (Node.rowNodes false cs).filterMap given?)
      (fun cs => (∀ m ∈ Node.rowNodes false cs, m.isTabular = true) →
        (∀ c ∈ cs, c.isRow = false ∧ c.isCell = false) →
          ∀ tight loose, (itemEvents targets tight loose cs).map Event.bare
            = (Node.rowNodes false cs).filterMap given?)
      (fun cs => (∀ m ∈ Node.rowNodes false cs, m.isTabular = true) →
        (∀ c ∈ cs, c.isRow = true) →
          (tableEvents targets cs).map Event.bare = (Node.rowNodes false cs).filterMap given?)
      (fun cs => (∀ m ∈ Node.rowNodes false cs, m.isTabular = true) →
        (∀ c ∈ cs, c.isCell = true) →
          (cellEvents targets cs).map Event.bare
            = (Node.rowNodes false cs).filterMap given?) where
  node n hgiven hitems hrows h hrow hcell tight := by
    obtain ⟨hself, hbelow⟩ := List.forall_mem_cons.mp h
    have hplain := children_plain hself
    cases n with
    | root cs => exact hgiven hbelow (hplain (by simp) rfl) tight
    | paragraph cs | heading depth cs | blockquote cs | emphasis cs | strong cs | delete cs
    | link url title cs => exact hgiven hbelow (hplain (by simp) rfl) false
    | linkReference id label kind cs => exact hgiven hbelow (hplain (by simp) rfl) _
    | listItem spread checked cs => exact hgiven hbelow (hplain (by simp) rfl) _
    | list ordered start spread cs => exact hitems hbelow (hplain (by simp) rfl) false _
    | table align cs => exact hrows hbelow (List.all_eq_true.mp hself)
    | jsxFlow name attributes cs | jsxText name attributes cs =>
        have hinner := hgiven hbelow (hplain (by simp) rfl) false
        cases name with
        | none => exact hinner
        | some name => exact congrArg (Event.jsx name attributes false :: ·) hinner
    | tableRow cs => cases hrow
    | tableCell cs => cases hcell
    | _ => rfl
  row_nil _ _ _ := rfl
  row_cons n rest hn hrest h hplain tight := by
    obtain ⟨hhere, hmore⟩ := List.forall_mem_append.mp (Node.rowNodes_false_cons n rest ▸ h)
    obtain ⟨⟨hrow, hcell⟩, hplain⟩ := List.forall_mem_cons.mp hplain
    rw [Node.rowNodes_false_cons, rowEvents, List.map_append, List.filterMap_append,
      hn hhere hrow hcell, hrest hmore hplain]
  items_nil _ _ _ _ := rfl
  items_item spread checked inner rest hinner hrest h hplain tight loose := by
    obtain ⟨hhere, hmore⟩ := List.forall_mem_append.mp (Node.rowNodes_false_cons _ rest ▸ h)
    obtain ⟨hself, hbelow⟩ := List.forall_mem_cons.mp hhere
    have hcontent := hinner hbelow (children_plain hself (by simp) rfl) (!loose)
    rw [Node.rowNodes_false_cons, itemEvents, List.map_append, List.filterMap_append, hcontent,
      hrest hmore (List.forall_mem_cons.mp hplain).2]
    rfl
  items_other n rest hother hn hrest h hplain tight loose := by
    obtain ⟨hhere, hmore⟩ := List.forall_mem_append.mp (Node.rowNodes_false_cons n rest ▸ h)
    obtain ⟨⟨hrow, hcell⟩, hplain⟩ := List.forall_mem_cons.mp hplain
    rw [Node.rowNodes_false_cons, itemEvents_cons targets hother, List.map_append,
      List.filterMap_append, hn hhere hrow hcell, hrest hmore hplain]
  rows_nil _ _ := rfl
  rows_row inner rest hinner hrest h hrows := by
    obtain ⟨hhere, hmore⟩ := List.forall_mem_append.mp (Node.rowNodes_false_cons _ rest ▸ h)
    obtain ⟨hself, hbelow⟩ := List.forall_mem_cons.mp hhere
    rw [Node.rowNodes_false_cons, tableEvents, List.map_append, List.filterMap_append,
      hinner hbelow (List.all_eq_true.mp hself), hrest hmore (List.forall_mem_cons.mp hrows).2]
    rfl
  rows_other n rest hother _ _ hrows := by
    obtain ⟨inner, hn⟩ := eq_tableRow (hrows n List.mem_cons_self)
    exact absurd hn (hother inner)
  cells_nil _ _ := rfl
  cells_cell inner rest hinner hrest h hcells := by
    obtain ⟨hhere, hmore⟩ := List.forall_mem_append.mp (Node.rowNodes_false_cons _ rest ▸ h)
    obtain ⟨hself, hbelow⟩ := List.forall_mem_cons.mp hhere
    have hcontent := hinner hbelow (children_plain hself (by simp) rfl) false
    rw [Node.rowNodes_false_cons, cellEvents, List.map_append, List.filterMap_append, hcontent,
      hrest hmore (List.forall_mem_cons.mp hcells).2]
    rfl
  cells_other n rest hother _ _ hcells := by
    obtain ⟨inner, hn⟩ := eq_tableCell (hcells n List.mem_cons_self)
    exact absurd hn (hother inner)

/-- Where tables are well formed, the events of a node are those of the nodes of which it is made,
footnote definitions apart. They come in document order. -/
theorem events_given (n : Node) (h : ∀ m ∈ n.outside, m.isTabular = true) (hrow : n.isRow = false)
    (hcell : n.isCell = false) (tight : Bool) :
    (events targets tight n).map Event.bare = n.outside.filterMap given? :=
  (walk_given targets).node_holds n h hrow hcell tight

/-! ### Conversion of nodes -/

/-- Whatever conversion meets, it writes what is given there. -/
theorem walk_writes :
    Walk
      (fun n => Writes n.references (fun tight => events targets tight n) (node targets n))
      (fun cs => Writes (Node.rowReferences cs) (fun tight => rowEvents targets tight cs)
        (row targets cs))
      (fun cs => ∀ loose, Writes (Node.rowReferences cs)
        (fun tight => itemEvents targets tight loose cs) (items targets loose cs))
      (fun cs => ∀ align, ∀ name ∉ ["sup", "a", "li", "p"], Writes (Node.tableReferences cs)
        (fun _ => tableEvents targets cs) (rows targets align name cs))
      (fun cs => ∀ align, ∀ name ∉ ["sup", "a", "li", "p"], Writes (Node.cellReferences cs)
        (fun _ => cellEvents targets cs) (cells targets align name cs)) where
  node n hrow hitems hrows := by
    cases n with
    | root cs => exact hrow
    | paragraph cs => exact hrow.paragraph
    | heading depth cs => exact hrow.element (heading_ne (by decide) depth) (.heading depth)
    | emphasis cs | strong cs | delete cs => exact hrow.element (by decide) (.plain (by decide))
    | blockquote cs => exact hrow.lined (by decide) (.plain (by decide))
    | link url title cs => exact hrow.element (by decide) (.link url title)
    | linkReference id label kind cs =>
        simp only [node_linkReference, events]
        cases targets.get? id with
        | some target =>
            simp only [Option.isNone_some, Bool.and_false]
            exact hrow.element (by decide) (.link target.1 target.2)
        | none =>
            simp only [Option.isNone_none, Bool.and_true]
            exact hrow.brackets "[" ("]" ++ referenceSuffix kind label)
    | listItem spread checked cs => exact hrow.item spread checked
    | list ordered start spread cs =>
        have hname : ∀ ts, (list ordered start (cs.any isTask) ts).isNamed "p" = false := by
          intro ts
          cases ordered <;> simp [list, Tree.isNamed]
        refine (hitems (spread || cs.any isSpreadItem)).around hname (fun ts => ?_)
          (inserted_list ordered start (cs.any isTask))
        rw [transparent_raised.list]
    | table align cs =>
        refine (hrows align "th" (by decide)).around (fun ts => rfl) (fun ts => ?_)
          inserted_table
        rw [transparent_raised.table]
    | jsxFlow name attributes cs => exact hrow.jsx name attributes
    | jsxText name attributes cs => exact hrow.jsx name attributes
    | footnoteReference id => exact .reference id
    | imageReference id label kind alt =>
        rw [node_imageReference]
        cases targets.get? id with
        | some target => exact .made (by simpa [image] using .of_name (by decide) _)
        | none => exact .made (by simp)
    | text value => exact .made (by simp)
    | inlineCode value => exact .made (by simpa [Tree.plain] using .plain (by decide))
    | inlineMath value => exact .made (by simpa using .of_name (by decide) _)
    | code value lang info => exact .made (codeBlock_made _ value)
    | math value => exact .made (codeBlock_made _ value)
    | lineBreak => exact .made (by simpa [Tree.plain] using .plain (by decide))
    | thematicBreak => exact .made (by simpa [Tree.plain] using .plain (by decide))
    | image url alt title => exact .made (by simpa [image] using .of_name (by decide) _)
    | definition id url title | footnoteDefinition id cs | yaml value | toml value =>
        exact .made (by simp)
    | html value | esm value | flowExpression value | textExpression value | tableRow cs
    | tableCell cs => exact .after (fun s => ⟨rfl, rfl⟩) (.made (by simp))
  row_nil := .made (by simp)
  row_cons n rest hn hrest := hn.append hrest
  items_nil _ := .made (by simp)
  items_item spread checked inner rest hinner hrest loose :=
    (hinner.item loose checked).append (hrest loose)
  items_other n rest hother hn hrest loose := by
    simp only [items_cons hother, itemEvents_cons targets hother]
    exact hn.append (hrest loose)
  rows_nil _ _ _ := .made (by simp)
  rows_row inner rest hinner hrest align name hname := by
    have hmade : Made ("tr", []) := .plain (by decide)
    exact ((hinner align name hname).lined (by decide) hmade).append (hrest align "td" (by decide))
  rows_other n rest hother hrest align name hname := by
    rw [rows_cons hother, tableReferences_cons hother, tableEvents_cons targets hother]
    exact hrest align name hname
  cells_nil _ _ _ := .made (by simp)
  cells_cell inner rest hinner hrest align name hname := by
    have hp : name ≠ "p" := by
      rintro rfl
      simp at hname
    exact (hinner.element hp (.of_name hname _)).append (hrest align.tail name hname)
  cells_other n rest hother hrest align name hname := by
    rw [cells_cons hother, cellReferences_cons hother, cellEvents_cons targets hother]
    exact hrest align.tail name hname

/-- The conversion of a node writes what the node gives. -/
theorem node_writes (n : Node) :
    Writes n.references (fun tight => events targets tight n) (node targets n) :=
  (walk_writes targets).node_holds n

theorem row_writes (cs : List Node) :
    Writes (Node.rowReferences cs) (fun tight => rowEvents targets tight cs) (row targets cs) :=
  (walk_writes targets).row_holds cs

end

/-! ## Documents -/

/-- What the notes of footnotes give, in the order of the footnotes. -/
def noteEvents (document : Node) (order : List String) : List Event :=
  order.flatMap fun id =>
    match document.noteOf id with
    | some content =>
      .note id :: rowEvents (Definitions.collect {} document).targets false content
    | none => []

/-- What a document gives: its body, and then the notes of the footnotes that the body refers to. -/
def documentEvents (document : Node) : List Event :=
  events (Definitions.collect {} document).targets false document
    ++ noteEvents document document.numbering

theorem notes_writes (document : Node) (order : List String) (position : Nat) :
    Writes (order.flatMap fun id => ((document.noteOf id).map Node.rowReferences).getD [])
      (fun _ => noteEvents document order)
      (notes (Definitions.collect {} document) position order) := by
  induction order generalizing position with
  | nil => exact .made (by simp)
  | cons id rest ih =>
      simp only [notes, notes_collect, noteEvents, List.flatMap_cons]
      cases document.noteOf id with
      | none => exact .after (fun s => ⟨rfl, rfl⟩) (ih (position + 1))
      | some content =>
          have hcontent := row_writes (Definitions.collect {} document).targets content
          exact (hcontent.note id position).append (ih (position + 1))

theorem blocks_written (document : Node) :
    Inserted Made (written [] (events (Definitions.collect {} document).targets false document))
      (heads ((blocks (Definitions.collect {} document) document).run {}).1) := by
  have hnode := (node_writes (Definitions.collect {} document).targets document).whole .empty
  rcases blocks_cases (Definitions.collect {} document) document with hblocks | hblocks
  · rw [hblocks]
    exact hnode.trans (.of_eq (heads_joinLines _))
  · rw [hblocks]
    exact hnode

/-- Every element of a converted document is given by the document, in its order, or made by
conversion. -/
theorem convert_written (document : Node) :
    Inserted Made (written [] (documentEvents document))
      (heads (convert document).root.children) := by
  obtain ⟨lead, s, hlead, hcounts, hchildren⟩ := convert_children document
  have hlead : heads lead = [] := by rcases hlead with rfl | rfl <;> rfl
  have htold := (node_writes (Definitions.collect {} document).targets document).told false
  have hnotes := (notes_writes document document.numbering 1).whole hcounts
  rw [hchildren, documentEvents, written_append, heads_append, htold]
  refine (blocks_written document).append ?_
  split
  · rename_i hnone
    rw [hnone]
    exact .nil
  · rw [heads_append, hlead, List.nil_append]
    exact hnotes.trans (inserted_footnoteSection _)

end Convert

end Mdx
