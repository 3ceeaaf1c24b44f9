import Mathlib.Data.List.Nodup
import Mdx.Proofs.Convert.Elements

/-!
# Anchors of footnotes

The link in the mark of a reference and the note of a footnote have an `id` each, by which the page
is navigated. That of a mark is made of the name of the footnote and, from the second use on, of a
number after a hyphen; that of a note is made of the name. The main statement is
`anchors_unique_iff`: no two of them are equal unless a footnote with the number of one of its uses
spells the name of another footnote. `anchors_repeat` has a document in which one does.
-/

namespace Mdx

namespace Inserted

variable {α : Type} {p q : α → Prop} {xs ys : List α}

theorem imp (h : Inserted p xs ys) (hpq : ∀ y, p y → q y) : Inserted q xs ys := by
  induction h with
  | nil => exact .nil
  | keep x _ ih => exact .keep x ih
  | put hy _ ih => exact .put (hpq _ hy) ih

end Inserted

namespace Convert

open Markdown (Node)

/-! ## Names and anchors -/

/-- A name that is written in lower case and without white space. -/
structure IsPlain (id : String) : Prop where
  lower : Text.lower id = id
  solid : ∀ c ∈ id.toList, Text.isBlank c = false

instance (id : String) : Decidable (IsPlain id) :=
  decidable_of_iff (Text.lower id = id ∧ id.toList.all (!Text.isBlank ·) = true)
    ⟨fun h => ⟨h.1, by simpa using h.2⟩, fun h => ⟨h.lower, by simpa using h.solid⟩⟩

/-- A plain name stands in anchors as it is. -/
theorem IsPlain.footnoteId_eq {id : String} (h : IsPlain id) : footnoteId id = id := by
  have hsame : (id.toList.map fun c => if Text.isBlank c then '-' else c) = id.toList := by
    rw [List.map_congr_left fun c hc => if_neg (by simp [h.solid c hc])]
    exact List.map_id _
  rw [footnoteId, hsame, String.ofList_toList, h.lower]

/-- The anchor of the note of a footnote with a plain name. -/
def noteAnchor (id : String) : String :=
  "user-content-fn-" ++ id

/-- What has an anchor: the mark of a use of a footnote, and its note. -/
inductive Anchor where
  | mark (id : String) (use : Nat)
  | note (id : String)
  deriving DecidableEq

namespace Anchor

def head : Anchor → Head
  | mark id use => markHead id use
  | note id => noteHead id

def text : Anchor → String
  | mark id use => markAnchor id use
  | note id => noteAnchor id

/-- The footnote. -/
def name : Anchor → String
  | mark id _ | note id => id

theorem get?_head {anchor : Anchor} (h : IsPlain anchor.name) :
    anchor.head.2.get? "id" = some (.string anchor.text) := by
  cases anchor with
  | mark id use =>
      have hplain : IsPlain id := h
      rw [head, get?_markHead, hplain.footnoteId_eq]
      rfl
  | note id =>
      have hget : (noteHead id).2.get? "id"
          = some (.string ("user-content-fn-" ++ footnoteId id)) := rfl
      have hplain : IsPlain id := h
      rw [head, hget, hplain.footnoteId_eq]
      rfl

end Anchor

theorem hyphen_not_mem_toString (n : Nat) : '-' ∉ (toString n).toList := by
  rw [Nat.toString_eq_repr, Nat.repr, String.toList_ofList]
  intro h
  exact absurd (Nat.isDigit_of_mem_toDigits (by decide) (by decide) h) (by decide)

/-- A text is cut in one way at a hyphen after which there is no other. -/
theorem append_hyphen_inj {xs ys ds es : List Char} (hds : '-' ∉ ds) (hes : '-' ∉ es)
    (h : xs ++ '-' :: ds = ys ++ '-' :: es) : xs = ys ∧ ds = es := by
  rcases List.append_eq_append_iff.mp h with ⟨more, hys, hrest⟩ | ⟨more, hxs, hrest⟩
  · cases more with
    | nil => exact ⟨by simpa using hys.symm, by simpa using hrest⟩
    | cons c more => exact absurd (by simp [(List.cons.inj hrest).2]) hds
  · cases more with
    | nil => exact ⟨by simpa using hxs, by simpa using hrest.symm⟩
    | cons c more => exact absurd (by simp [(List.cons.inj hrest).2]) hes

/-- A name and a number can be told from the name with the number after a hyphen. -/
theorem numbered_inj {id id' : String} {k k' : Nat}
    (h : id ++ ("-" ++ toString k) = id' ++ ("-" ++ toString k')) : id = id' ∧ k = k' := by
  have hchars : id.toList ++ '-' :: (toString k).toList
      = id'.toList ++ '-' :: (toString k').toList := by
    have hlist := congrArg String.toList h
    simp only [String.toList_append] at hlist
    exact hlist
  obtain ⟨hid, hk⟩ :=
    append_hyphen_inj (hyphen_not_mem_toString k) (hyphen_not_mem_toString k') hchars
  exact ⟨String.toList_injective hid, toString_inj (String.toList_injective hk)⟩

/-! ## Anchors in order -/

/-- The footnote whose note is given. -/
def Event.note? : Event → Option String
  | .note id => some id
  | _ => none

/-- The footnotes whose notes are given. -/
def noted (events : List Event) : List String :=
  events.filterMap Event.note?

theorem noted_append (events more : List Event) :
    noted (events ++ more) = noted events ++ noted more :=
  List.filterMap_append

/-- The anchors of events, after references that were made before. -/
def anchorsAfter (seen : List String) : List Event → List Anchor
  | [] => []
  | .jsx _ _ _ :: rest => anchorsAfter seen rest
  | .reference id :: rest => .mark id (seen.count id + 1) :: anchorsAfter (seen ++ [id]) rest
  | .note id :: rest => .note id :: anchorsAfter seen rest

/-- The uses of a footnote are numbered one after another. -/
theorem mark_mem_anchorsAfter {seen : List String} {events : List Event} {id : String} {use : Nat} :
    .mark id use ∈ anchorsAfter seen events
      ↔ seen.count id < use ∧ use ≤ (seen ++ referred events).count id := by
  induction events generalizing seen with
  | nil =>
      simp only [anchorsAfter, referred, List.filterMap_nil, List.append_nil, List.not_mem_nil,
        false_iff]
      omega
  | cons event rest ih =>
      cases event with
      | jsx name attributes tight => exact ih
      | note other =>
          have hreferred : referred (.note other :: rest) = referred rest := rfl
          rw [anchorsAfter, List.mem_cons, ih, hreferred]
          simp
      | reference other =>
          have hreferred : seen ++ referred (.reference other :: rest)
              = seen ++ [other] ++ referred rest := by
            simp [referred, Event.reference?]
          rw [anchorsAfter, List.mem_cons, ih, hreferred, Anchor.mark.injEq]
          by_cases hid : other = id
          · subst hid
            simp only [beq_self_eq_true, if_true, true_and, List.count_append, List.count_singleton]
            omega
          · have hne : (other == id) = false := by simpa using hid
            simp [List.count_append, List.count_singleton, hne, Ne.symm hid]

theorem note_mem_anchorsAfter {seen : List String} {events : List Event} {id : String} :
    .note id ∈ anchorsAfter seen events ↔ id ∈ noted events := by
  induction events generalizing seen with
  | nil => simp [anchorsAfter, noted]
  | cons event rest ih =>
      cases event with
      | jsx name attributes tight => exact ih
      | reference other =>
          have hnoted : noted (.reference other :: rest) = noted rest := rfl
          rw [anchorsAfter, List.mem_cons, ih, hnoted]
          simp
      | note other =>
          rw [anchorsAfter, List.mem_cons, ih, Anchor.note.injEq]
          simp [noted, Event.note?]

/-- No use and no note comes twice. -/
theorem nodup_anchorsAfter {seen : List String} {events : List Event} (h : (noted events).Nodup) :
    (anchorsAfter seen events).Nodup := by
  induction events generalizing seen with
  | nil => exact List.nodup_nil
  | cons event rest ih =>
      cases event with
      | jsx name attributes tight => exact ih h
      | reference id =>
          refine List.nodup_cons.mpr ⟨?_, ih h⟩
          rw [mark_mem_anchorsAfter]
          simp
      | note id =>
          have hnoted : noted (.note id :: rest) = id :: noted rest := rfl
          obtain ⟨hid, hrest⟩ := List.nodup_cons.mp (hnoted ▸ h)
          refine List.nodup_cons.mpr ⟨?_, ih hrest⟩
          rwa [note_mem_anchorsAfter]

/-- A head that is no anchor of a footnote: it is none by its looks, or it is that of a JSX element
among the events. -/
def NoAnchor (events : List Event) (head : Head) : Prop :=
  (isMark head = false ∧ isNote head = false) ∨ head ∈ (events.filterMap Event.jsx?).map jsxHead

/-- Of what is written, the anchors are those of the events. -/
theorem inserted_anchorsAfter (seen : List String) (events : List Event) :
    Inserted (NoAnchor events) ((anchorsAfter seen events).map Anchor.head)
      (written seen events) := by
  induction events generalizing seen with
  | nil => exact .nil
  | cons event rest ih =>
      have hmore : ∀ head, NoAnchor rest head → NoAnchor (event :: rest) head := by
        intro head hhead
        refine hhead.imp_right fun hjsx => ?_
        have hsub : (rest.filterMap Event.jsx?).Sublist ((event :: rest).filterMap Event.jsx?) :=
          (List.sublist_cons_self event rest).filterMap Event.jsx?
        exact (hsub.map jsxHead).subset hjsx
      cases event with
      | jsx name attributes tight =>
          have hrest := (ih seen).imp hmore
          rw [written]
          cases Event.isLost (.jsx name attributes tight) with
          | true => exact hrest
          | false => exact .put (.inr List.mem_cons_self) hrest
      | reference id => exact .put (.inl ⟨rfl, rfl⟩) (.keep _ ((ih _).imp hmore))
      | note id => exact .keep _ ((ih seen).imp hmore)

/-! ## Clashes -/

/-- No footnote, with the number of one of its later uses after a hyphen, spells a footnote. -/
def IsApart (uses : List String) : Prop :=
  ∀ id ∈ uses, ∀ use ≤ uses.count id, 2 ≤ use → id ++ "-" ++ toString use ∉ uses

instance (uses : List String) : Decidable (IsApart uses) :=
  inferInstanceAs (Decidable (∀ id ∈ uses, ∀ use ≤ uses.count id, 2 ≤ use →
    id ++ "-" ++ toString use ∉ uses))

theorem markAnchor_one (id : String) : markAnchor id 1 = "user-content-fnref-" ++ id := by
  unfold markAnchor
  simp

theorem markAnchor_more {use : Nat} (h : 2 ≤ use) (id : String) :
    markAnchor id use = "user-content-fnref-" ++ (id ++ ("-" ++ toString use)) := by
  have hne : (use == 1) = false := beq_eq_false_iff_ne.mpr (by omega)
  unfold markAnchor
  simp [hne]

/-- The anchor of a use is not that of a note. -/
theorem markAnchor_ne_noteAnchor (id : String) (use : Nat) (other : String) :
    markAnchor id use ≠ noteAnchor other := by
  unfold markAnchor noteAnchor
  intro h
  have hchars := congrArg String.toList h
  rw [String.toList_append, String.toList_append] at hchars
  exact absurd (congrArg (·[15]?) hchars) (by simp)

/-- The anchors of all uses and of notes are distinct exactly if no name clashes with a numbered
name. -/
theorem texts_nodup_iff {anchors : List Anchor} {uses : List String} (hnodup : anchors.Nodup)
    (hmark : ∀ id use, .mark id use ∈ anchors ↔ 0 < use ∧ use ≤ uses.count id) :
    (anchors.map Anchor.text).Nodup ↔ IsApart uses := by
  rw [List.nodup_map_iff_inj_on hnodup]
  constructor
  · intro hinj id hid use hcount huse hother
    have hmore := (hmark id use).mpr ⟨by omega, hcount⟩
    have hone := (hmark _ 1).mpr ⟨Nat.one_pos, List.count_pos_iff.mpr hother⟩
    have htext : markAnchor id use = markAnchor (id ++ "-" ++ toString use) 1 := by
      rw [markAnchor_more huse, markAnchor_one, String.append_assoc]
    obtain ⟨-, hone⟩ := Anchor.mark.inj (hinj _ hmore _ hone htext)
    omega
  · intro hapart
    -- A later use of one footnote is not taken for the first of another.
    have hlater : ∀ {id other : String} {use : Nat}, .mark id use ∈ anchors → 2 ≤ use →
        .mark other 1 ∈ anchors → markAnchor id use ≠ markAnchor other 1 := by
      intro id other use hid huse hother htext
      rw [markAnchor_more huse, markAnchor_one, String.append_right_inj] at htext
      have hcount := ((hmark id use).mp hid).2
      have hmem : id ∈ uses := List.count_pos_iff.mp (by omega)
      refine hapart id hmem use hcount huse ?_
      rw [String.append_assoc, htext]
      exact List.count_pos_iff.mp ((hmark other 1).mp hother).2
    intro x hx y hy htext
    cases x with
    | note id =>
        cases y with
        | note other => rw [(String.append_right_inj _).mp htext]
        | mark other use => exact absurd htext.symm (markAnchor_ne_noteAnchor other use id)
    | mark id use =>
        cases y with
        | note other => exact absurd htext (markAnchor_ne_noteAnchor id use other)
        | mark other use' =>
            have hpos := ((hmark id use).mp hx).1
            have hpos' := ((hmark other use').mp hy).1
            rcases Nat.lt_or_ge use 2 with hone | hmore
            · obtain rfl : use = 1 := by omega
              rcases Nat.lt_or_ge use' 2 with hone' | hmore'
              · obtain rfl : use' = 1 := by omega
                rw [Anchor.text, Anchor.text, markAnchor_one, markAnchor_one] at htext
                rw [(String.append_right_inj _).mp htext]
              · exact absurd htext.symm (hlater hy hmore' hx)
            · rcases Nat.lt_or_ge use' 2 with hone' | hmore'
              · obtain rfl : use' = 1 := by omega
                exact absurd htext (hlater hx hmore hy)
              · rw [Anchor.text, Anchor.text, markAnchor_more hmore,
                  markAnchor_more hmore'] at htext
                obtain ⟨rfl, rfl⟩ := numbered_inj ((String.append_right_inj _).mp htext)
                rfl

/-! ## Documents -/

section

variable (targets : Dict (String × Option String))

/-- Nothing that conversion meets gives a note where it stands. -/
theorem walk_noted :
    Walk (fun n => ∀ tight, noted (events targets tight n) = [])
      (fun cs => ∀ tight, noted (rowEvents targets tight cs) = [])
      (fun cs => ∀ tight loose, noted (itemEvents targets tight loose cs) = [])
      (fun cs => noted (tableEvents targets cs) = [])
      (fun cs => noted (cellEvents targets cs) = []) where
  node n hrow hitems hrows tight := by
    cases n with
    | jsxFlow name attributes cs | jsxText name attributes cs => cases name <;> exact hrow false
    | list ordered start spread cs => exact hitems false _
    | table align cs => exact hrows
    | root cs | paragraph cs | heading depth cs | blockquote cs | emphasis cs | strong cs
    | delete cs | link url title cs | linkReference id label kind cs
    | listItem spread checked cs => exact hrow _
    | _ => rfl
  row_nil _ := rfl
  row_cons n rest hn hrest tight := by
    rw [rowEvents, noted_append, hn, hrest, List.append_nil]
  items_nil _ _ := rfl
  items_item spread checked inner rest hinner hrest tight loose := by
    rw [itemEvents, noted_append, hinner, hrest, List.append_nil]
  items_other n rest hother hn hrest tight loose := by
    rw [itemEvents_cons targets hother, noted_append, hn, hrest, List.append_nil]
  rows_nil := rfl
  rows_row inner rest hinner hrest := by
    rw [tableEvents, noted_append, hinner, hrest, List.append_nil]
  rows_other n rest hother hrest := by
    rw [tableEvents_cons targets hother, hrest]
  cells_nil := rfl
  cells_cell inner rest hinner hrest := by
    rw [cellEvents, noted_append, hinner, hrest, List.append_nil]
  cells_other n rest hother hrest := by
    rw [cellEvents_cons targets hother, hrest]

/-- No node gives a note where it stands. -/
theorem noted_events (n : Node) (tight : Bool) : noted (events targets tight n) = [] :=
  (walk_noted targets).node_holds n tight

theorem noted_rowEvents (cs : List Node) (tight : Bool) :
    noted (rowEvents targets tight cs) = [] :=
  (walk_noted targets).row_holds cs tight

end

theorem noted_noteEvents (document : Node) (order : List String) :
    noted (noteEvents document order)
      = order.filter fun id => (document.noteOf id).isSome := by
  induction order with
  | nil => rfl
  | cons id rest ih =>
      rw [noteEvents, List.flatMap_cons, noted_append, List.filter_cons]
      cases document.noteOf id with
      | none => exact ih
      | some content =>
          have hcontent := noted_rowEvents (Definitions.collect {} document).targets content false
          exact congrArg (id :: ·) ((congrArg (· ++ _) hcontent).trans ih)

/-- The notes are those of the listed footnotes. -/
theorem noted_documentEvents (document : Node) :
    noted (documentEvents document) = document.listed := by
  rw [documentEvents, noted_append, noted_events, noted_noteEvents, Node.listed, List.nil_append]

/-- All references that a document makes, in the body and then in the notes. -/
def uses (document : Node) : List String :=
  document.references ++ document.noteReferences

theorem referred_documentEvents (document : Node) :
    referred (documentEvents document) = uses document := by
  have hbody := (node_writes (Definitions.collect {} document).targets document).told false
  have hnotes := (notes_writes document document.numbering 1).told false
  rw [referred] at hbody hnotes
  rw [documentEvents, referred, List.filterMap_append, hbody, hnotes]
  rfl

/-- The anchors of a document, in the order of the page. -/
def anchors (document : Node) : List Anchor :=
  anchorsAfter [] (documentEvents document)

theorem mark_mem_anchors (document : Node) (id : String) (use : Nat) :
    .mark id use ∈ anchors document ↔ 0 < use ∧ use ≤ (uses document).count id := by
  rw [anchors, mark_mem_anchorsAfter, referred_documentEvents]
  rfl

theorem note_mem_anchors (document : Node) (id : String) :
    .note id ∈ anchors document ↔ id ∈ document.listed := by
  rw [anchors, note_mem_anchorsAfter, noted_documentEvents]

theorem nodup_anchors (document : Node) : (anchors document).Nodup := by
  apply nodup_anchorsAfter
  rw [noted_documentEvents]
  exact (nodup_eraseDups document.references).filter _

/-- Only footnotes that are referred to have anchors. -/
theorem name_mem_uses {document : Node} {anchor : Anchor} (h : anchor ∈ anchors document) :
    anchor.name ∈ uses document := by
  cases anchor with
  | mark id use =>
      obtain ⟨hpos, hcount⟩ := (mark_mem_anchors document id use).mp h
      have hcount : 0 < (uses document).count id := by omega
      exact List.count_pos_iff.mp hcount
  | note id =>
      have hlisted := (note_mem_anchors document id).mp h
      have hid : id ∈ document.references := List.mem_eraseDups.mp (List.mem_filter.mp hlisted).1
      exact List.mem_append_left _ hid

theorem convert_anchors (document : Node) :
    Inserted (NoAnchor (documentEvents document)) ((anchors document).map Anchor.head)
      (heads (convert document).root.children) :=
  (inserted_anchorsAfter [] (documentEvents document)).trans
    ((convert_written document).imp fun _ hmade => .inl ⟨hmade.mark, hmade.note⟩)

theorem texts_of_plain {document : Node} (h : ∀ id ∈ uses document, IsPlain id) :
    ((anchors document).map fun anchor => anchor.head.2.get? "id")
      = ((anchors document).map Anchor.text).map fun text => some (.string text) := by
  rw [List.map_map]
  exact List.map_congr_left fun anchor hanchor =>
    Anchor.get?_head (h anchor.name (name_mem_uses hanchor))

/-- Among the elements of the tree are the marks of all references and the notes of the footnotes,
and no others but those that the document writes as JSX. If the footnotes have plain names, then no
two of them have the same `id` unless a footnote with the number of a later use spells another. -/
theorem anchors_unique_iff {document : Node} (h : ∀ id ∈ uses document, IsPlain id) :
    Inserted (NoAnchor (documentEvents document)) ((anchors document).map Anchor.head)
        (heads (convert document).root.children)
      ∧ (∀ id use, .mark id use ∈ anchors document ↔ 0 < use ∧ use ≤ (uses document).count id)
      ∧ (∀ id, .note id ∈ anchors document ↔ id ∈ document.listed)
      ∧ (((anchors document).map fun anchor => anchor.head.2.get? "id").Nodup
          ↔ IsApart (uses document)) := by
  refine ⟨convert_anchors document, mark_mem_anchors document, note_mem_anchors document, ?_⟩
  have hinj : Function.Injective fun text : String => some (PropValue.string text) := by
    intro text text' htext
    simpa [PropValue.string] using htext
  rw [texts_of_plain h, List.nodup_map_iff hinj]
  exact texts_nodup_iff (nodup_anchors document) (mark_mem_anchors document)

/-- A footnote that is used again in its own note, a name with a hyphen and a number that is free,
and a JSX element that looks like a note. -/
def hyphenedNames : Node :=
  .root
    [ .paragraph [.footnoteReference "a", .footnoteReference "a-9", .footnoteReference "a"],
      .jsxFlow (some "li") [.property "id" (some (.literal "user-content-fn-a"))] [],
      .footnoteDefinition "a" [.paragraph [.text "b", .footnoteReference "a"]],
      .footnoteDefinition "a-9" [.paragraph [.text "c"]] ]

theorem anchors_unique_iff_hyphened :
    (∀ id ∈ uses hyphenedNames, IsPlain id)
      ∧ anchors hyphenedNames
        = [ .mark "a" 1, .mark "a-9" 1, .mark "a" 2, .note "a", .mark "a" 3, .note "a-9" ]
      ∧ ((anchors hyphenedNames).map fun anchor => anchor.head.2.get? "id").Nodup := by
  have hplain : ∀ id ∈ uses hyphenedNames, IsPlain id := by decide
  exact ⟨hplain, by decide, (anchors_unique_iff hplain).2.2.2.mpr (by decide)⟩

/-- A footnote that is used twice, and one with its name and a two. -/
def repeatedName : Node :=
  .root
    [ .paragraph [.footnoteReference "a", .footnoteReference "a", .footnoteReference "a-2"],
      .footnoteDefinition "a" [.paragraph [.text "x"]],
      .footnoteDefinition "a-2" [.paragraph [.text "y"]] ]

/-- The second use of one footnote and the first of another have the same anchor. -/
theorem anchors_repeat :
    (∀ id ∈ uses repeatedName, IsPlain id)
      ∧ ((heads (convert repeatedName).root.children).filter isMark).map
          (fun head => (head.2.get? "id").bind PropValue.str?)
        = [ some "user-content-fnref-a", some "user-content-fnref-a-2",
            some "user-content-fnref-a-2" ]
      ∧ ¬ ((anchors repeatedName).map fun anchor => anchor.head.2.get? "id").Nodup := by
  have hplain : ∀ id ∈ uses repeatedName, IsPlain id := by decide
  refine ⟨hplain, by decide, fun hnodup => ?_⟩
  rw [texts_of_plain hplain] at hnodup
  have htexts := List.Nodup.of_map _ hnodup
  rw [texts_nodup_iff (nodup_anchors _) (mark_mem_anchors _)] at htexts
  exact absurd htexts (by decide)

end Convert

end Mdx
