import Mdx.Proofs.Convert.Elements

/-!
# JSX elements of converted documents

What becomes of the JSX elements that a document has at any depth. Each of them is kept or lost:
lost is one that has the name of paragraphs and stands directly in an item of a tight list, where
paragraphs are replaced by what they hold. The main statement is `convert_keepsJsx`: those that are
kept correspond, in order, to elements of the tree with the same name and attributes, and there is
no such correspondence for all of them if one with attributes is lost. `convert_losesJsx` has a
document of which one is lost.
-/

namespace Mdx

namespace Markdown.Node

/-- Name and attributes of a JSX element; a fragment has no name. -/
def jsx? : Node → Option (String × List Attribute)
  | .jsxFlow (some name) attributes _ | .jsxText (some name) attributes _ =>
    some (name, attributes)
  | _ => none

def isFootnote : Node → Bool
  | .footnoteReference _ | .footnoteDefinition _ _ => true
  | _ => false

/-- The JSX elements of a document, in document order. -/
def jsxElements (document : Node) : List (String × List Attribute) :=
  document.all.filterMap jsx?

/-- A node that is no part of a footnote, and has rows and cells only where they belong. -/
def isOrdinary (n : Node) : Bool :=
  !n.isFootnote && n.isTabular

/-- A document without footnotes, with rows and cells only in tables. -/
structure Ordinary (document : Node) : Prop where
  nodes : ∀ n ∈ document.all, n.isOrdinary = true
  block : document.isRow = false ∧ document.isCell = false

theorem isTabular_of_isOrdinary {n : Node} (h : n.isOrdinary = true) : n.isTabular = true := by
  rw [isOrdinary, Bool.and_eq_true] at h
  exact h.2

end Markdown.Node

namespace Convert

open Markdown (Node Attribute AttributeValue)

/-! ## Attributes -/

/-- The value that an attribute gives to a name. -/
def valueFor? (key : String) : Attribute → Option (Option AttributeValue)
  | .property name value => if name = key then some value else none
  | .spread _ => none

/-- The value of the last attribute of a name; an attribute without one has the value `none`. -/
def lastValue? (key : String) (attributes : List Attribute) : Option (Option AttributeValue) :=
  attributes.reverse.findSome? (valueFor? key)

/-- The props of a JSX element are its attributes, the last of each name. -/
theorem get?_jsxProps (attributes : List Attribute) (key : String) :
    (jsxProps attributes).get? key = (lastValue? key attributes).map attributeValue := by
  induction attributes using List.reverseRecOn with
  | nil => rfl
  | append_singleton attributes a ih =>
      rw [jsxProps] at ih ⊢
      rw [List.foldl_append, lastValue?, List.reverse_append]
      cases a with
      | spread source => exact ih
      | property name value =>
          by_cases hname : name = key
          · subst hname
            simp [Dict.get?_insert_self, valueFor?]
          · simp only [List.foldl_cons, List.foldl_nil, Dict.get?_insert_ne hname, ih]
            simp [lastValue?, valueFor?, hname]

/-- The element has the name of a JSX element and each of its attributes. -/
def Carries (jsx : String × List Attribute) (e : Element) : Prop :=
  e.name = jsx.1 ∧ ∀ key value, lastValue? key jsx.2 = some value →
    e.props.get? key = some (attributeValue value)

theorem lastValue?_of_nil {attributes : List Attribute} (h : jsxProps attributes = [])
    (key : String) : lastValue? key attributes = none := by
  have hget := get?_jsxProps attributes key
  rw [h] at hget
  exact Option.map_eq_none_iff.mp hget.symm

theorem carries_of_head {jsx : String × List Attribute} {e : Element} (h : e.head = jsxHead jsx) :
    Carries jsx e := by
  obtain ⟨hname, hprops⟩ := Prod.mk.inj h
  refine ⟨hname, fun key value hvalue => ?_⟩
  rw [hprops, get?_jsxProps, hvalue, Option.map_some]

/-- The head of a paragraph with props. Conversion makes none on its own account. -/
def isDressed (head : Head) : Bool :=
  head.1 == "p" && !head.2.isEmpty

theorem isDressed_of_made {head : Head} (h : Made head) : isDressed head = false := by
  by_cases hname : head.1 = "p"
  · simp [isDressed, h.paragraph hname]
  · simp [isDressed, hname]

/-- An element that carries attributes has props. -/
theorem Carries.isDressed {jsx : String × List Attribute} {e : Element} (h : Carries jsx e)
    (hjsx : isDressed (jsxHead jsx) = true) : isDressed e.head = true := by
  obtain ⟨hname, hprops⟩ : jsx.1 = "p" ∧ jsxProps jsx.2 ≠ [] := by
    simpa [Convert.isDressed, jsxHead] using hjsx
  have hsome : e.props ≠ [] := by
    intro hnil
    obtain ⟨entry, rest, hentry⟩ := List.exists_cons_of_ne_nil hprops
    have hget := get?_jsxProps jsx.2 entry.1
    have hself : (jsxProps jsx.2).get? entry.1 = some entry.2 := by
      simp [hentry, Dict.get?]
    rw [hself] at hget
    obtain ⟨value, hvalue, -⟩ := Option.map_eq_some_iff.mp hget.symm
    have hcarried := h.2 entry.1 value hvalue
    rw [hnil] at hcarried
    cases hcarried
  simp [Convert.isDressed, Element.head, h.1, hname, hsome]

/-! ## Kept and lost elements -/

/-- The JSX elements of a document that are kept, in document order. -/
def keptJsx (document : Node) : List (String × List Attribute) :=
  ((documentEvents document).filter (!·.isLost)).filterMap Event.jsx?

/-- The JSX elements of a document that are lost, in document order. -/
def lostJsx (document : Node) : List (String × List Attribute) :=
  ((documentEvents document).filter Event.isLost).filterMap Event.jsx?

theorem rowNodes_false {cs : List Node}
    (hcs : ∀ n ∈ cs, (∀ m ∈ n.all, m.isFootnote = false) →
      n.descendants false = n.descendants true)
    (h : ∀ m ∈ Node.rowNodes true cs, m.isFootnote = false) :
    Node.rowNodes false cs = Node.rowNodes true cs := by
  induction cs with
  | nil => rfl
  | cons n rest ih =>
      obtain ⟨hn, hrest⟩ := List.forall_mem_append.mp (Node.rowNodes_true_cons n rest ▸ h)
      obtain ⟨hhere, hcs⟩ := List.forall_mem_cons.mp hcs
      rw [Node.rowNodes, Node.rowNodes, hhere hn, ih hcs hrest]

/-- Without footnotes no node is left out. -/
theorem descendants_false {n : Node} (h : ∀ m ∈ n.all, m.isFootnote = false) :
    n.descendants false = n.descendants true := by
  induction n using Node.nested with
  | node n ih =>
      obtain ⟨hself, hbelow⟩ := List.forall_mem_cons.mp (Node.all_eq n ▸ h)
      have hchildren := rowNodes_false ih hbelow
      cases n with
      | footnoteDefinition id cs => cases hself
      | root cs | paragraph cs | heading depth cs | blockquote cs | list ordered start spread cs
      | listItem spread checked cs | table align cs | tableRow cs | tableCell cs | emphasis cs
      | strong cs | delete cs | link url title cs | linkReference id label kind cs
      | jsxFlow name attributes cs | jsxText name attributes cs => exact hchildren
      | _ => rfl

/-- An ordinary document gives its JSX elements in document order, and nothing else. -/
theorem events_jsx {document : Node} (h : document.Ordinary)
    (targets : Dict (String × Option String)) (tight : Bool) :
    (events targets tight document).map Event.jsx? = document.jsxElements.map some := by
  have hnotes : ∀ n ∈ document.all, n.isFootnote = false := by
    intro n hn
    have hself := h.nodes n hn
    rw [Node.isOrdinary, Bool.and_eq_true] at hself
    simpa using hself.1
  have hall : document.outside = document.all :=
    congrArg (document :: ·) (descendants_false hnotes)
  have htables : ∀ n ∈ document.outside, n.isTabular = true := by
    intro n hn
    exact Node.isTabular_of_isOrdinary (h.nodes n (hall ▸ hn))
  have hgiven : ∀ n ∈ document.all,
      given? n = n.jsx?.map fun jsx => Event.jsx jsx.1 jsx.2 false := by
    intro n hn
    have hself := hnotes n hn
    cases n with
    | jsxFlow name attributes cs | jsxText name attributes cs => cases name <;> rfl
    | footnoteReference id => cases hself
    | _ => rfl
  have hbare : Event.jsx? = Event.jsx? ∘ Event.bare := by
    funext event
    cases event <;> rfl
  calc (events targets tight document).map Event.jsx?
      = ((events targets tight document).map Event.bare).map Event.jsx? := by
        rw [List.map_map, ← hbare]
    _ = (document.all.filterMap given?).map Event.jsx? := by
        rw [events_given targets document htables h.block.1 h.block.2 tight, hall]
    _ = document.jsxElements.map some := by
        rw [List.filterMap_congr hgiven, Node.jsxElements, List.map_filterMap, List.map_filterMap]
        refine List.filterMap_congr fun n _ => ?_
        cases n.jsx? <;> rfl

/-! ## Documents -/

/-- Where all events are JSX elements, the heads of those that are kept are written. -/
theorem written_of_jsx {events : List Event} {jsxs : List (String × List Attribute)}
    (h : events.map Event.jsx? = jsxs.map some) (seen : List String) :
    written seen events = ((events.filter (!·.isLost)).filterMap Event.jsx?).map jsxHead := by
  induction events generalizing jsxs with
  | nil => rfl
  | cons event rest ih =>
      cases jsxs with
      | nil => simp at h
      | cons jsx jsxs =>
          obtain ⟨hevent, hrest⟩ := List.cons.inj h
          cases event with
          | jsx name attributes tight =>
              rw [written, ih hrest, List.filter_cons]
              cases Event.isLost (.jsx name attributes tight) <;> rfl
          | reference id => cases hevent
          | note id => cases hevent

theorem filterMap_of_map_eq {events : List Event} {jsxs : List (String × List Attribute)}
    (h : events.map Event.jsx? = jsxs.map some) : events.filterMap Event.jsx? = jsxs := by
  have hid : events.filterMap Event.jsx? = (events.map Event.jsx?).filterMap id := by
    rw [List.filterMap_map]
    rfl
  rw [hid, h, List.filterMap_map]
  exact List.filterMap_some

/-- A document without footnotes gives its JSX elements and nothing else. -/
theorem documentEvents_jsx {document : Node} (h : document.Ordinary) :
    (documentEvents document).map Event.jsx? = document.jsxElements.map some := by
  have hbody := events_jsx h (Definitions.collect {} document).targets false
  have hnumbering : document.numbering = [] := by
    have htold := (node_writes (Definitions.collect {} document).targets document).told false
    have hnone :
        referred (events (Definitions.collect {} document).targets false document) = [] := by
      apply List.filterMap_eq_nil_iff.mpr
      intro event hevent
      have hjsx := List.mem_map_of_mem (f := Event.jsx?) hevent
      rw [hbody] at hjsx
      cases event with
      | jsx name attributes tight => rfl
      | reference id => simp [Event.jsx?] at hjsx
      | note id => rfl
    rw [Node.numbering, ← htold, hnone]
    rfl
  rw [documentEvents, hnumbering, noteEvents, List.flatMap_nil, List.append_nil]
  exact hbody

/-- Every JSX element is kept or lost. -/
theorem keptJsx_perm {document : Node} (h : document.Ordinary) :
    (lostJsx document ++ keptJsx document).Perm document.jsxElements := by
  have hperm :=
    (List.filter_append_perm Event.isLost (documentEvents document)).filterMap Event.jsx?
  rwa [List.filterMap_append, filterMap_of_map_eq (documentEvents_jsx h)] at hperm

theorem written_documentEvents {document : Node} (h : document.Ordinary) :
    written [] (documentEvents document) = (keptJsx document).map jsxHead :=
  written_of_jsx (documentEvents_jsx h) []

theorem root_elements (document : Node) :
    (convert document).root.elements
      = (convert document).root :: Tree.rowElements (convert document).root.children := rfl

/-- The JSX elements that are kept are elements of the tree, in their order. -/
theorem keptJsx_carried {document : Node} (h : document.Ordinary) :
    List.SublistForall₂ Carries (keptJsx document) (convert document).root.elements := by
  have hwritten := (convert_written document).sublist
  rw [written_documentEvents h] at hwritten
  obtain ⟨elements, hsub, hheads⟩ := List.sublist_map_iff.mp hwritten
  have hforall : List.Forall₂ (· = ·) ((keptJsx document).map jsxHead)
      (elements.map Element.head) := by
    rw [hheads]
    exact List.forall₂_refl _
  rw [List.forall₂_map_left_iff, List.forall₂_map_right_iff] at hforall
  refine List.sublistForall₂_iff.mpr ⟨elements, ?_, ?_⟩
  · exact hforall.imp fun _ _ hhead => carries_of_head hhead.symm
  · rw [root_elements]
    exact hsub.cons _

/-- If none is lost then all are kept, in document order. -/
theorem keptJsx_of_lostJsx {document : Node} (h : document.Ordinary)
    (hlost : lostJsx document = []) : keptJsx document = document.jsxElements := by
  have hall := documentEvents_jsx h
  have hnone : ∀ event ∈ documentEvents document, (!event.isLost) = true := by
    intro event hevent
    have hjsx := List.filterMap_eq_nil_iff.mp hlost event
    cases event with
    | jsx name attributes tight =>
        rw [Bool.not_eq_true']
        by_contra hisLost
        have := hjsx (List.mem_filter.mpr ⟨hevent, by simpa using hisLost⟩)
        cases this
    | reference id => rfl
    | note id => rfl
  rw [keptJsx, List.filter_eq_self.mpr hnone]
  exact filterMap_of_map_eq hall

theorem countP_le_of_sublistForall₂ {α β : Type} {r : α → β → Prop} {p : α → Bool} {q : β → Bool}
    {xs : List α} {ys : List β} (h : List.SublistForall₂ r xs ys)
    (hr : ∀ x y, r x y → p x = true → q y = true) : xs.countP p ≤ ys.countP q := by
  induction h with
  | nil => simp
  | @cons x y _ _ hxy _ ih =>
      cases hx : p x with
      | false =>
          exact Nat.le_trans (by simp [hx]) (Nat.le_trans ih (by rw [List.countP_cons]; omega))
      | true =>
          rw [List.countP_cons_of_pos hx, List.countP_cons_of_pos (hr x y hxy hx)]
          exact Nat.succ_le_succ ih
  | cons_right _ ih => exact Nat.le_trans ih (by rw [List.countP_cons]; omega)

/-- Paragraphs with props are given by the document. -/
theorem countP_isDressed {document : Node} (h : document.Ordinary) :
    (convert document).root.elements.countP (isDressed ·.head)
      = (keptJsx document).countP (isDressed <| jsxHead ·) := by
  have hroot : isDressed (convert document).root.head = false := by
    rfl
  have hheads := (convert_written document).filter_eq (fun _ => isDressed_of_made)
  rw [written_documentEvents h] at hheads
  have hcount := congrArg List.length hheads
  rw [← List.countP_eq_length_filter, ← List.countP_eq_length_filter, heads, List.countP_map,
    List.countP_map] at hcount
  rw [root_elements, List.countP_cons_of_neg (by simp [hroot])]
  exact hcount

/-- If all JSX elements are elements of the tree, in their order, then those that are lost have no
attributes: any paragraph of the tree will do for them. -/
theorem lostJsx_bare {document : Node} (h : document.Ordinary)
    (hall : List.SublistForall₂ Carries document.jsxElements (convert document).root.elements) :
    ∀ jsx ∈ lostJsx document, jsxProps jsx.2 = [] := by
  have hle := countP_le_of_sublistForall₂ hall fun _ _ hcarries => hcarries.isDressed
  rw [countP_isDressed h, ← (keptJsx_perm h).countP_eq, List.countP_append] at hle
  have hzero : (lostJsx document).countP (isDressed <| jsxHead ·) = 0 := by omega
  intro jsx hjsx
  have hbare := List.countP_eq_zero.mp hzero jsx hjsx
  have hname : jsx.1 = "p" := by
    obtain ⟨event, hevent, hjsx⟩ := List.mem_filterMap.mp hjsx
    have hisLost := (List.mem_filter.mp hevent).2
    cases event with
    | jsx name attributes tight =>
        obtain rfl := Option.some.inj hjsx
        simp [Event.isLost] at hisLost
        exact hisLost.2
    | reference id => cases hjsx
    | note id => cases hjsx
  simpa [isDressed, jsxHead, hname] using hbare

/-- The JSX elements of a document are kept or lost; those that are kept are elements of the tree in
document order, with the same names and attributes. All of them are if none is lost, but not if one
with an attribute is lost. -/
theorem convert_keepsJsx {document : Node} (h : document.Ordinary) :
    (lostJsx document ++ keptJsx document).Perm document.jsxElements
      ∧ List.SublistForall₂ Carries (keptJsx document) (convert document).root.elements
      ∧ (lostJsx document = [] →
          List.SublistForall₂ Carries document.jsxElements (convert document).root.elements)
      ∧ (List.SublistForall₂ Carries document.jsxElements (convert document).root.elements →
          ∀ jsx ∈ lostJsx document, ∀ key, lastValue? key jsx.2 = none) := by
  refine ⟨keptJsx_perm h, keptJsx_carried h, fun hlost => ?_, fun hall jsx hjsx => ?_⟩
  · rw [← keptJsx_of_lostJsx h hlost]
    exact keptJsx_carried h
  · exact lastValue?_of_nil (lostJsx_bare h hall jsx hjsx)

/-- A document with JSX elements in a task of a loose list, in a link in a table, in one another and
in a tight list. One has an attribute twice. -/
def placedDocument : Node :=
  .root
    [ .list false none true
        [ .listItem false (some true)
            [.jsxFlow (some "p") [.property "id" (some (.literal "a"))] [.text "b"]] ],
      .table [.left]
        [ .tableRow
            [ .tableCell
                [ .link "/c" none
                    [ .jsxText (some "D")
                        [.property "e" none, .spread "...f", .property "e" (some (.expression "1"))]
                        [] ] ] ] ],
      .blockquote
        [ .jsxFlow none []
            [.jsxFlow (some "p") [] [.jsxText (some "p") [.property "g" none] [.text "h"]]] ],
      .list true none false [.listItem false none [.jsxFlow (some "I") [.property "j" none] []]] ]

theorem convert_keepsJsx_placed :
    placedDocument.Ordinary
      ∧ placedDocument.jsxElements.map Prod.fst = ["p", "D", "p", "p", "I"]
      ∧ List.SublistForall₂ Carries placedDocument.jsxElements
          (convert placedDocument).root.elements := by
  have hordinary : placedDocument.Ordinary := ⟨by decide, by decide⟩
  exact ⟨hordinary, rfl, (convert_keepsJsx hordinary).2.2.1 rfl⟩

/-- A tight list with an item that holds one JSX element named as paragraphs are. -/
def tightDocument : Node :=
  .root
    [ .list false none false
        [ .listItem false none
            [.jsxFlow (some "p") [.property "id" (some (.literal "x"))] [.text "t"]] ] ]

/-- No element of the tree is the JSX element of the list. -/
theorem convert_losesJsx :
    tightDocument.Ordinary
      ∧ ¬ List.SublistForall₂ Carries tightDocument.jsxElements
          (convert tightDocument).root.elements := by
  have hordinary : tightDocument.Ordinary := ⟨by decide, by decide⟩
  refine ⟨hordinary, fun hall => ?_⟩
  have hbare := lostJsx_bare hordinary hall ("p", [.property "id" (some (.literal "x"))])
    List.mem_cons_self
  cases hbare

end Convert

end Mdx
