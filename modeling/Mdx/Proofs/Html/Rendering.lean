import Mdx.Html.Render
import Mdx.Proofs.Dict
import Mdx.Proofs.Html.Forest
import Mdx.Proofs.Tree

/-!
# Rendered pages

What a page rendered with the default components shows, as a forest of elements, and that this
forest is read from the text of the page (`Renderer.render_readsBack`).
-/

namespace Mdx.Html

/-! ## The forest of a document -/

/-- What the default components make of an element. -/
inductive Role where
  /-- Its children in its place. -/
  | splice
  | image
  | element (tag : String)
  deriving DecidableEq

/-- The role of a name: fragments, wrappers and names without a component are no elements. -/
def role (mark name : String) : Role :=
  let key := Tag.bare mark name
  if name = fragmentName then .splice
  else if key = "img" then .image
  else if key = "inlineCode" then .element "code"
  else if Tag.all.contains key then .element key
  else .splice

/-- How a value is written: null and false not at all, true without a text. -/
def written? : Json → Option (Option String)
  | .null | .bool false => none
  | .bool true => some none
  | value => some (some (attributeText value))

/-- The attribute of a prop, if it is one. -/
def attribute? (prop : String × Json) : Option Attribute :=
  if skippedProps.contains prop.1 then none
  else (written? prop.2).map fun value => (attributeName prop.1, value)

/-- The style attribute, unless the style is empty. -/
def styleAttribute (style : Dict Json) : List Attribute :=
  if styleText style = "" then [] else [("style", some (styleText style))]

/-- The attributes of an element: those of its props in their order, then the style, in which the
scope counts least and the props most. -/
def attributes (props : Dict Json) (scope : Option Json) (extra : Dict Json) : List Attribute :=
  props.filterMap attribute?
    ++ styleAttribute (((styleFields scope).union extra).union (styleFields (props.get? "style")))

/-- A heading that stands first has no margin above. -/
def flushStyle (tag : String) (index : Nat) : Dict Json :=
  if Component.flushHeadings.contains tag && index == 0 then [("marginTop", .ofNat 0)] else []

/-- What stands for an image without an address. -/
def missingImage (props : Dict Json) : Dom :=
  .element "span" [("data-missing-asset", some "true")]
    [.text ("[" ++ ((props.get? "alt").bind Json.str?).getD "image" ++ "]")]

/-- An image, with the address of its source if it has one. -/
def imageDom (assets : Asset.Resolver) (scope : Option Json) (props : Dict Json) : Dom :=
  let rest : Dict Json := props.filter fun (key, _) => key != "source"
  match (props.get? "src").or (props.get? "source") with
  | none => .element "img" (attributes rest scope []) []
  | some value =>
    match (Asset.Source.ofJson? value).map assets.resolve with
    | some (.ok resolved) =>
      .element "img" (attributes (Component.imageProps resolved rest) scope []) []
    | _ => missingImage props

namespace Renderer

mutual

/-- The forest of a node that is the child with the given number. -/
def forest (r : Renderer) (index : Nat) : Wire.Node → List Dom
  | .text value => [.text value]
  | .element name props cs =>
    let scope := r.styles.get? (Tag.bare r.tagPrefix name)
    match role r.tagPrefix name with
    | .splice => rowForest r 0 cs
    | .image => [imageDom r.assets scope props]
    | .element tag =>
      [.element tag (attributes props scope (flushStyle tag index))
        (if voidTags.contains tag then [] else rowForest r 0 cs)]

/-- The forest of a row of nodes, the first of which has the given number. -/
def rowForest (r : Renderer) (index : Nat) : List Wire.Node → List Dom
  | [] => []
  | n :: rest => forest r index n ++ rowForest r (index + 1) rest

end

end Renderer

/-! ## Elements -/

theorem tokens_append (f g : List Dom) : Dom.tokens (f ++ g) = Dom.tokens f ++ Dom.tokens g := by
  induction f with
  | nil => rfl
  | cons d rest ih => rw [List.cons_append, Dom.tokens, Dom.tokens, ih, List.append_assoc]

theorem chars_append (f g : List Dom) : Dom.chars (f ++ g) = Dom.chars f ++ Dom.chars g := by
  rw [Dom.chars, tokens_append, List.flatMap_append]
  rfl

theorem attributeHtml_toList (name : String) (value : Json) :
    (attributeHtml name value).toList
      = ((written? value).map fun v => Attribute.chars (name, v)).getD [] := by
  rw [attributeHtml.eq_def, written?.eq_def]
  split <;> simp [Attribute.chars, valueChars]

theorem propHtml_toList (key : String) (value : Json) :
    (if skippedProps.contains key then "" else attributeHtml (attributeName key) value).toList
      = ((attribute? (key, value)).map Attribute.chars).getD [] := by
  rw [attribute?]
  split
  · rfl
  · rw [attributeHtml_toList, Option.map_map]
    rfl

theorem attributesHtml_toList (props : Dict Json) :
    (attributesHtml props).toList = (props.filterMap attribute?).flatMap Attribute.chars := by
  rw [attributesHtml, String.toList_join, List.flatMap_map]
  induction props with
  | nil => rfl
  | cons prop rest ih =>
      have hprop := propHtml_toList prop.1 prop.2
      rw [List.flatMap_cons, List.filterMap_cons, ih, hprop]
      cases attribute? prop <;> rfl

theorem styleHtml_toList (style : Dict Json) :
    (styleHtml style).toList = (styleAttribute style).flatMap Attribute.chars := by
  rw [styleHtml, styleAttribute]
  by_cases h : styleText style = ""
  · simp [h]
  · simp [h, Attribute.chars, valueChars]

/-- An element is written as its tags around its children. -/
theorem element_toList (tag : String) (props : Dict Json) (scope : Option Json)
    (extra : Dict Json) {children : String} {f : List Dom}
    (h : voidTags.contains tag = false → children.toList = Dom.chars f) :
    (element tag props scope extra children).toList
      = Dom.chars [.element tag (attributes props scope extra)
          (if voidTags.contains tag then [] else f)] := by
  rw [element, Dom.chars_element]
  cases hvoid : voidTags.contains tag with
  | true =>
      simp [Token.chars, attributes, attributesHtml_toList, styleHtml_toList, Dom.chars, Dom.tokens]
  | false =>
      simp [Token.chars, attributes, attributesHtml_toList, styleHtml_toList, h hvoid, Dom.chars,
        Dom.tokens]

/-! ## Proper forests -/

theorem proper_append {f g : List Dom} (hf : Dom.Proper f) (hg : Dom.Proper g) :
    Dom.Proper (f ++ g) := by
  induction f with
  | nil => exact hg
  | cons d rest ih => exact ⟨hf.1, ih hf.2⟩

theorem isName_attributeName {key : String} (h : isName key = true) :
    isName (attributeName key) = true := by
  rw [attributeName.eq_def]
  split <;> first | decide | exact h

theorem isName_attributes {props : Dict Json} (h : ∀ p ∈ props, isName p.1 = true)
    (scope : Option Json) (extra : Dict Json) :
    ∀ a ∈ attributes props scope extra, isName a.1 = true := by
  intro a ha
  rcases List.mem_append.mp ha with ha | ha
  · obtain ⟨⟨key, value⟩, hmem, hattribute⟩ := List.mem_filterMap.mp ha
    have hkey := isName_attributeName (h (key, value) hmem)
    rw [attribute?] at hattribute
    split at hattribute
    · simp at hattribute
    · obtain ⟨v, -, rfl⟩ := Option.map_eq_some_iff.mp hattribute
      exact hkey
  · rw [styleAttribute] at ha
    split at ha
    · simp at ha
    · rw [List.mem_singleton.mp ha]
      exact show isName "style" = true by decide

theorem isName_tag {tag : String} (h : Tag.all.contains tag = true) : isName tag = true := by
  have hall : Tag.all.all isName = true := by decide +kernel
  exact List.all_eq_true.mp hall tag (List.contains_iff_mem.mp h)

theorem mem_fillDimension {key : String} {value : Option Float} {props : Dict Json}
    {p : String × Json} (h : p ∈ Component.fillDimension key value props) :
    p.1 = key ∨ p ∈ props := by
  rw [Component.fillDimension.eq_def] at h
  split at h
  · split at h
    · exact Or.inr h
    · exact (Dict.mem_insert h).imp_left fun h => by rw [h]
  · exact Or.inr h

theorem isName_imageProps {props : Dict Json} (h : ∀ p ∈ props, isName p.1 = true)
    (resolved : Asset.Resolved) :
    ∀ p ∈ Component.imageProps resolved props, isName p.1 = true := by
  intro p hp
  rcases mem_fillDimension hp with hkey | hp
  · rw [hkey]; decide
  · rcases mem_fillDimension hp with hkey | hp
    · rw [hkey]; decide
    · rcases Dict.mem_insert hp with hsrc | hp
      · rw [hsrc]
        exact show isName "src" = true by decide
      · exact h p hp

theorem proper_imageDom {props : Dict Json} (h : ∀ p ∈ props, isName p.1 = true)
    (assets : Asset.Resolver) (scope : Option Json) :
    Dom.Proper [imageDom assets scope props] := by
  have hrest : ∀ p ∈ props.filter (fun (key, _) => key != "source"), isName p.1 = true :=
    fun p hp => h p (List.mem_filter.mp hp).1
  have himg : isName "img" = true := by decide
  refine ⟨?_, trivial⟩
  rw [imageDom]
  split
  · exact ⟨himg, isName_attributes hrest scope [], fun _ => rfl, trivial⟩
  · split
    · exact ⟨himg, isName_attributes (isName_imageProps hrest _) scope [], fun _ => rfl, trivial⟩
    · exact ⟨by decide, by decide, fun h => absurd h (by decide), trivial, trivial⟩

/-! ## Default components -/

theorem get?_defaultComponents (key : String) :
    defaultComponents.get? key
      = if key = "Wrapper" then some Component.passthrough
        else if key = "inlineCode" then some (Component.html "code")
        else if key = "img" then some Component.image
        else if Tag.all.contains key then some (Component.html key)
        else none := by
  -- Later entries win, so the keys are compared from the last entry to the first.
  rw [defaultComponents, Dict.ofList, List.foldl_append, List.foldl_map]
  simp only [List.foldl_cons, List.foldl_nil, Dict.get?_insert,
    Dict.get?_foldl_insert Component.html, eq_comm (b := key)]
  rfl

namespace Renderer

/-! ## Outcomes of rendering -/

/-- Whenever rendering succeeds, the result has the property. -/
def Yields {α : Type} (m : RenderM α) (P : α → Prop) : Prop :=
  ∀ (s : State) (a : α) (s' : State), m.run.run s = (.ok a, s') → P a

theorem Yields.pure {α : Type} {P : α → Prop} {a : α} (h : P a) : Yields (Pure.pure a) P := by
  intro s b s' hrun
  cases hrun
  exact h

theorem Yields.throw {α : Type} {P : α → Prop} (e : RenderError) :
    Yields (throw e : RenderM α) P := by
  intro s a s' hrun
  cases hrun

theorem Yields.bind {α β : Type} {m : RenderM α} {f : α → RenderM β} {Q : α → Prop}
    {P : β → Prop} (hm : Yields m Q) (hf : ∀ a, Q a → Yields (f a) P) : Yields (m >>= f) P := by
  intro s b s' hrun
  match hfirst : m.run.run s with
  | (.ok a, s'') =>
      have hthen : (m >>= f).run.run s = (f a).run.run s'' := by
        rw [ExceptT.run_bind, StateT.run_bind, hfirst]
        rfl
      exact hf a (hm s a s'' hfirst) s'' b s' (hthen ▸ hrun)
  | (.error e, s'') =>
      have hthen : (m >>= f).run.run s = (.error e, s'') := by
        rw [ExceptT.run_bind, StateT.run_bind, hfirst]
        rfl
      rw [hthen] at hrun
      cases hrun

theorem Yields.mono {α : Type} {m : RenderM α} {P Q : α → Prop} (hm : Yields m P)
    (h : ∀ a, P a → Q a) : Yields m Q :=
  fun s a s' hrun => h a (hm s a s' hrun)

theorem yields_lookup (r : Renderer) (key : String) (builtin : Bool) :
    Yields (r.lookup key builtin) fun component? => component? = r.components.get? key := by
  rw [lookup]
  split
  · rename_i component hcomponent
    exact .pure hcomponent.symm
  · rename_i hnone
    split
    · exact .bind (Q := fun _ => False) (.throw _) fun _ h => h.elim
    · exact .bind (Q := fun _ => True) (fun _ _ _ _ => trivial) fun _ _ => .pure hnone.symm

/-- A component yields its HTML, or the placeholder where an asset is missing. -/
theorem yields_invoke (component : Component) (ctx : Context) (props : Dict Json)
    (children : String) :
    Yields (invoke component ctx props children) fun html =>
      component ctx props children = .ok html
        ∨ (∃ cause, component ctx props children = .error (.asset cause))
          ∧ html = placeholder props := by
  rw [invoke]
  split
  · rename_i html hok
    exact .pure (Or.inl hok)
  · rename_i cause hasset
    exact .bind (Q := fun _ => True) (fun _ _ _ _ => trivial) fun _ _ =>
      .pure (Or.inr ⟨⟨cause, hasset⟩, rfl⟩)
  · exact .throw _

theorem placeholder_eq (props : Dict Json) :
    placeholder props = "<span data-missing-asset=\"true\">["
      ++ escape (((props.get? "alt").bind Json.str?).getD "image") ++ "]</span>" := rfl

theorem placeholder_toList (props : Dict Json) :
    (placeholder props).toList = Dom.chars [missingImage props] := by
  have hopening : Token.chars (.opening "span" [("data-missing-asset", some "true")])
      = "<span data-missing-asset=\"true\">".toList := by decide
  have hclosing : Token.chars (.closing "span") = "</span>".toList := by decide
  have hlabel : ∀ label : String, escape ("[" ++ label ++ "]") = "[" ++ escape label ++ "]" := by
    intro label
    rw [Dom.escape_append, Dom.escape_append, show escape "[" = "[" by decide,
      show escape "]" = "]" by decide]
  rw [placeholder_eq, missingImage, Dom.chars_element, if_neg (by decide), Dom.chars_text, hlabel,
    hopening, hclosing]
  simp [Dom.chars, Dom.tokens]

/-- An image is written as an element or as the placeholder. -/
theorem image_cases (ctx : Context) (props : Dict Json) (children : String) :
    (∃ html, Component.image ctx props children = .ok html
        ∧ html.toList = Dom.chars [imageDom ctx.assets ctx.style props])
      ∨ (∃ cause, Component.image ctx props children = .error (.asset cause))
        ∧ imageDom ctx.assets ctx.style props = missingImage props := by
  have himg : ∀ props : Dict Json, (element "img" props ctx.style [] children).toList
      = Dom.chars [.element "img" (attributes props ctx.style []) []] := fun props =>
    element_toList (f := []) "img" props ctx.style [] fun h => absurd h (by decide)
  rw [Component.image, imageDom]
  cases (props.get? "src").or (props.get? "source") with
  | none => exact Or.inl ⟨_, rfl, himg _⟩
  | some value =>
      cases hsource : Asset.Source.ofJson? value with
      | none =>
          simp only [hsource, Option.map_none]
          exact Or.inr ⟨⟨_, rfl⟩, trivial⟩
      | some source =>
          simp only [hsource, Option.map_some]
          cases ctx.assets.resolve source with
          | error cause => exact Or.inr ⟨⟨cause, rfl⟩, rfl⟩
          | ok resolved => exact Or.inl ⟨_, rfl, himg _⟩

theorem yields_image (ctx : Context) (props : Dict Json) (children : String) :
    Yields (invoke Component.image ctx props children) fun html =>
      html.toList = Dom.chars [imageDom ctx.assets ctx.style props] := by
  refine (yields_invoke Component.image ctx props children).mono fun html h => ?_
  rcases image_cases ctx props children with ⟨html', hok, hchars⟩ | ⟨⟨cause, herror⟩, hmissing⟩
  · rcases h with h | ⟨⟨cause, h⟩, -⟩
    · rw [hok] at h
      rw [← Except.ok.inj h, hchars]
    · rw [hok] at h
      simp at h
  · rcases h with h | ⟨-, h⟩
    · rw [herror] at h
      simp at h
    · rw [h, hmissing, placeholder_toList]

/-- The component of a name plays its role. -/
theorem component_role (mark : String) {name : String} (h : name ≠ fragmentName) :
    (role mark name = .splice
        ∧ (defaultComponents.get? (Tag.bare mark name) = none
          ∨ defaultComponents.get? (Tag.bare mark name) = some Component.passthrough))
      ∨ (role mark name = .image
        ∧ defaultComponents.get? (Tag.bare mark name) = some Component.image)
      ∨ ∃ tag, role mark name = .element tag
        ∧ defaultComponents.get? (Tag.bare mark name) = some (Component.html tag) := by
  rw [role, get?_defaultComponents, if_neg h]
  generalize Tag.bare mark name = key
  by_cases hwrapper : key = "Wrapper"
  · subst hwrapper
    exact Or.inl ⟨by decide, Or.inr (by simp)⟩
  · rw [if_neg hwrapper]
    by_cases hcode : key = "inlineCode"
    · subst hcode
      exact Or.inr (Or.inr ⟨"code", by decide, by simp⟩)
    · rw [if_neg hcode]
      by_cases himg : key = "img"
      · subst himg
        exact Or.inr (Or.inl ⟨by decide, by simp⟩)
      · simp only [if_neg himg, if_neg hcode]
        split
        · exact Or.inr (Or.inr ⟨key, rfl, rfl⟩)
        · exact Or.inl ⟨rfl, Or.inl rfl⟩

/-! ## Rendering -/

/-- Siblings are written one after the other, numbered from the first. -/
theorem yields_row {r : Renderer} {cs : List Wire.Node}
    (h : ∀ n ∈ cs, ∀ order : Order, Yields (r.node order n) fun html =>
      html.toList = Dom.chars (r.forest order.index n)) (index : Nat) (previous : String) :
    Yields (r.row (Order.count index previous
        (cs.map fun child => child.name?.map (Tag.bare r.tagPrefix))) cs) fun html =>
      html.toList = Dom.chars (r.rowForest index cs) := by
  induction cs generalizing index previous with
  | nil =>
      rw [row]
      exact .pure rfl
  | cons n rest ih =>
      rw [row]
      refine .bind (h n (by simp) _) fun here hhere => ?_
      refine .bind (ih (fun m hm => h m (List.mem_cons_of_mem _ hm)) (index + 1) _)
        fun more hmore => .pure ?_
      rw [String.toList_append, rowForest, chars_append, hhere]
      exact congrArg _ hmore

theorem yields_node {r : Renderer} (hr : r.components = defaultComponents) (n : Wire.Node) :
    ∀ order : Order, Yields (r.node order n) fun html =>
      html.toList = Dom.chars (r.forest order.index n) := by
  induction n using Wire.Node.nested with
  | text value =>
      intro order
      rw [node, forest]
      refine .pure ?_
      rw [Dom.chars_text]
      simp [Dom.chars, Dom.tokens]
  | element name props cs ih =>
      intro order
      have hrow := yields_row ih 0 Order.rootName
      rw [node, forest]
      split
      · -- A fragment is spliced before any component is looked up.
        rename_i hfragment
        have hrole : role r.tagPrefix name = .splice := by simp_all [role]
        simp only [hrole]
        exact hrow
      · -- The children are rendered before their component is called, whatever it does with them.
        rename_i hname
        refine .bind (yields_lookup r _ _) fun component? hcomponent => ?_
        rw [hr] at hcomponent
        have hname : name ≠ fragmentName := by simpa using hname
        rcases component_role r.tagPrefix hname with
          ⟨hrole, hnone | hpass⟩ | ⟨hrole, himage⟩ | ⟨tag, hrole, hhtml⟩
        · simp only [hcomponent, hnone, hrole]
          exact hrow
        · simp only [hcomponent, hpass, hrole]
          refine .bind hrow fun inner hinner => ?_
          refine (yields_invoke _ _ _ _).mono fun html h => ?_
          rcases h with h | ⟨⟨cause, h⟩, -⟩
          · rw [← Except.ok.inj h, hinner]
          · cases h
        · simp only [hcomponent, himage, hrole]
          exact .bind hrow fun inner hinner => yields_image _ props inner
        · simp only [hcomponent, hhtml, hrole]
          refine .bind hrow fun inner hinner => ?_
          refine (yields_invoke _ _ _ _).mono fun html h => ?_
          rcases h with h | ⟨⟨cause, h⟩, -⟩
          · rw [← Except.ok.inj h]
            exact element_toList tag props _ _ fun _ => hinner
          · cases h

end Renderer

/-! ## Reading pages back -/

mutual

/-- The keys of the props of a node and of the nodes below it. -/
def nodeKeys : Wire.Node → List String
  | .text _ => []
  | .element _ props cs => props.map Prod.fst ++ rowKeys cs

/-- The keys of the props of a row of nodes. -/
def rowKeys : List Wire.Node → List String
  | [] => []
  | n :: rest => nodeKeys n ++ rowKeys rest

end

namespace Renderer

theorem proper_rowForest {r : Renderer} {cs : List Wire.Node}
    (h : ∀ n ∈ cs, (∀ key ∈ nodeKeys n, isName key = true) →
      ∀ index, Dom.Proper (r.forest index n)) (hkeys : ∀ key ∈ rowKeys cs, isName key = true)
    (index : Nat) : Dom.Proper (r.rowForest index cs) := by
  induction cs generalizing index with
  | nil => trivial
  | cons n rest ih =>
      refine proper_append (h n (by simp) (fun key hkey => hkeys key ?_) index)
        (ih (fun m hm => h m (List.mem_cons_of_mem _ hm)) (fun key hkey => hkeys key ?_) _)
      · exact List.mem_append_left _ hkey
      · exact List.mem_append_right _ hkey

theorem mem_all_of_role {mark name tag : String} (h : role mark name = .element tag) :
    tag ∈ Tag.all := by
  rw [role] at h
  split at h
  · simp at h
  · split at h
    · simp at h
    · split at h
      · rw [← Role.element.inj h]
        decide
      · split at h
        · rename_i hall
          exact Role.element.inj h ▸ List.contains_iff_mem.mp hall
        · simp at h

theorem isName_of_role {mark name tag : String} (h : role mark name = .element tag) :
    isName tag = true :=
  isName_tag (List.contains_iff_mem.mpr (mem_all_of_role h))

theorem proper_forest (r : Renderer) {n : Wire.Node}
    (hkeys : ∀ key ∈ nodeKeys n, isName key = true) (index : Nat) :
    Dom.Proper (r.forest index n) := by
  induction n using Wire.Node.nested generalizing index with
  | text value => exact ⟨trivial, trivial⟩
  | element name props cs ih =>
      have hprops : ∀ p ∈ props, isName p.1 = true := fun p hp =>
        hkeys p.1 (List.mem_append_left _ (List.mem_map_of_mem hp))
      have hrow : Dom.Proper (r.rowForest 0 cs) :=
        proper_rowForest (fun n hn hkeys index => ih n hn hkeys index)
          (fun key hkey => hkeys key (List.mem_append_right _ hkey)) 0
      rw [forest]
      split
      · exact hrow
      · exact proper_imageDom hprops r.assets _
      · rename_i tag hrole
        refine ⟨⟨isName_of_role hrole, isName_attributes hprops _ _, fun hvoid => ?_, ?_⟩, trivial⟩
        · rw [if_pos hvoid]
        · split
          · trivial
          · exact hrow

/-- A page rendered with the default components reads back as the forest of its document, for every
style and asset in scope. Keys of props are written as they are, so they have to be names. -/
theorem render_readsBack (r : Renderer) (hr : r.components = defaultComponents)
    (d : Wire.Document) (hkeys : ∀ key ∈ nodeKeys d.tree, isName key = true) {html : String}
    (hok : (r.render d).html = .ok html) :
    Dom.read? html = some (Dom.joined (r.forest 0 d.tree)) := by
  -- The page is the text of the forest; what that text says is a matter of forests alone.
  have hchars : html.toList = Dom.chars (r.forest 0 d.tree) := by
    refine yields_node hr d.tree Order.alone {} html ((r.node .alone d.tree).run.run {}).2 ?_
    rw [← hok]
    rfl
  rw [← String.ofList_toList (s := html), hchars]
  exact Dom.read?_chars (proper_forest r hkeys 0)

/-- A document with marks in its texts and values, a wrapper, an unknown component and an image
without an address. -/
def trickyPage : Wire.Document :=
  { tree :=
      .element "html.div"
        [ ("className", .arr [.str "a\"", .str "<b>"]), ("data-x", .str "\"/><script>&amp;"),
          ("disabled", .bool true), ("hidden", .bool false), ("title", .null) ]
        [ .text "a < b",
          .element "Fragment" [] [.text " &amp; ", .element "Unknown" [] [.text "c"]],
          .element "html.br" [] [.text "lost"],
          .element "Wrapper" [] [.element "html.h1" [("style", .obj [("color", .str "red")])] []],
          .element "html.img" [("alt", .str "</span>"), ("src", .null)] [] ] }

/-- The page rendered for it. -/
def trickyHtml : String :=
  "<div class=\"a&quot; &lt;b&gt;\" data-x=\"&quot;/&gt;&lt;script&gt;&amp;amp;\" disabled>"
    ++ "a &lt; b &amp;amp; c<br><h1 style=\"color: red; margin-top: 0px;\"></h1>"
    ++ "<span data-missing-asset=\"true\">[&lt;/span&gt;]</span></div>"

theorem eq_ok_of_toOption {x : Except RenderError String} {html : String}
    (h : x.toOption = some html) : x = .ok html := by
  cases x with
  | error e => cases h
  | ok html' => exact congrArg Except.ok (Option.some.inj h)

theorem render_readsBack_tricky :
    (∀ key ∈ nodeKeys trickyPage.tree, isName key = true)
      ∧ (({ components := defaultComponents } : Renderer).render trickyPage).html = .ok trickyHtml
      ∧ Dom.read? trickyHtml
        = some [ .element "div"
            [("class", some "a\" <b>"), ("data-x", some "\"/><script>&amp;"), ("disabled", none)]
            [ .text "a < b &amp; c", .element "br" [] [],
              .element "h1" [("style", some "color: red; margin-top: 0px;")] [],
              .element "span" [("data-missing-asset", some "true")] [.text "[</span>]"] ] ] := by
  have hkeys : ∀ key ∈ nodeKeys trickyPage.tree, isName key = true := by decide
  have hok := eq_ok_of_toOption (show (({ components := defaultComponents } : Renderer).render
    trickyPage).html.toOption = some trickyHtml by decide +kernel)
  exact ⟨hkeys, hok, (render_readsBack _ rfl trickyPage hkeys hok).trans (by rfl)⟩

end Renderer

end Mdx.Html
