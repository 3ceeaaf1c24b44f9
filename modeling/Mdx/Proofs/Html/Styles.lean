import Mdx.Html.Scope
import Mdx.Proofs.Dict

/-!
# Styles of nested scopes

Styles are merged two scopes at a time, and it may matter which two are merged first. Under a key an
object is joined with the object around it, and any other style hides what is around it. If such a
style stands between two objects, then it hides the outer one, unless it is merged with the inner
one first: the inner object replaces it, and nothing is left to hide the outer one. `Covered` says
that this makes no difference. The main statement is `mergeStyles_assoc_iff`: all ways to merge the
scopes agree exactly if the styles under every key are covered. `mergeStyles_not_assoc` has three
scopes for which they do not agree.
-/

namespace Mdx.Html

/-- A map of styles: its keys are distinct and in order, and so are those of the objects in it. -/
structure IsStyles (styles : Dict Json) : Prop where
  sorted : styles.Sorted
  objects : ∀ key fields, styles.get? key = some (.obj fields) → Dict.Sorted fields

theorem IsStyles.of_entries {styles : Dict Json} (hsorted : styles.Sorted)
    (h : ∀ entry ∈ styles, ∀ fields, entry.2 = .obj fields → Dict.Sorted fields) :
    IsStyles styles :=
  ⟨hsorted, fun _ fields hget => h _ (Dict.mem_of_get? hget) fields rfl⟩

/-- A style that is joined with others. -/
def isObject (style : Json) : Bool :=
  style.obj?.isSome

/-! ## One key -/

/-- The style under a key that two scopes give together. -/
def overlaid (outer inner : Option Json) : Option Json :=
  (inner.map (overlay outer)).or outer

/-- The value of a property in the first style that has it. -/
def property (name : String) (styles : List Json) : Option Json :=
  styles.findSome? (Json.field? name)

/-- The styles under a key in nested scopes, innermost first. -/
def stylesOf (key : String) (scopes : List (Dict Json)) : List Json :=
  scopes.filterMap (Dict.get? key)

/-- If the innermost style is an object, then no property is set in outer styles alone: each is also
set in one of the objects that stand inside of every other style. -/
def Covered (styles : List Json) : Prop :=
  styles.head?.any isObject = true →
    ∀ outer ∈ styles, ∀ name, (outer.field? name).isSome = true →
      ∃ inner ∈ styles.takeWhile isObject, (inner.field? name).isSome = true

theorem eq_obj_of_isObject {style : Json} (h : isObject style = true) :
    ∃ fields, style = .obj fields := by
  cases style with
  | obj fields => exact ⟨fields, rfl⟩
  | _ => cases h

theorem field?_eq_none {style : Json} (h : isObject style = false) (name : String) :
    style.field? name = none := by
  cases style with
  | obj fields => cases h
  | _ => rfl

theorem overlay_of_not_isObject {style : Json} (h : isObject style = false)
    (outer : Option Json) : overlay outer style = style := by
  cases style with
  | obj fields => cases h
  | _ => simp [overlay]

theorem overlaid_none (outer : Option Json) : overlaid outer none = outer := rfl

/-- An object has its own properties and those of the object that it is joined with. -/
theorem field?_overlay_obj (outer : Option Json) {fields : Dict Json} (h : fields.Sorted)
    (name : String) :
    (overlay outer (.obj fields)).field? name
      = ((Json.obj fields).field? name).or (outer.bind (Json.field? name)) := by
  rcases outer with _ | outer
  · exact (Option.or_none).symm
  · cases outer with
    | obj parent => exact Dict.get?_union h parent name
    | _ => exact (Option.or_none).symm

theorem overlay_obj (outer : Option Json) (fields : Dict Json) :
    ∃ more, overlay outer (.obj fields) = .obj more := by
  rcases outer with _ | outer
  · exact ⟨fields, rfl⟩
  · cases outer <;> exact ⟨_, rfl⟩

theorem sorted_overlay {outer : Option Json} {inner : Json}
    (houter : ∀ fields, outer = some (.obj fields) → Dict.Sorted fields)
    (hinner : ∀ fields, inner = .obj fields → Dict.Sorted fields) :
    ∀ fields, overlay outer inner = .obj fields → Dict.Sorted fields := by
  intro fields hfields
  rw [overlay.eq_def] at hfields
  split at hfields
  · rename_i parent child
    obtain rfl := Json.obj.inj hfields
    exact (houter parent rfl).union child
  · exact hinner fields hfields

/-! ## Merged styles -/

/-- What is known of a style that styles are merged to, in whatever way. -/
structure Merges (styles : List Json) (result : Option Json) : Prop where
  sorted : ∀ fields, result = some (.obj fields) → Dict.Sorted fields
  empty : styles.head? = none → result = none
  other : ∀ style, styles.head? = some style → isObject style = false → result = some style
  object : styles.head?.any isObject = true → ∃ fields, result = some (.obj fields)
  own : ∀ name value, property name (styles.takeWhile isObject) = some value →
    result.bind (Json.field? name) = some value
  known : ∀ name, property name styles = none → result.bind (Json.field? name) = none

theorem property_cons (name : String) (style : Json) (styles : List Json) :
    property name (style :: styles) = (style.field? name).or (property name styles) := by
  rw [property, List.findSome?_cons]
  cases style.field? name <;> rfl

theorem property_append (name : String) (styles more : List Json) :
    property name (styles ++ more) = (property name styles).or (property name more) :=
  List.findSome?_append

/-- The properties inside of all other styles are found there first. -/
theorem property_of_takeWhile {name : String} {styles : List Json} {value : Json}
    (h : property name (styles.takeWhile isObject) = some value) :
    property name styles = some value := by
  rw [← List.takeWhile_append_dropWhile (p := isObject) (l := styles), property_append, h]
  rfl

namespace Merges

/-- A style is merged from itself. -/
theorem single {style : Option Json}
    (h : ∀ fields, style = some (.obj fields) → Dict.Sorted fields) :
    Merges style.toList style := by
  rcases style with _ | style
  · exact ⟨h, fun _ => rfl, by simp, by simp, by simp [property], by simp⟩
  · refine ⟨h, by simp, by simp, fun hobject => ?_, fun name value hvalue => ?_,
      fun name hnone => ?_⟩
    · have hstyle : isObject style = true := by simpa using hobject
      obtain ⟨fields, rfl⟩ := eq_obj_of_isObject hstyle
      exact ⟨fields, rfl⟩
    · simpa [property] using property_of_takeWhile hvalue
    · simpa [property] using hnone

/-- Nothing that is outside of a style that is no object is seen. -/
theorem innermost {style : Json} (h : isObject style = false) (outer : List Json) :
    Merges (style :: outer) (some style) := by
  refine ⟨?_, by simp, by simp, by simp [h], ?_, fun name _ => field?_eq_none h name⟩
  · rintro fields ⟨rfl⟩
    cases h
  · simp [h, property]

/-- A property inside of all other styles is one of the inner object, or else of what is merged from
the outer styles. -/
theorem own_append {outer inner : List Json} {x : Option Json} {fields : Dict Json}
    (hx : Merges outer x) (hy : Merges inner (some (.obj fields))) {name : String} {value : Json}
    (h : property name ((inner ++ outer).takeWhile isObject) = some value) :
    ((Json.obj fields).field? name).or (x.bind (Json.field? name)) = some value := by
  rw [List.takeWhile_append] at h
  split at h
  · -- All inner styles are objects, so those next to them in the outer ones join them.
    rename_i hall
    have hwhole : inner.takeWhile isObject = inner :=
      (List.takeWhile_prefix isObject).eq_of_length hall
    rw [property_append] at h
    cases hinner : property name inner with
    | some found =>
        rw [hinner] at h
        have hown : (Json.obj fields).field? name = some found :=
          hy.own name found (by rw [hwhole]; exact hinner)
        rw [hown]
        exact h
    | none =>
        have hnone : (Json.obj fields).field? name = none := hy.known name hinner
        rw [hinner] at h
        rw [hnone]
        exact hx.own name value h
  · have hown : (Json.obj fields).field? name = some value := hy.own name value h
    rw [hown]
    rfl

/-- What is merged from inner styles is put over what is merged from outer ones. -/
theorem append {outer inner : List Json} {x y : Option Json} (hx : Merges outer x)
    (hy : Merges inner y) : Merges (inner ++ outer) (overlaid x y) := by
  cases inner with
  | nil =>
      rw [hy.empty rfl, overlaid_none]
      exact hx
  | cons style rest =>
      cases hstyle : isObject style with
      | false =>
          have hresult : overlaid x y = some style := by
            rw [hy.other style rfl hstyle, overlaid, Option.map_some,
              overlay_of_not_isObject hstyle]
            rfl
          rw [hresult]
          exact .innermost hstyle (rest ++ outer)
      | true =>
          obtain ⟨fields, rfl⟩ := hy.object (by simp [hstyle])
          obtain ⟨more, hmore⟩ := overlay_obj x fields
          have hsorted := hy.sorted fields rfl
          have hresult : overlaid x (some (.obj fields)) = some (overlay x (.obj fields)) := rfl
          have hfield : ∀ name, (overlaid x (some (.obj fields))).bind (Json.field? name)
              = ((Json.obj fields).field? name).or (x.bind (Json.field? name)) :=
            fun name => field?_overlay_obj x hsorted name
          refine ⟨fun fields' hfields' => ?_, by simp, by simp [hstyle],
            fun _ => ⟨more, by rw [hresult, hmore]⟩,
            fun name value hvalue => (hfield name).trans (hx.own_append hy hvalue),
            fun name hnone => ?_⟩
          · refine sorted_overlay hx.sorted (fun inner hinner => ?_) fields'
              (Option.some.inj hfields')
            exact Json.obj.inj hinner ▸ hsorted
          · rw [property_append, Option.or_eq_none_iff] at hnone
            have hinner : (Json.obj fields).field? name = none := hy.known name hnone.1
            rw [hfield, hx.known name hnone.2, hinner]
            rfl

end Merges

/-! ## Covered styles -/

theorem property_eq_none {name : String} {styles : List Json} :
    property name styles = none ↔ ∀ style ∈ styles, style.field? name = none :=
  List.findSome?_eq_none_iff

theorem covered_iff {styles : List Json} (h : styles.head?.any isObject = true) :
    Covered styles
      ↔ ∀ name, property name (styles.takeWhile isObject) = property name styles := by
  constructor
  · intro hcovered name
    cases hown : property name (styles.takeWhile isObject) with
    | some value => exact (property_of_takeWhile hown).symm
    | none =>
        refine (property_eq_none.mpr fun outer houter => ?_).symm
        rw [← Option.not_isSome_iff_eq_none]
        intro hsome
        obtain ⟨inner, hinner, hfield⟩ := hcovered h outer houter name hsome
        rw [property_eq_none.mp hown inner hinner] at hfield
        cases hfield
  · intro heq _ outer houter name hsome
    obtain ⟨value, hvalue⟩ : ∃ value, property name (styles.takeWhile isObject) = some value := by
      rw [heq, ← Option.ne_none_iff_exists']
      intro hnone
      rw [property_eq_none.mp hnone outer houter] at hsome
      cases hsome
    obtain ⟨inner, hinner, hfield⟩ := List.exists_of_findSome?_eq_some hvalue
    exact ⟨inner, hinner, by rw [hfield]; rfl⟩

/-- Covered styles are merged to the same in all ways. -/
theorem Merges.unique {styles : List Json} {x y : Option Json} (hcovered : Covered styles)
    (hx : Merges styles x) (hy : Merges styles y) : x = y := by
  cases hhead : styles.head? with
  | none => rw [hx.empty hhead, hy.empty hhead]
  | some style =>
      cases hstyle : isObject style with
      | false => rw [hx.other style hhead hstyle, hy.other style hhead hstyle]
      | true =>
          have hobject : styles.head?.any isObject = true := by
            rw [hhead]
            exact hstyle
          obtain ⟨fields, rfl⟩ := hx.object hobject
          obtain ⟨fields', rfl⟩ := hy.object hobject
          have hfields : fields = fields' := by
            refine (hx.sorted fields rfl).ext (hy.sorted fields' rfl) fun name => ?_
            have hsame := (covered_iff hobject).mp hcovered name
            cases hown : property name (styles.takeWhile isObject) with
            | some value => exact (hx.own name value hown).trans (hy.own name value hown).symm
            | none =>
                have hnone : property name styles = none := hsame.symm.trans hown
                exact (hx.known name hnone).trans (hy.known name hnone).symm
          rw [hfields]

/-! ## Scopes -/

theorem get?_mergeStyles (a : Dict Json) {b : Dict Json} (hb : b.Sorted) (key : String) :
    (mergeStyles a b).get? key = overlaid (a.get? key) (b.get? key) :=
  Dict.get?_update overlay hb a key

theorem IsStyles.merge {a b : Dict Json} (ha : IsStyles a) (hb : IsStyles b) :
    IsStyles (mergeStyles a b) := by
  refine ⟨ha.sorted.update overlay b, fun key fields hget => ?_⟩
  rw [get?_mergeStyles a hb.sorted] at hget
  cases hinner : b.get? key with
  | none =>
      rw [hinner, overlaid_none] at hget
      exact ha.objects key fields hget
  | some inner =>
      rw [hinner] at hget
      exact sorted_overlay (ha.objects key)
        (fun child hchild => hb.objects key child (hchild ▸ hinner)) fields (Option.some.inj hget)

/-- The styles are merged from those of nested scopes, innermost first, in whatever way. -/
structure Represents (scopes : List (Dict Json)) (styles : Dict Json) : Prop extends
    IsStyles styles where
  merges : ∀ key, Merges (stylesOf key scopes) (styles.get? key)

namespace Represents

variable {outer inner scopes : List (Dict Json)} {a b : Dict Json}

theorem nil : Represents [] [] := by
  have hnone : Merges (none : Option Json).toList none := .single (by simp)
  exact ⟨⟨List.Pairwise.nil, by simp [Dict.get?]⟩, fun _ => hnone⟩

theorem scope (h : IsStyles a) : Represents [a] a := by
  refine ⟨h, fun key => ?_⟩
  have hsingle : stylesOf key [a] = (a.get? key).toList := by
    cases hget : a.get? key <;> simp [stylesOf, hget]
  rw [hsingle]
  exact .single (h.objects key)

theorem merge (ha : Represents outer a) (hb : Represents inner b) :
    Represents (inner ++ outer) (mergeStyles a b) := by
  refine ⟨ha.toIsStyles.merge hb.toIsStyles, fun key => ?_⟩
  rw [get?_mergeStyles a hb.sorted, stylesOf, List.filterMap_append]
  exact (ha.merges key).append (hb.merges key)

/-- Covered styles determine what they are merged to. -/
theorem unique (hcovered : ∀ key, Covered (stylesOf key scopes)) (ha : Represents scopes a)
    (hb : Represents scopes b) : a = b :=
  ha.sorted.ext hb.sorted fun key => (ha.merges key).unique (hcovered key) (hb.merges key)

end Represents

/-! ### From the outside -/

theorem merged_cons (scope : Dict Json) (rest : List (Dict Json)) :
    StyleScopes.merged ⟨scope :: rest⟩ = mergeStyles (StyleScopes.merged ⟨rest⟩) scope := by
  simp [StyleScopes.merged]

theorem represents_merged {scopes : List (Dict Json)} (h : ∀ scope ∈ scopes, IsStyles scope) :
    Represents scopes (StyleScopes.merged ⟨scopes⟩) := by
  induction scopes with
  | nil => exact .nil
  | cons scope rest ih =>
      obtain ⟨hscope, hrest⟩ := List.forall_mem_cons.mp h
      rw [merged_cons]
      exact (ih hrest).merge (.scope hscope)

/-- Merged from the outside, an object has the properties of the objects next to it alone. -/
theorem property_merged {scopes : List (Dict Json)} (h : ∀ scope ∈ scopes, IsStyles scope)
    (key name : String) :
    ((StyleScopes.merged ⟨scopes⟩).get? key).bind (Json.field? name)
      = property name ((stylesOf key scopes).takeWhile isObject) := by
  induction scopes with
  | nil => rfl
  | cons scope rest ih =>
      obtain ⟨hscope, hrest⟩ := List.forall_mem_cons.mp h
      rw [merged_cons, get?_mergeStyles _ hscope.sorted]
      cases hget : scope.get? key with
      | none =>
          have hskip : stylesOf key (scope :: rest) = stylesOf key rest := by
            simp [stylesOf, hget]
          rw [overlaid_none, ih hrest, hskip]
      | some style =>
          have hcons : stylesOf key (scope :: rest) = style :: stylesOf key rest := by
            simp [stylesOf, hget]
          have hover : ∀ outer, overlaid outer (some style) = some (overlay outer style) :=
            fun _ => rfl
          rw [hcons, hover, List.takeWhile_cons, Option.bind_some]
          cases hstyle : isObject style with
          | false =>
              rw [overlay_of_not_isObject hstyle, field?_eq_none hstyle]
              rfl
          | true =>
              obtain ⟨fields, rfl⟩ := eq_obj_of_isObject hstyle
              rw [field?_overlay_obj _ (hscope.objects key fields hget), ih hrest, if_pos rfl,
                property_cons]

/-! ### From the inside -/

/-- A way to merge nested scopes. -/
inductive Grouping where
  | scope (styles : Dict Json)
  | join (outer inner : Grouping)

namespace Grouping

/-- The scopes, innermost first. -/
def scopes : Grouping → List (Dict Json)
  | scope styles => [styles]
  | join outer inner => inner.scopes ++ outer.scopes

/-- The styles that the scopes are merged to. -/
def styles : Grouping → Dict Json
  | scope styles => styles
  | join outer inner => mergeStyles outer.styles inner.styles

theorem represents {g : Grouping} (h : ∀ scope ∈ g.scopes, IsStyles scope) :
    Represents g.scopes g.styles := by
  induction g with
  | scope styles => exact .scope (h styles List.mem_cons_self)
  | join outer inner ihouter ihinner =>
      obtain ⟨hinner, houter⟩ := List.forall_mem_append.mp h
      exact (ihouter houter).merge (ihinner hinner)

/-- Scopes around a grouping, each merged with all that is inside of it. -/
def around (g : Grouping) : List (Dict Json) → Grouping
  | [] => g
  | outer :: rest => around (join (scope outer) g) rest

theorem scopes_around (g : Grouping) (rest : List (Dict Json)) :
    (around g rest).scopes = g.scopes ++ rest := by
  induction rest generalizing g with
  | nil => exact (List.append_nil _).symm
  | cons outer rest ih => simp [around, ih, scopes]

/-- The objects of a grouping have all properties that are set. -/
def Full (g : Grouping) (key : String) : Prop :=
  (stylesOf key g.scopes).head?.any isObject = true → ∀ name,
    (g.styles.get? key).bind (Json.field? name) = property name (stylesOf key g.scopes)

theorem full_scope (styles : Dict Json) (key : String) : Full (scope styles) key := by
  intro _ name
  cases hget : styles.get? key <;> simp [scopes, Grouping.styles, stylesOf, property, hget]

theorem Full.join {g : Grouping} (h : ∀ scope ∈ g.scopes, IsStyles scope) {key : String}
    (hfull : Full g key) (outer : Dict Json) : Full (join (scope outer) g) key := by
  intro hobject name
  have hscopes : stylesOf key (Grouping.join (scope outer) g).scopes
      = stylesOf key g.scopes ++ (outer.get? key).toList := by
    cases hget : outer.get? key <;> simp [scopes, stylesOf, hget]
  have houter : property name (outer.get? key).toList
      = (outer.get? key).bind (Json.field? name) := by
    cases outer.get? key <;> simp [property]
  have hrep := represents h
  rw [hscopes] at hobject ⊢
  rw [Grouping.styles, get?_mergeStyles _ hrep.sorted, property_append, houter]
  cases hhead : (stylesOf key g.scopes).head? with
  | none =>
      rw [(hrep.merges key).empty hhead, overlaid_none, List.head?_eq_none_iff.mp hhead]
      rfl
  | some style =>
      have hinner : (stylesOf key g.scopes).head?.any isObject = true := by
        rw [List.head?_append, hhead] at hobject
        rw [hhead]
        exact hobject
      rw [← hfull hinner name]
      obtain ⟨fields, hfields⟩ := (hrep.merges key).object hinner
      rw [hfields]
      exact field?_overlay_obj _ ((hrep.merges key).sorted fields hfields) name

/-- Merged from the inside, an object has all properties that are set. -/
theorem full_around {g : Grouping} {rest : List (Dict Json)}
    (h : ∀ scope ∈ (around g rest).scopes, IsStyles scope) {key : String} (hfull : Full g key) :
    Full (around g rest) key := by
  induction rest generalizing g with
  | nil => exact hfull
  | cons outer rest ih =>
      rw [scopes_around] at h
      have hg : ∀ scope ∈ g.scopes, IsStyles scope :=
        fun scope hscope => h scope (List.mem_append_left _ hscope)
      refine ih ?_ (hfull.join hg outer)
      rw [scopes_around]
      simpa [scopes] using h

end Grouping

/-- Merged from the outside and from the inside, scopes give the same styles exactly if the styles
under every key are covered. -/
theorem merged_eq_around_iff {first : Dict Json} {rest : List (Dict Json)}
    (h : ∀ scope ∈ first :: rest, IsStyles scope) :
    StyleScopes.merged ⟨first :: rest⟩ = (Grouping.around (.scope first) rest).styles
      ↔ ∀ key, Covered (stylesOf key (first :: rest)) := by
  have hscopes : (Grouping.around (.scope first) rest).scopes = first :: rest :=
    Grouping.scopes_around _ rest
  have haround : ∀ scope ∈ (Grouping.around (.scope first) rest).scopes, IsStyles scope :=
    hscopes ▸ h
  constructor
  · intro heq key hobject
    have hfull := Grouping.full_around haround (Grouping.full_scope first key)
    rw [Grouping.Full, hscopes, ← heq] at hfull
    refine (covered_iff hobject).mpr (fun name => ?_) hobject
    rw [← property_merged h, hfull hobject]
  · intro hcovered
    have hrep := Grouping.represents haround
    rw [hscopes] at hrep
    exact (represents_merged h).unique hcovered hrep

theorem mergeStyles_nil {styles : Dict Json} (h : styles.Sorted) :
    mergeStyles [] styles = styles := by
  have hnil : Dict.Sorted ([] : Dict Json) := List.Pairwise.nil
  refine (hnil.update overlay styles).ext h fun key => ?_
  refine (get?_mergeStyles [] h key).trans ?_
  cases hget : styles.get? key <;> simp [overlaid, overlay, Dict.get?]

/-- When it does not matter how style scopes are merged. The styles of three scopes are the same
merged from the outside and from the inside exactly if, under every key whose innermost style is an
object, each property is set by an object that stands inside of all styles that are no objects. For
any number of scopes this is when all ways to merge them give the styles that the scopes have. -/
theorem mergeStyles_assoc_iff :
    (∀ a b c : Dict Json, IsStyles a → IsStyles b → IsStyles c →
      (mergeStyles (mergeStyles a b) c = mergeStyles a (mergeStyles b c)
        ↔ ∀ key, Covered (stylesOf key [c, b, a])))
      ∧ ∀ scopes : List (Dict Json), (∀ scope ∈ scopes, IsStyles scope) →
        ((∀ g : Grouping, g.scopes = scopes → g.styles = StyleScopes.merged ⟨scopes⟩)
          ↔ ∀ key, Covered (stylesOf key scopes)) := by
  refine ⟨fun a b c ha hb hc => ?_, fun scopes h => ⟨fun hall => ?_, fun hcovered g hg => ?_⟩⟩
  · have hmerged : StyleScopes.merged ⟨[c, b, a]⟩ = mergeStyles (mergeStyles a b) c := by
      rw [merged_cons, merged_cons, merged_cons]
      exact congrArg (fun first => mergeStyles (mergeStyles first b) c) (mergeStyles_nil ha.sorted)
    rw [← hmerged]
    exact merged_eq_around_iff (by simp [ha, hb, hc])
  · cases scopes with
    | nil => exact fun key hobject => absurd hobject (by simp [stylesOf])
    | cons first rest =>
        exact (merged_eq_around_iff h).mp (hall _ (Grouping.scopes_around _ rest)).symm
  · subst hg
    exact (Grouping.represents h).unique hcovered (represents_merged h)

/-- The styles of a scope that sets one style. -/
def styled (key : String) (style : Json) : Dict Json :=
  [(key, style)]

theorem isStyles_styled {key : String} {style : Json}
    (h : ∀ fields, style = .obj fields → Dict.Sorted fields) : IsStyles (styled key style) :=
  .of_entries (List.pairwise_singleton _ _) (by simpa [styled] using h)

theorem stylesOf_styled (key other : String) (styles : List Json) :
    stylesOf other (styles.map (styled key)) = if key = other then styles else [] := by
  induction styles with
  | nil => simp [stylesOf]
  | cons style rest ih =>
      rw [stylesOf] at ih ⊢
      rw [List.map_cons, List.filterMap_cons, ih]
      by_cases hkey : key = other <;> simp [styled, Dict.get?, hkey]

def red : Dict Json := styled "p" (.obj [("color", .str "red")])

def plain : Dict Json := styled "p" (.str "x")

def roomy : Dict Json := styled "p" (.obj [("margin", .ofNat 1)])

def roomyBlue : Dict Json := styled "p" (.obj [("color", .str "blue"), ("margin", .ofNat 1)])

theorem isStyles_red : IsStyles red := isStyles_styled (by rintro _ ⟨rfl⟩; decide)

theorem isStyles_plain : IsStyles plain := isStyles_styled (by simp)

/-- The inner object sets the property that the text between hides. -/
theorem mergeStyles_assoc_iff_recoloured :
    (IsStyles red ∧ IsStyles plain ∧ IsStyles roomyBlue)
      ∧ mergeStyles (mergeStyles red plain) roomyBlue
        = mergeStyles red (mergeStyles plain roomyBlue)
      ∧ ∀ g : Grouping, g.scopes = [roomyBlue, plain, red] → g.styles = roomyBlue := by
  have hblue : IsStyles roomyBlue := isStyles_styled (by rintro _ ⟨rfl⟩; decide)
  have hcovered : ∀ key, Covered (stylesOf key [roomyBlue, plain, red]) := by
    intro key
    have hstyles := stylesOf_styled "p" key
      [ .obj [("color", .str "blue"), ("margin", .ofNat 1)], .str "x",
        .obj [("color", .str "red")] ]
    rw [show stylesOf key [roomyBlue, plain, red] = _ from hstyles]
    split
    · intro _ outer houter name hname
      refine ⟨_, List.mem_cons_self, ?_⟩
      simp only [List.mem_cons, List.not_mem_nil, or_false] at houter
      rcases houter with rfl | rfl | rfl
      · exact hname
      · cases hname
      · obtain rfl : "color" = name := by simpa [Json.field?, Dict.get?] using hname
        rfl
    · simp [Covered]
  refine ⟨⟨isStyles_red, isStyles_plain, hblue⟩,
    (mergeStyles_assoc_iff.1 _ _ _ isStyles_red isStyles_plain hblue).mpr hcovered, fun g hg => ?_⟩
  have hscopes : ∀ scope ∈ [roomyBlue, plain, red], IsStyles scope := by
    simp [isStyles_red, isStyles_plain, hblue]
  rw [(mergeStyles_assoc_iff.2 _ hscopes).mpr hcovered g hg]
  rfl

/-- A text between two objects hides the outer one, but not if it is merged with the inner one
first. -/
theorem mergeStyles_not_assoc :
    (IsStyles red ∧ IsStyles plain ∧ IsStyles roomy)
      ∧ mergeStyles (mergeStyles red plain) roomy = styled "p" (.obj [("margin", .ofNat 1)])
      ∧ mergeStyles red (mergeStyles plain roomy)
        = styled "p" (.obj [("color", .str "red"), ("margin", .ofNat 1)])
      ∧ mergeStyles (mergeStyles red plain) roomy ≠ mergeStyles red (mergeStyles plain roomy) := by
  have hroomy : IsStyles roomy := isStyles_styled (by rintro _ ⟨rfl⟩; decide)
  have houtside : mergeStyles (mergeStyles red plain) roomy
      = styled "p" (.obj [("margin", .ofNat 1)]) := rfl
  have hinside : mergeStyles red (mergeStyles plain roomy)
      = styled "p" (.obj [("color", .str "red"), ("margin", .ofNat 1)]) := rfl
  refine ⟨⟨isStyles_red, isStyles_plain, hroomy⟩, houtside, hinside, ?_⟩
  rw [houtside, hinside]
  simp [styled]

end Mdx.Html
