import Mdx.Proofs.Dict
import Mdx.Proofs.Html.Outcome

/-!
# The warnings of a rendering

What a rendering that succeeds warns of: each missing key once, when it is first looked up, and each
call that failed for want of an asset. `Adds` says what a part of a rendering adds to the state, and
has a law for doing one part after another; `adds_node` follows the document. Together with the
outcome of a rendering this is `Renderer.render_exact`.
-/

namespace Mdx.Html

/-! ## Interleaved lists -/

/-- The third list is made of the elements of the first two, each in their order. -/
inductive Interleaved {α : Type} : List α → List α → List α → Prop where
  | nil : Interleaved [] [] []
  | left {a : α} {xs ys zs : List α} : Interleaved xs ys zs → Interleaved (a :: xs) ys (a :: zs)
  | right {a : α} {xs ys zs : List α} : Interleaved xs ys zs → Interleaved xs (a :: ys) (a :: zs)

namespace Interleaved

variable {α : Type} {xs ys zs xs' ys' zs' : List α}

theorem append (h : Interleaved xs ys zs) (h' : Interleaved xs' ys' zs') :
    Interleaved (xs ++ xs') (ys ++ ys') (zs ++ zs') := by
  induction h with
  | nil => exact h'
  | left _ ih => exact .left ih
  | right _ ih => exact .right ih

theorem eq_of_left_nil (h : Interleaved [] ys zs) : zs = ys := by
  generalize hxs : ([] : List α) = xs at h
  induction h with
  | nil => rfl
  | left _ _ => cases hxs
  | right _ ih => rw [ih hxs]

end Interleaved

namespace Renderer

/-! ## Keys and calls -/

/-- The keys that are looked up in vain, as often as they are. -/
def missingKeys (components : Dict Component) (ls : List Lookup) : List String :=
  (ls.filter (·.isMissing components)).map (·.key)

theorem missingKeys_append (components : Dict Component) (ls ms : List Lookup) :
    missingKeys components (ls ++ ms)
      = missingKeys components ls ++ missingKeys components ms := by
  simp [missingKeys]

/-- The warning for an element that was replaced by a placeholder. -/
def placeholderWarning (name : String) (cause : Asset.Error) : Diagnostic :=
  .warning ("<" ++ name ++ "> replaced by a placeholder: " ++ cause.message)

/-- The warning for a call, if it fails for want of an asset. -/
def Call.warning? (call : Call) : Option Diagnostic :=
  match call.component call.context call.props call.inner with
  | .error (.asset cause) => some (placeholderWarning call.context.name cause)
  | _ => none

/-- The keys that have not been seen, each where it first occurs. -/
def fresh (seen keys : List String) : List String :=
  (keys.removeAll seen).eraseDups

theorem fresh_nil (keys : List String) : fresh [] keys = keys.eraseDups := by
  have hall : keys.removeAll [] = keys := List.filter_eq_self.mpr fun _ _ => rfl
  rw [fresh, hall]

/-- What is fresh in one list after another: the keys of the first have been seen in the second. -/
theorem fresh_append {seen seen' keys : List String}
    (h : ∀ key, key ∈ seen' ↔ key ∈ seen ∨ key ∈ keys) (more : List String) :
    fresh seen (keys ++ more) = fresh seen keys ++ fresh seen' more := by
  have hmore : (more.removeAll seen).removeAll (keys.removeAll seen) = more.removeAll seen' := by
    simp only [List.removeAll, List.filter_filter]
    refine List.filter_congr fun key _ => ?_
    by_cases hseen : key ∈ seen <;> by_cases hkey : key ∈ keys <;> simp [h, hseen, hkey]
  have hsplit : (keys ++ more).removeAll seen = keys.removeAll seen ++ more.removeAll seen := by
    simp [List.removeAll]
  rw [fresh, hsplit, List.eraseDups_append, hmore]
  rfl

/-! ## What a part of a rendering adds -/

/-- Between two states, the keys were looked up in vain and the warnings for placeholders were
given: each key that had not been reported was, once. -/
structure Adds (keys : List String) (placeholders : List Diagnostic) (s s' : State) : Prop where
  warnings : ∃ added, s'.diagnostics = s.diagnostics ++ added
    ∧ Interleaved ((fresh s.reported keys).map missingWarning) placeholders added
  reported : ∀ key, key ∈ s'.reported ↔ key ∈ s.reported ∨ key ∈ keys

namespace Adds

variable {keys keys' : List String} {placeholders placeholders' : List Diagnostic}
  {s s' s'' : State}

theorem nothing (s : State) : Adds [] [] s s :=
  { warnings := ⟨[], by simp, .nil⟩
    reported := fun key => by simp }

theorem trans (h : Adds keys placeholders s s') (h' : Adds keys' placeholders' s' s'') :
    Adds (keys ++ keys') (placeholders ++ placeholders') s s'' := by
  obtain ⟨added, hadded, hmixed⟩ := h.warnings
  obtain ⟨added', hadded', hmixed'⟩ := h'.warnings
  refine ⟨⟨added ++ added', ?_, ?_⟩, fun key => ?_⟩
  · rw [hadded', hadded, List.append_assoc]
  · rw [fresh_append h.reported, List.map_append]
    exact hmixed.append hmixed'
  · rw [h'.reported, h.reported, List.mem_append, or_assoc]

/-- A missing key is reported unless it has been. -/
theorem noteMissing (s : State) (key : String) : Adds [key] [] s (s.noteMissing key) := by
  refine ⟨?_, fun other => by rw [Performs.mem_noteMissing, List.mem_singleton]⟩
  rw [State.noteMissing]
  split
  · rename_i hreported
    have hmem : key ∈ s.reported := List.contains_iff_mem.mp hreported
    have hfresh : fresh s.reported [key] = [] := by simp [fresh, List.removeAll, hmem]
    rw [hfresh]
    exact ⟨[], by simp, .nil⟩
  · rename_i hreported
    have hmem : key ∉ s.reported := fun h => hreported (List.contains_iff_mem.mpr h)
    have hfresh : fresh s.reported [key] = [key] := by
      simp [fresh, List.removeAll, hmem, List.eraseDups_cons]
    rw [hfresh]
    exact ⟨[missingWarning key], rfl, .left .nil⟩

/-- A call that succeeds, or is recovered from, adds the warning for it. -/
theorem invoke {call : Call} {html : String}
    (h : exec (Renderer.invoke call.component call.context call.props call.inner) s
      = (.ok html, s')) :
    Adds [] ([call].filterMap Call.warning?) s s' := by
  rw [Renderer.invoke] at h
  rw [List.filterMap_cons, Call.warning?]
  split at h
  · rename_i hok
    cases h
    rw [hok]
    exact nothing s
  · rename_i cause herror
    cases h
    rw [herror]
    refine ⟨⟨[placeholderWarning call.context.name cause], rfl, .right .nil⟩, fun key => ?_⟩
    rw [or_iff_left List.not_mem_nil]
  · cases h

end Adds

variable {r : Renderer}

theorem adds_row {cs : List Wire.Node}
    (h : ∀ n ∈ cs, ∀ order s html s', exec (r.node order n) s = (.ok html, s') →
      Adds (missingKeys r.components (lookups r.tagPrefix n))
        ((r.calls order n s).filterMap Call.warning?) s s')
    (index : Nat) (positions : List Order) (s : State) {html : String} {s' : State}
    (hrow : exec (r.row positions cs) s = (.ok html, s')) :
    Adds (missingKeys r.components (rowLookups r.tagPrefix cs))
      ((r.rowCalls index positions cs s).filterMap Call.warning?) s s' := by
  induction cs generalizing index positions s html with
  | nil =>
      cases hrow
      exact .nothing _
  | cons n rest ih =>
      rw [row] at hrow
      obtain ⟨here, s₁, hhere, hthen⟩ := exec_bind_eq_ok hrow
      obtain ⟨more, s₂, hmore, hend⟩ := exec_bind_eq_ok hthen
      cases hend
      have hfirst := h n (by simp) _ s here s₁ hhere
      have hothers := ih (fun m hm => h m (List.mem_cons_of_mem _ hm)) (index + 1) _ s₁ hmore
      rw [rowCalls, rowLookups, missingKeys_append, List.filterMap_append, List.filterMap_map,
        hhere]
      exact hfirst.trans hothers

/-- Rendering a node warns of the keys that are missing for its elements and of the calls that fail
for want of an asset. -/
theorem adds_node (n : Wire.Node) :
    ∀ order s html s', exec (r.node order n) s = (.ok html, s') →
      Adds (missingKeys r.components (lookups r.tagPrefix n))
        ((r.calls order n s).filterMap Call.warning?) s s' := by
  induction n using Wire.Node.nested with
  | text value =>
      intro order s html s' h
      cases h
      exact .nothing s
  | element name props cs ih =>
      intro order s html s' h
      have hrow : ∀ s inner s', exec (r.row (orders r.tagPrefix cs) cs) s = (.ok inner, s') →
          Adds (missingKeys r.components (rowLookups r.tagPrefix cs))
            ((r.rowCalls 0 (orders r.tagPrefix cs) cs s).filterMap Call.warning?) s s' :=
        fun s _ _ => adds_row ih 0 (orders r.tagPrefix cs) s
      rw [lookups]
      by_cases hname : name = fragmentName
      · subst hname
        rw [(node_fragment r order props cs s).1] at h
        rw [if_pos rfl, (node_fragment r order props cs s).2]
        exact hrow s html s' h
      · rw [if_neg hname, ← List.singleton_append, missingKeys_append]
        cases hget : r.components.get? (Tag.bare r.tagPrefix name) with
        | some component =>
            -- The element's own call comes after those of its children.
            rw [(node_found r order props cs s hname hget).1] at h
            obtain ⟨inner, s₁, hinner, hcall⟩ := exec_bind_eq_ok h
            have hfound : missingKeys r.components [.ofName r.tagPrefix name] = [] := by
              simp [missingKeys, Lookup.isMissing, Lookup.ofName, hget]
            let own : Call := { path := [], component := component,
                                context := r.contextOf order name, props := props, inner := inner }
            have hown : Adds [] ([own].filterMap Call.warning?) s₁ s' := .invoke hcall
            have hadds := (hrow s inner s₁ hinner).trans hown
            rw [List.append_nil] at hadds
            rw [(node_found r order props cs s hname hget).2, hinner, hfound,
              List.filterMap_append]
            exact hadds
        | none =>
            rw [(node_missing r order props cs s hname hget).1] at h
            rw [(node_missing r order props cs s hname hget).2]
            have hmissing : missingKeys r.components [.ofName r.tagPrefix name]
                = [Tag.bare r.tagPrefix name] := by
              simp [missingKeys, Lookup.isMissing, Lookup.ofName, hget]
            split at h
            · cases h
            · rename_i hneeded
              rw [if_neg hneeded, hmissing]
              exact (Adds.noteMissing s _).trans (hrow _ html s' h)

/-! ## Documents -/

/-- The keys that are missing in a document, each where it first occurs. -/
def absentKeys (r : Renderer) (document : Wire.Document) : List String :=
  (missingKeys r.components (lookups r.tagPrefix document.tree)).eraseDups

/-- The warnings for the calls that fail for want of an asset, in the order of the calls. -/
def placeholderWarnings (r : Renderer) (document : Wire.Document) : List Diagnostic :=
  (r.documentCalls document).filterMap Call.warning?

/-- A rendering that succeeds warns of each missing key once and of each call that failed. -/
theorem render_warnings {document : Wire.Document} {html : String}
    (h : (r.render document).html = .ok html) :
    Interleaved ((r.absentKeys document).map missingWarning) (r.placeholderWarnings document)
      (r.render document).diagnostics := by
  have hexec : exec (r.node .alone document.tree) {}
      = (.ok html, (exec (r.node .alone document.tree) {}).2) := Prod.ext h rfl
  obtain ⟨added, hadded, hmixed⟩ := (adds_node document.tree .alone {} html _ hexec).warnings
  have hdiagnostics : (r.render document).diagnostics = added := hadded
  rw [fresh_nil] at hmixed
  rw [hdiagnostics]
  exact hmixed

/-- How a rendering ends, exactly, where components fail for want of an asset only. It ends with the
first look-up of a component that is missing and needed, if there is one. Else it gives a page, with
one warning for each key that is missing, in the order in which they are first looked up, and one
for each call that failed. -/
theorem render_exact (r : Renderer) (document : Wire.Document)
    (hr : ∀ key component, r.components.get? key = some component → Recovers component) :
    (∀ cause, (r.render document).html ≠ .error (.asset cause))
      ∧ (∀ key, (r.render document).html = .error (.missingBuiltin key)
        ↔ ((lookups r.tagPrefix document.tree).find? (·.isFatal r.components)).map (·.key)
          = some key)
      ∧ ((∀ l ∈ lookups r.tagPrefix document.tree, l.isFatal r.components = false) →
        (∃ html, (r.render document).html = .ok html)
          ∧ Interleaved ((r.absentKeys document).map missingWarning)
            (r.placeholderWarnings document) (r.render document).diagnostics) := by
  obtain ⟨hfails, hsucceeds⟩ := render_outcome hr document
  cases hfind : (lookups r.tagPrefix document.tree).find? (·.isFatal r.components) with
  | some l =>
      have hhtml := hfails l hfind
      rw [hhtml]
      refine ⟨fun cause h => (nomatch h), fun key => ?_, fun hnone => ?_⟩
      · simp
      · have hfatal := List.find?_some hfind
        rw [hnone l (List.mem_of_find?_eq_some hfind)] at hfatal
        cases hfatal
  | none =>
      obtain ⟨⟨html, hhtml⟩, -⟩ := hsucceeds hfind
      have hwarnings := render_warnings hhtml
      rw [hhtml]
      refine ⟨fun cause h => (nomatch h), fun key => ?_, fun _ => ⟨⟨html, rfl⟩, hwarnings⟩⟩
      simp

/-- An image fails for want of an asset only. -/
theorem recovers_image : Recovers Component.image := by
  intro ctx props inner
  rw [Component.image]
  split
  · exact .inl ⟨_, rfl⟩
  · split
    · exact .inr ⟨_, rfl⟩
    · split
      · exact .inr ⟨_, rfl⟩
      · exact .inl ⟨_, rfl⟩

/-- A renderer that knows images and one tag. -/
def albumRenderer : Renderer :=
  { components := [("div", Component.passthrough), ("img", Component.image)] }

/-- A document with missing components inside each other, repeated, and around images that are not
registered. -/
def albumPage : Wire.Document :=
  { tree :=
      .element "html.div" []
        [ .element "Card" []
            [.element "Note" [] [.element "html.img" [("src", .ofNat 9)] []], .text "a"],
          .element "Fragment" []
            [.element "html.img" [("src", .ofNat 7)] [], .element "Note" [] []],
          .element "Card" [] [.element "Aside" [] []] ] }

theorem render_exact_album :
    (∀ key component, albumRenderer.components.get? key = some component → Recovers component)
      ∧ (∀ l ∈ lookups albumRenderer.tagPrefix albumPage.tree,
        l.isFatal albumRenderer.components = false)
      ∧ (∃ html, (albumRenderer.render albumPage).html = .ok html)
      ∧ Interleaved [missingWarning "Card", missingWarning "Note", missingWarning "Aside"]
        [placeholderWarning "img" (.notFound 9), placeholderWarning "img" (.notFound 7)]
        (albumRenderer.render albumPage).diagnostics := by
  have hcomponents : ∀ key component, albumRenderer.components.get? key = some component →
      Recovers component := by
    intro key component hget
    have hmem := Dict.mem_of_get? hget
    simp only [albumRenderer, List.mem_cons, Prod.mk.injEq, List.not_mem_nil, or_false] at hmem
    rcases hmem with ⟨-, rfl⟩ | ⟨-, rfl⟩
    · exact fun ctx props inner => .inl ⟨inner, rfl⟩
    · exact recovers_image
  have hcalm : ∀ l ∈ lookups albumRenderer.tagPrefix albumPage.tree,
      l.isFatal albumRenderer.components = false := by decide +kernel
  obtain ⟨hpage, hwarnings⟩ := (render_exact albumRenderer albumPage hcomponents).2.2 hcalm
  have hkeys : albumRenderer.absentKeys albumPage = ["Card", "Note", "Aside"] := by
    decide +kernel
  have hplaceholders : albumRenderer.placeholderWarnings albumPage
      = [placeholderWarning "img" (.notFound 9), placeholderWarning "img" (.notFound 7)] := by
    decide +kernel
  rw [hkeys, hplaceholders] at hwarnings
  exact ⟨hcomponents, hcalm, hpage, hwarnings⟩

end Renderer

end Mdx.Html
