import Mdx.Proofs.Html.Calls

/-!
# The outcome of a rendering

How a rendering ends, and which components it reports, told from the names in the document. Every
element but a fragment is looked up once, in document order (`lookups`); a rendering ends with the
first look-up that fails, and else reports the keys that were missing. Components may fail for want
of an asset, since that is recovered from.
-/

namespace Mdx.Html

/-! ## Look-ups -/

/-- A look-up of a component. -/
structure Lookup where
  key : String
  /-- The element cannot do without its component. -/
  needed : Bool
  deriving DecidableEq

namespace Lookup

/-- The look-up for an element name. -/
def ofName (mark name : String) : Lookup :=
  ⟨Tag.bare mark name, Renderer.needsComponent mark name⟩

/-- There is no component under the key. -/
def isMissing (components : Dict Component) (l : Lookup) : Bool :=
  (components.get? l.key).isNone

/-- The look-up ends the rendering. -/
def isFatal (components : Dict Component) (l : Lookup) : Bool :=
  l.isMissing components && l.needed

end Lookup

mutual

/-- The look-ups for a node, parents first. -/
def lookups (mark : String) : Wire.Node → List Lookup
  | .text _ => []
  | .element name _ cs =>
    if name = fragmentName then rowLookups mark cs else .ofName mark name :: rowLookups mark cs

/-- The look-ups for a row of nodes. -/
def rowLookups (mark : String) : List Wire.Node → List Lookup
  | [] => []
  | n :: rest => lookups mark n ++ rowLookups mark rest

end

namespace Renderer

/-- A component that returns a text, or fails for want of an asset. -/
def Recovers (component : Component) : Prop :=
  ∀ ctx props inner, (∃ html, component ctx props inner = .ok html)
    ∨ ∃ cause, component ctx props inner = .error (.asset cause)

/-- The keys that are reported are those that were warned about. -/
def State.Consistent (s : State) : Prop :=
  ∀ key, key ∈ s.reported ↔ missingWarning key ∈ s.diagnostics

/-- A computation does the look-ups: it ends with the first fatal one, and without one it succeeds
and reports the keys that were missing. -/
structure Performs {α : Type} (components : Dict Component) (ls : List Lookup) (m : RenderM α) :
    Prop where
  fails : ∀ s l, ls.find? (Lookup.isFatal components) = some l →
    (exec m s).1 = .error (.missingBuiltin l.key)
  succeeds : ∀ s, ls.find? (Lookup.isFatal components) = none → ∃ a, (exec m s).1 = .ok a
  reports : ∀ s, ls.find? (Lookup.isFatal components) = none → ∀ key,
    key ∈ (exec m s).2.reported
      ↔ key ∈ s.reported ∨ ∃ l ∈ ls, l.isMissing components = true ∧ l.key = key
  consistent : ∀ s, s.Consistent → (exec m s).2.Consistent

namespace Performs

variable {α β : Type} {components : Dict Component} {ls ms : List Lookup} {m : RenderM α}

theorem pure (a : α) : Performs components [] (Pure.pure a : RenderM α) :=
  { fails := fun s l h => by simp at h
    succeeds := fun s _ => ⟨a, rfl⟩
    reports := fun s _ key => by simp [exec_pure]
    consistent := fun s h => h }

theorem bind {f : α → RenderM β} (hm : Performs components ls m)
    (hf : ∀ a, Performs components ms (f a)) : Performs components (ls ++ ms) (m >>= f) := by
  have hok : ∀ s a, (exec m s).1 = .ok a → exec (m >>= f) s = exec (f a) (exec m s).2 :=
    fun s a h => exec_bind_of_ok (Prod.ext h rfl)
  refine ⟨fun s l hl => ?_, fun s hnone => ?_, fun s hnone key => ?_, fun s hs => ?_⟩
  · rw [List.find?_append] at hl
    cases hls : ls.find? (Lookup.isFatal components) with
    | some l' =>
        rw [hls, Option.some_or] at hl
        rw [exec_bind_of_error (Prod.ext (hm.fails s l' hls) rfl), Option.some.inj hl]
    | none =>
        rw [hls, Option.none_or] at hl
        obtain ⟨a, ha⟩ := hm.succeeds s hls
        rw [hok s a ha, (hf a).fails _ l hl]
  · rw [List.find?_append, Option.or_eq_none_iff] at hnone
    obtain ⟨a, ha⟩ := hm.succeeds s hnone.1
    rw [hok s a ha]
    exact (hf a).succeeds _ hnone.2
  · rw [List.find?_append, Option.or_eq_none_iff] at hnone
    obtain ⟨a, ha⟩ := hm.succeeds s hnone.1
    rw [hok s a ha, (hf a).reports _ hnone.2, hm.reports s hnone.1]
    simp only [List.mem_append, or_and_right, exists_or, or_assoc]
  · match hrun : exec m s with
    | (.ok a, s') =>
        have hs' := hm.consistent s hs
        rw [hrun] at hs'
        rw [exec_bind_of_ok hrun]
        exact (hf a).consistent s' hs'
    | (.error e, s') =>
        have hs' := hm.consistent s hs
        rw [hrun] at hs'
        rw [exec_bind_of_error hrun]
        exact hs'

/-- A computation that runs like another one does the same look-ups. -/
theorem congr {m' : RenderM α} (hm : Performs components ls m)
    (h : ∀ s, exec m' s = exec m s) : Performs components ls m' := by
  refine ⟨fun s => ?_, fun s => ?_, fun s => ?_, fun s => ?_⟩
  · rw [h]
    exact hm.fails s
  · rw [h]
    exact hm.succeeds s
  · rw [h]
    exact hm.reports s
  · rw [h]
    exact hm.consistent s

/-- A look-up that finds its component changes nothing. -/
theorem found {l : Lookup} (hl : l.isMissing components = false) (hm : Performs components ls m) :
    Performs components (l :: ls) m := by
  have hfatal : ¬ l.isFatal components = true := by simp [Lookup.isFatal, hl]
  refine ⟨fun s l' h => ?_, fun s h => ?_, fun s h key => ?_, hm.consistent⟩
  · rw [List.find?_cons_of_neg hfatal] at h
    exact hm.fails s l' h
  · rw [List.find?_cons_of_neg hfatal] at h
    exact hm.succeeds s h
  · rw [List.find?_cons_of_neg hfatal] at h
    rw [hm.reports s h]
    simp [hl]

/-- A fatal look-up is the last one. -/
theorem fatal {l : Lookup} (hl : l.isFatal components = true)
    (h : ∀ s, exec m s = (.error (.missingBuiltin l.key), s)) :
    Performs components (l :: ls) m := by
  refine ⟨fun s l' hl' => ?_, fun s hnone => ?_, fun s hnone => ?_, fun s hs => ?_⟩
  · rw [List.find?_cons_of_pos hl] at hl'
    rw [h, Option.some.inj hl']
  · rw [List.find?_cons_of_pos hl] at hnone
    cases hnone
  · rw [List.find?_cons_of_pos hl] at hnone
    cases hnone
  · rw [h]
    exact hs

theorem mem_noteMissing (s : State) (key other : String) :
    other ∈ (s.noteMissing key).reported ↔ other ∈ s.reported ∨ other = key := by
  rw [State.noteMissing]
  split
  · rename_i hreported
    have hmem : key ∈ s.reported := List.contains_iff_mem.mp hreported
    constructor
    · exact Or.inl
    · rintro (h | rfl)
      · exact h
      · exact hmem
  · rw [List.mem_cons, or_comm]

theorem missingWarning_inj {key other : String} (h : missingWarning key = missingWarning other) :
    key = other := by
  have hmessage := congrArg (fun d : Diagnostic => d.message.toList) h
  exact String.toList_inj.mp (by simpa [missingWarning, Diagnostic.warning] using hmessage)

theorem consistent_noteMissing {s : State} (hs : s.Consistent) (key : String) :
    (s.noteMissing key).Consistent := by
  intro other
  rw [mem_noteMissing, hs other, State.noteMissing]
  split
  · rename_i hreported
    have hmem := (hs key).mp (List.contains_iff_mem.mp hreported)
    constructor
    · rintro (h | rfl)
      · exact h
      · exact hmem
    · exact Or.inl
  · rw [List.mem_append, List.mem_singleton]
    exact or_congr_right ⟨fun h => by rw [h], missingWarning_inj⟩

/-- A look-up that is missing but not needed is noted. -/
theorem noted {m' : RenderM α} {l : Lookup} (hl : l.isMissing components = true)
    (hneeded : l.needed = false) (hm : Performs components ls m)
    (h : ∀ s, exec m' s = exec m (s.noteMissing l.key)) : Performs components (l :: ls) m' := by
  have hfatal : ¬ l.isFatal components = true := by simp [Lookup.isFatal, hneeded]
  refine ⟨fun s l' hl' => ?_, fun s hnone => ?_, fun s hnone key => ?_, fun s hs => ?_⟩
  · rw [List.find?_cons_of_neg hfatal] at hl'
    rw [h]
    exact hm.fails _ l' hl'
  · rw [List.find?_cons_of_neg hfatal] at hnone
    rw [h]
    exact hm.succeeds _ hnone
  · rw [List.find?_cons_of_neg hfatal] at hnone
    rw [h, hm.reports _ hnone, mem_noteMissing]
    simp only [List.mem_cons, exists_eq_or_imp, hl, true_and, or_assoc, eq_comm (a := key)]
  · rw [h]
    exact hm.consistent _ (consistent_noteMissing hs l.key)

/-- The message for a placeholder is none for a missing component. -/
theorem placeholder_ne_missing (text key : String) :
    Diagnostic.warning ("<" ++ text) ≠ missingWarning key := by
  intro h
  have hmessage := congrArg (fun d : Diagnostic => d.message.toList) h
  simp [missingWarning, Diagnostic.warning] at hmessage

/-- A component that recovers needs no further look-ups. -/
theorem invoke {component : Component} (h : Recovers component) (ctx : Context)
    (props : Dict Json) (inner : String) :
    Performs components [] (invoke component ctx props inner) := by
  rw [Renderer.invoke]
  rcases h ctx props inner with ⟨html, hok⟩ | ⟨cause, herror⟩
  · rw [hok]
    exact .pure html
  · rw [herror]
    refine ⟨fun s l hl => by simp at hl, fun s _ => ⟨_, rfl⟩, fun s _ key => ?_, fun s hs key => ?_⟩
    · show key ∈ s.reported ↔ _
      simp
    · show key ∈ s.reported ↔ missingWarning key ∈ s.diagnostics ++ [_]
      rw [hs key, List.mem_append, List.mem_singleton]
      constructor
      · exact Or.inl
      · rintro (h | h)
        · exact h
        · rw [String.append_assoc, String.append_assoc] at h
          exact absurd h.symm (placeholder_ne_missing _ key)

end Performs

variable {r : Renderer}

theorem performs_row {cs : List Wire.Node}
    (h : ∀ n ∈ cs, ∀ order, Performs r.components (lookups r.tagPrefix n) (r.node order n))
    (positions : List Order) :
    Performs r.components (rowLookups r.tagPrefix cs) (r.row positions cs) := by
  induction cs generalizing positions with
  | nil =>
      rw [row, rowLookups]
      exact .pure ""
  | cons n rest ih =>
      have hrest := ih (fun m hm => h m (List.mem_cons_of_mem _ hm)) positions.tail
      have hmore : ∀ here : String, Performs r.components (rowLookups r.tagPrefix rest)
          (do return here ++ (← r.row positions.tail rest)) := by
        intro here
        have hbind := hrest.bind fun more =>
          (show Performs r.components [] (pure (here ++ more)) from .pure _)
        rwa [List.append_nil] at hbind
      rw [row, rowLookups]
      exact (h n (by simp) _).bind hmore

/-- Rendering a node does the look-ups for its elements. -/
theorem performs_node
    (hr : ∀ key component, r.components.get? key = some component → Recovers component)
    (n : Wire.Node) :
    ∀ order, Performs r.components (lookups r.tagPrefix n) (r.node order n) := by
  induction n using Wire.Node.nested with
  | text value =>
      intro order
      rw [node, lookups]
      exact .pure _
  | element name props cs ih =>
      intro order
      have hrow := performs_row ih (orders r.tagPrefix cs)
      rw [lookups]
      by_cases hname : name = fragmentName
      · rw [if_pos hname, hname]
        exact hrow.congr fun s => (node_fragment r order props cs s).1
      · rw [if_neg hname]
        cases hget : r.components.get? (Tag.bare r.tagPrefix name) with
        | some component =>
            have hfound : (Lookup.ofName r.tagPrefix name).isMissing r.components = false := by
              simp [Lookup.isMissing, Lookup.ofName, hget]
            have hcall := hrow.bind fun inner =>
              Performs.invoke (hr _ component hget) (r.contextOf order name) props inner
            rw [List.append_nil] at hcall
            exact (hcall.congr fun s => (node_found r order props cs s hname hget).1).found hfound
        | none =>
            -- The rendering ends here, or the children are rendered after a note.
            have hmissing : (Lookup.ofName r.tagPrefix name).isMissing r.components = true := by
              simp [Lookup.isMissing, Lookup.ofName, hget]
            have hexec := fun s => (node_missing r order props cs s hname hget).1
            cases hneeded : needsComponent r.tagPrefix name with
            | true =>
                have hfatal : (Lookup.ofName r.tagPrefix name).isFatal r.components = true := by
                  rw [Lookup.isFatal, hmissing, Bool.true_and]
                  exact hneeded
                refine .fatal hfatal fun s => ?_
                rw [hexec, if_pos hneeded]
                rfl
            | false =>
                refine .noted hmissing hneeded hrow fun s => ?_
                rw [hexec, hneeded]
                rfl

/-- How rendering a document ends: with the first fatal look-up, or else with a page and a warning
for every key that is missing. -/
theorem render_outcome
    (hr : ∀ key component, r.components.get? key = some component → Recovers component)
    (document : Wire.Document) :
    (∀ l, (lookups r.tagPrefix document.tree).find? (Lookup.isFatal r.components) = some l →
        (r.render document).html = .error (.missingBuiltin l.key))
      ∧ ((lookups r.tagPrefix document.tree).find? (Lookup.isFatal r.components) = none →
        (∃ html, (r.render document).html = .ok html)
          ∧ ∀ key, missingWarning key ∈ (r.render document).diagnostics
            ↔ ∃ l ∈ lookups r.tagPrefix document.tree,
              l.isMissing r.components = true ∧ l.key = key) := by
  have hperforms := performs_node hr document.tree .alone
  have hempty : State.Consistent {} := fun key => by simp
  refine ⟨fun l hl => hperforms.fails {} l hl, fun hnone => ⟨hperforms.succeeds {} hnone, ?_⟩⟩
  intro key
  have hreports := hperforms.reports {} hnone key
  have hconsistent := hperforms.consistent {} hempty key
  rw [hconsistent] at hreports
  have hstart : key ∉ ({} : State).reported := by simp
  rw [or_iff_right hstart] at hreports
  exact hreports

end Renderer

end Mdx.Html
