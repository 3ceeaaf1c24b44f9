import Mdx.Html.Render
import Mdx.Proofs.Dict

/-!
# Components of nested scopes

Scopes of components are entered and left one at a time. What a name stands for is told by the moves
alone: the innermost scope that is still open and has the name gives the component, and the base is
open at all times. The look-up from the inside, the flat map of all scopes and a renderer over that
map agree with this at every point of a run (`run_resolves`).
-/

namespace Mdx.Html

/-! ## Maps of components -/

/-- It does not matter which of three scopes are merged first. -/
theorem mergeComponents_assoc {a b c : Dict Component} (ha : a.Sorted) (hb : b.Sorted)
    (hc : c.Sorted) :
    mergeComponents (mergeComponents a b) c = mergeComponents a (mergeComponents b c) := by
  refine ((ha.union b).union c).ext (ha.union _) fun name => ?_
  calc
    ((a.union b).union c).get? name
        = (c.get? name).or ((b.get? name).or (a.get? name)) := by
          rw [Dict.get?_union hc, Dict.get?_union hb]
    _ = ((c.get? name).or (b.get? name)).or (a.get? name) := Option.or_assoc.symm
    _ = (a.union (b.union c)).get? name := by
          rw [Dict.get?_union (hb.union c), Dict.get?_union hc]

/-- The flat map of scopes has under a name what the innermost scope with the name has. -/
theorem get?_foldl_mergeComponents {scopes : List (Dict Component)}
    (h : ∀ scope ∈ scopes, scope.Sorted) (name : String) :
    (scopes.reverse.foldl mergeComponents []).get? name
      = scopes.findSome? fun scope => scope.get? name := by
  induction scopes with
  | nil => rfl
  | cons scope outer ih =>
      obtain ⟨hscope, houter⟩ := List.forall_mem_cons.mp h
      rw [List.reverse_cons, List.foldl_append, List.foldl_cons, List.foldl_nil, mergeComponents,
        Dict.get?_union hscope, ih houter, List.findSome?_cons]
      cases scope.get? name <;> rfl

/-- Of maps that are put over a namespace one after another, the last that has the name counts. -/
theorem Renderer.get?_withOverrides {overrides : List (Dict Component)}
    (h : ∀ scope ∈ overrides, scope.Sorted) (r : Renderer) (name : String) :
    (overrides.foldl withOverrides r).components.get? name
      = (overrides.reverse.findSome? fun scope => scope.get? name).or
          (r.components.get? name) := by
  induction overrides generalizing r with
  | nil => rfl
  | cons scope rest ih =>
      obtain ⟨hscope, hrest⟩ := List.forall_mem_cons.mp h
      have hput : (r.withOverrides scope).components.get? name
          = (scope.get? name).or (r.components.get? name) := Dict.get?_union hscope _ name
      rw [List.foldl_cons, ih hrest, hput, List.reverse_cons, List.findSome?_append,
        Option.or_assoc]
      cases hget : scope.get? name <;> simp [hget]

namespace ComponentScopes

/-! ## Runs -/

/-- Entering or leaving a scope. -/
inductive Move where
  | enter (scope : Dict Component)
  | leave

def step (s : ComponentScopes) : Move → ComponentScopes
  | .enter scope => s.push scope
  | .leave => s.pop.2

def run (s : ComponentScopes) (moves : List Move) : ComponentScopes :=
  moves.foldl step s

/-- The scopes that are open after moves, innermost first. The moves are given from the last one
back, and `left` counts the scopes that are left after them. -/
def openScopes (left : Nat) : List Move → List (Dict Component)
  | [] => []
  | .leave :: earlier => openScopes (left + 1) earlier
  | .enter scope :: earlier =>
    match left with
    | 0 => scope :: openScopes 0 earlier
    | left + 1 => openScopes left earlier

/-- Every scope that is entered is left again, and no other one is. -/
inductive Balanced : List Move → Prop where
  | nil : Balanced []
  | scope (scope : Dict Component) {inside after : List Move} (hinside : Balanced inside)
      (hafter : Balanced after) : Balanced (.enter scope :: (inside ++ .leave :: after))

variable {s : ComponentScopes} {base : Dict Component} {moves : List Move}

theorem run_append (s : ComponentScopes) (moves more : List Move) :
    s.run (moves ++ more) = (s.run moves).run more :=
  List.foldl_append

theorem run_concat (s : ComponentScopes) (moves : List Move) (move : Move) :
    s.run (moves ++ [move]) = (s.run moves).step move :=
  run_append s moves [move]

@[simp] theorem base_step (s : ComponentScopes) (move : Move) : (s.step move).base = s.base := by
  cases move with
  | enter scope => rfl
  | leave =>
      obtain ⟨base, inner⟩ := s
      cases inner <;> rfl

@[simp] theorem base_run (s : ComponentScopes) (moves : List Move) :
    (s.run moves).base = s.base := by
  induction moves generalizing s with
  | nil => rfl
  | cons move rest ih => exact (ih (s.step move)).trans (base_step s move)

theorem inner_leave (s : ComponentScopes) : (s.step .leave).inner = s.inner.tail := by
  obtain ⟨base, inner⟩ := s
  cases inner <;> rfl

/-- The scopes inside the base are those that are open. -/
theorem drop_inner_run (base : Dict Component) (earlier : List Move) (left : Nat) :
    (run { base := base } earlier.reverse).inner.drop left = openScopes left earlier := by
  induction earlier generalizing left with
  | nil => exact List.drop_nil
  | cons move earlier ih =>
      rw [List.reverse_cons, run_concat]
      cases move with
      | leave => rw [inner_leave, List.drop_tail, ih, openScopes]
      | enter scope =>
          cases left with
          | zero => exact congrArg (scope :: ·) (ih 0)
          | succ left => exact ih left

theorem scopes_run (base : Dict Component) (moves : List Move) :
    (run { base := base } moves).scopes = openScopes 0 moves.reverse ++ [base] := by
  rw [scopes, base_run, ← drop_inner_run, List.reverse_reverse]
  rfl

theorem mem_openScopes {left : Nat} {scope : Dict Component} (h : scope ∈ openScopes left moves) :
    .enter scope ∈ moves := by
  induction moves generalizing left with
  | nil => cases h
  | cons move earlier ih =>
      cases move with
      | leave => exact List.mem_cons_of_mem _ (ih h)
      | enter other =>
          cases left with
          | zero =>
              rcases List.mem_cons.mp h with rfl | h
              · exact List.mem_cons_self
              · exact List.mem_cons_of_mem _ (ih h)
          | succ left => exact List.mem_cons_of_mem _ (ih h)

/-- Balanced moves change nothing. -/
theorem Balanced.run_eq (h : Balanced moves) (s : ComponentScopes) : s.run moves = s := by
  induction h generalizing s with
  | nil => rfl
  | @scope scope inside after _ _ ihinside ihafter =>
      calc
        s.run (.enter scope :: (inside ++ .leave :: after))
            = (((s.push scope).run inside).step .leave).run after :=
              run_append (s.push scope) inside (.leave :: after)
        _ = ((s.push scope).step .leave).run after := by rw [ihinside]
        _ = s := ihafter s

theorem length_inner_run (s : ComponentScopes) (moves : List Move) :
    (s.run moves).inner.length ≤ s.inner.length + moves.length := by
  induction moves generalizing s with
  | nil => exact Nat.le_refl _
  | cons move rest ih =>
      refine Nat.le_trans (ih (s.step move)) ?_
      rw [List.length_cons]
      cases move with
      | leave => rw [inner_leave, List.length_tail]; omega
      | enter scope =>
          show (scope :: s.inner).length + rest.length ≤ _
          rw [List.length_cons]
          omega

/-- Leaving often enough ends in the base alone. -/
theorem run_leaves (s : ComponentScopes) {k : Nat} (h : s.inner.length ≤ k) :
    s.run (List.replicate k .leave) = { base := s.base } := by
  induction k generalizing s with
  | zero =>
      obtain ⟨base, inner⟩ := s
      obtain rfl : inner = [] := List.eq_nil_of_length_eq_zero (Nat.le_zero.mp h)
      rfl
  | succ k ih =>
      have hlength : (s.step .leave).inner.length ≤ k := by
        rw [inner_leave, List.length_tail]
        omega
      have hrest := ih (s.step .leave) hlength
      rwa [base_step] at hrest

/-! ## Names -/

/-- The component is that of the innermost of the scopes that have the name. -/
def IsInnermost (scopes : List (Dict Component)) (name : String) (component : Component) : Prop :=
  ∃ inside scope outside, scopes = inside ++ scope :: outside
    ∧ (∀ d ∈ inside, d.get? name = none) ∧ scope.get? name = some component

theorem resolve?_eq_some (s : ComponentScopes) (name : String) (component : Component) :
    s.resolve? name = some component ↔ IsInnermost s.scopes name component := by
  rw [resolve?, List.findSome?_eq_some_iff]
  constructor
  · rintro ⟨inside, scope, outside, hscopes, hget, hnone⟩
    exact ⟨inside, scope, outside, hscopes, hnone, hget⟩
  · rintro ⟨inside, scope, outside, hscopes, hnone, hget⟩
    exact ⟨inside, scope, outside, hscopes, hget, hnone⟩

theorem sorted_scopes_run (hbase : base.Sorted)
    (hmoves : ∀ scope, .enter scope ∈ moves → scope.Sorted) :
    ∀ scope ∈ (run { base := base } moves).scopes, scope.Sorted := by
  rw [scopes_run]
  refine List.forall_mem_append.mpr ⟨fun scope hscope => hmoves scope ?_, by simpa using hbase⟩
  exact List.mem_reverse.mp (mem_openScopes hscope)

/-- Names in every run of scopes over a base. The flat map of all scopes has under a name what the
look-up finds, which is the component of the innermost open scope with the name. Leaving a scope
undoes entering it and all that is balanced in between. The base stays however often scopes are
left, and is all that is left in the end. A renderer over the scopes finds a name in the last map
put over it that has the name, and else where the scopes have it. -/
theorem run_resolves (hbase : base.Sorted)
    (hmoves : ∀ scope, .enter scope ∈ moves → scope.Sorted) (name : String) :
    (run { base := base } moves).merged.get? name = (run { base := base } moves).resolve? name
      ∧ (∀ component, (run { base := base } moves).resolve? name = some component
        ↔ IsInnermost (openScopes 0 moves.reverse ++ [base]) name component)
      ∧ (∀ (s : ComponentScopes) (scope : Dict Component) (inside : List Move), Balanced inside →
        ((s.push scope).run inside).pop = (some scope, s))
      ∧ (∀ k, ((run { base := base } moves).run (List.replicate k .leave)).scopes.getLast?
          = some base)
      ∧ (∀ k, moves.length ≤ k →
        ((run { base := base } moves).run (List.replicate k .leave)).pop.1.isNone = true
          ∧ ((run { base := base } moves).run (List.replicate k .leave)).resolve? name
            = base.get? name)
      ∧ (∀ overrides : List (Dict Component), (∀ scope ∈ overrides, scope.Sorted) →
        (overrides.foldl Renderer.withOverrides
            (.withScopes (run { base := base } moves))).components.get? name
          = (overrides.reverse.findSome? fun scope => scope.get? name).or
              ((run { base := base } moves).resolve? name))
      ∧ ∀ a b c : Dict Component, a.Sorted → b.Sorted → c.Sorted →
        mergeComponents (mergeComponents a b) c = mergeComponents a (mergeComponents b c) := by
  have hmerged : (run { base := base } moves).merged.get? name
      = (run { base := base } moves).resolve? name :=
    get?_foldl_mergeComponents (sorted_scopes_run hbase hmoves) name
  refine ⟨hmerged, fun component => ?_, fun s scope inside hinside => ?_, fun k => ?_,
    fun k hk => ?_, fun overrides hoverrides => ?_, fun a b c => mergeComponents_assoc⟩
  · rw [resolve?_eq_some, scopes_run]
  · rw [hinside.run_eq]
    rfl
  · rw [← run_append, scopes_run, List.getLast?_append]
    rfl
  · have hlength : (run { base := base } moves).inner.length ≤ k := by
      have hinner := length_inner_run { base := base } moves
      rw [List.length_nil] at hinner
      omega
    rw [run_leaves _ hlength, base_run]
    refine ⟨rfl, ?_⟩
    simp [resolve?, scopes]
  · rw [Renderer.get?_withOverrides hoverrides, ← hmerged]
    rfl

/-- Paragraphs are sections. -/
def sectioned : Dict Component := [("p", .html "section")]

/-- Paragraphs are blocks, and cards show what is in them. -/
def carded : Dict Component := [("Card", .passthrough), ("p", .html "div")]

/-- Scopes that are left before and after one that stays open. -/
def sectionMoves : List Move :=
  [.enter carded, .leave, .leave, .enter sectioned, .enter carded, .leave]

theorem run_resolves_sectioned :
    (defaultComponents.Sorted ∧ ∀ scope, .enter scope ∈ sectionMoves → scope.Sorted)
      ∧ IsInnermost [sectioned, defaultComponents] "p" (.html "section")
      ∧ (run { base := defaultComponents } sectionMoves).merged.get? "p" = some (.html "section")
      ∧ ((run { base := defaultComponents } sectionMoves).run
          (List.replicate 9 .leave)).resolve? "p" = defaultComponents.get? "p"
      ∧ ([carded, sectioned].foldl Renderer.withOverrides
          (.withScopes (run { base := defaultComponents } sectionMoves))).components.get? "Card"
        = some .passthrough := by
  have hbase : defaultComponents.Sorted := Dict.sorted_ofList _
  have hscopes : sectioned.Sorted ∧ carded.Sorted := by decide
  have hmoves : ∀ scope, .enter scope ∈ sectionMoves → scope.Sorted := by
    intro scope hscope
    simp only [sectionMoves, List.mem_cons, Move.enter.injEq, reduceCtorEq, List.not_mem_nil,
      or_false, false_or] at hscope
    rcases hscope with rfl | rfl | rfl
    · exact hscopes.2
    · exact hscopes.1
    · exact hscopes.2
  have hinnermost : IsInnermost [sectioned, defaultComponents] "p" (.html "section") :=
    ⟨[], sectioned, [defaultComponents], rfl, by simp, rfl⟩
  obtain ⟨hmerged, hresolve, -, -, hleft, -⟩ := run_resolves hbase hmoves "p"
  obtain ⟨-, -, -, -, -, hoverrides, -⟩ := run_resolves hbase hmoves "Card"
  refine ⟨⟨hbase, hmoves⟩, hinnermost, hmerged.trans ((hresolve _).mpr hinnermost),
    (hleft 9 (by decide)).2, ?_⟩
  rw [hoverrides [carded, sectioned] (by simp [hscopes])]
  rfl

end ComponentScopes

end Mdx.Html
