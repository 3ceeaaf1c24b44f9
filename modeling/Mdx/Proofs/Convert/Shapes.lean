import Mdx.Convert.Document

/-!
# Views of arranged trees

Conversion arranges the trees that it has made: it puts line feeds between them and boxes and links
into them, takes paragraphs of tight lists apart, and puts lists and tables around them. A view of
rows of trees is `Transparent` if it sees neither the blanks nor the elements that do this. It then
sees the same in every shape as in what was arranged, and there is one law for each shape.
-/

namespace Mdx.Convert

/-- The elements that content is arranged by. -/
def arranging : List String :=
  ["p", "input", "li", "ol", "ul", "table", "thead", "tbody"]

/-- What a view sees does not depend on how content is arranged. -/
structure Transparent {α : Type} (view : List Tree → List α) : Prop where
  append : ∀ ts us, view (ts ++ us) = view ts ++ view us
  newline : view [newline] = []
  space : view [.text " "] = []
  element : ∀ name ∈ arranging, ∀ props ts, view [.element name props ts] = view ts

namespace Transparent

variable {α : Type} {view : List Tree → List α} (h : Transparent view)
include h

theorem nil : view [] = [] := by
  have htwice := h.append [] []
  rwa [List.append_nil, List.self_eq_append_left] at htwice

theorem cons (t : Tree) (ts : List Tree) : view (t :: ts) = view [t] ++ view ts :=
  h.append [t] ts

theorem newline_cons (ts : List Tree) : view (Convert.newline :: ts) = view ts := by
  rw [h.cons, h.newline, List.nil_append]

theorem newline_if (b : Bool) : view (if b then [Convert.newline] else []) = [] := by
  cases b
  · exact h.nil
  · exact h.newline

theorem joinLines (ts : List Tree) : view (joinLines ts) = view ts := by
  induction ts with
  | nil => rfl
  | cons t ts ih =>
      cases ts with
      | nil => rfl
      | cons u us =>
          rw [Convert.joinLines, h.cons, h.newline_cons, ih, ← h.cons]
          simp

theorem onLines (ts : List Tree) : view (onLines ts) = view ts := by
  rw [Convert.onLines, h.newline_cons, h.append, h.joinLines]
  split
  · rw [h.nil, List.append_nil]
  · rw [h.newline, List.append_nil]

/-! ## Lists -/

/-- The box of a task is not seen, with the blank after it. -/
theorem checkbox (checked : Bool) (children : List Tree) :
    view (checkbox checked :: (if children.isEmpty then [] else .text " " :: children))
      = view children := by
  have hbox : view [Convert.checkbox checked] = [] :=
    (h.element "input" (by decide) _ []).trans h.nil
  rw [h.cons, hbox, List.nil_append]
  cases children with
  | nil => rfl
  | cons t ts => exact (h.cons _ _).trans (by rw [h.space, List.nil_append])

theorem addCheckbox (checked : Bool) (ts : List Tree) :
    view (addCheckbox checked ts) = view ts := by
  have hp := h.element "p" (by decide)
  rw [Convert.addCheckbox.eq_def]
  split
  · -- The box goes into the paragraph that stands first, else into a new one.
    rename_i props children rest
    rw [h.cons, hp, h.checkbox, h.cons (.element "p" props children), hp]
  · rw [h.cons, Tree.plain, hp, h.checkbox checked [], h.nil, List.nil_append]

/-- In a tight list a paragraph is replaced by what it holds. -/
theorem unwrapped (loose : Bool) (name : String) (props : List (String × PropValue))
    (children : List Tree) :
    view (if name == "p" && !loose then children else [.element name props children])
      = view [.element name props children] := by
  split
  · rename_i hparagraph
    simp only [Bool.and_eq_true, beq_iff_eq] at hparagraph
    obtain ⟨rfl, -⟩ := hparagraph
    exact (h.element "p" (by decide) props children).symm
  · rfl

theorem itemContent (loose : Bool) (ts : List Tree) :
    ∀ first : Bool, view (itemContent loose first ts) = view ts := by
  induction ts with
  | nil => exact fun _ => rfl
  | cons t ts ih =>
      intro first
      have hitem : ∀ body : List Tree, view body = view [t] → ∀ b : Bool,
          view ((if b then [Convert.newline] else []) ++ body
            ++ Convert.itemContent loose false ts) = view (t :: ts) := by
        intro body hbody b
        rw [h.append, h.append, h.newline_if, hbody, ih, h.cons t ts, List.nil_append]
      cases t with
      | element name props children => exact hitem _ (h.unwrapped loose name props children) _
      | text value => exact hitem [.text value] rfl _
      | fragment children => exact hitem [.fragment children] rfl _

theorem listItem (loose : Bool) (checked : Option Bool) (ts : List Tree) :
    view [listItem loose checked ts] = view ts := by
  have hli := h.element "li" (by decide)
  have hplain : ∀ content : List Tree,
      view [Convert.listItem loose none content] = view content := by
    intro content
    refine (hli _ _).trans ?_
    rw [h.append, h.itemContent]
    cases content.getLast? with
    | none => exact (congrArg _ h.nil).trans (List.append_nil _)
    | some last => exact (congrArg _ (h.newline_if _)).trans (List.append_nil _)
  cases checked with
  | none => exact hplain ts
  | some checked =>
      -- A task differs from an item with the box as content in its props alone.
      have hprops : view [Convert.listItem loose (some checked) ts]
          = view [Convert.listItem loose none (Convert.addCheckbox checked ts)] :=
        (hli _ _).trans (hli _ _).symm
      rw [hprops, hplain, h.addCheckbox]

theorem list (ordered : Bool) (start : Option Nat) (hasTask : Bool) (ts : List Tree) :
    view [list ordered start hasTask ts] = view ts := by
  have hname : (if ordered then "ol" else "ul") ∈ arranging := by cases ordered <;> decide
  exact (h.element _ hname _ _).trans (h.onLines ts)

/-! ## Tables and notes -/

theorem table (ts : List Tree) : view [table ts] = view ts := by
  have hpart : ∀ name ∈ arranging, ∀ us : List Tree,
      view [.plain name (Convert.onLines us)] = view us :=
    fun name hname us => (h.element name hname [] _).trans (h.onLines us)
  refine (hpart "table" (by decide) _).trans ?_
  match ts with
  | [] => rfl
  | [row] => exact hpart "thead" (by decide) [row]
  | row :: second :: more =>
      refine (h.append _ _).trans ?_
      rw [hpart "thead" (by decide), hpart "tbody" (by decide), ← h.append]
      rfl

theorem addBackLink (back : Tree) (ts : List Tree) :
    view (addBackLink back ts) = view ts ++ view [back] := by
  have hp := h.element "p" (by decide)
  fun_induction Convert.addBackLink back ts with
  | case1 => rw [h.nil, List.nil_append]
  | case2 props children =>
      rw [hp, hp, h.append, h.cons (.text " "), h.space, List.nil_append]
  | case3 t => exact h.cons t [back]
  | case4 t ts _ _ ih => rw [h.cons, ih, h.cons t ts, List.append_assoc]

theorem footnoteItem (id : String) (position : Nat) (ts : List Tree) :
    view [footnoteItem id position ts] = view ts ++ view [backLink id position] := by
  refine (h.element "li" (by decide) _ _).trans ?_
  rw [h.onLines, h.addBackLink]

end Transparent

end Mdx.Convert
