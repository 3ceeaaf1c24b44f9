import Mdx.Pass.CodeMeta
import Mdx.Proofs.Convert.Content
import Mdx.Proofs.Text

/-!
# Folded annotations

When the annotation of code can be told from the code again after both were folded into one text. A
folded text is split at the first delimiter after its start, so an annotation is found whole if no
delimiter begins inside of it, and code without an annotation is left alone if it does not look like
a folded text. The main statement is `split_folded_iff`: for every document it says which of its
code is split as it was before the pass, and that a second pass changes nothing. `split_misreads`
has code of both kinds that is not.
-/

namespace Mdx

namespace Markdown.Node

/-- The text and the annotation of code. -/
def code? : Node → Option (String × Option String)
  | .code value _ info => some (value, info)
  | _ => none

/-- All code of a document, in document order. -/
def codes (document : Node) : List (String × Option String) :=
  document.all.filterMap code?

theorem withChildren_children (n : Node) : n.withChildren n.children = n := by
  cases n <;> rfl

end Markdown.Node

namespace CodeMeta

open Markdown (Node)

/-! ## Texts -/

/-- The annotation has no delimiter, and does not end as the delimiter begins. -/
def IsApart (info : String) : Prop :=
  ¬ delimiter.toList <:+: info.toList ∧ info.toList.getLast? ≠ some '@'

/-- What is needed of code to be told from a folded text, or to be found in one. -/
def IsRecoverable (value : String) : Option String → Prop
  | some info => IsApart info
  | none => ∀ info code, value ≠ fold info code

theorem delimiter_ne_nil : delimiter.toList ≠ [] := by
  decide

theorem toList_fold (info code : String) :
    (fold info code).toList
      = delimiter.toList ++ (info.toList ++ (delimiter.toList ++ code.toList)) := by
  simp [fold]

/-- The delimiter is not found before the end of an annotation exactly if it is neither inside of it
nor begins with its last character. -/
theorem isApart_iff {info : String} :
    IsApart info
      ↔ ∀ t, t <:+ info.toList → t ≠ [] → ¬ delimiter.toList <+: t ++ delimiter.toList := by
  have hchars : delimiter.toList = ['@', '@', '@'] := rfl
  rw [IsApart, hchars]
  constructor
  · rintro ⟨hinside, hlast⟩ t ⟨before, hinfo⟩ hne hstart
    have hlast : t.getLast? ≠ some '@' := by
      intro hat
      rw [← hinfo, List.getLast?_append, hat] at hlast
      exact hlast rfl
    match t, hne with
    | [c], _ =>
        obtain rfl : '@' = c := by simpa using hstart
        exact hlast rfl
    | [c, d], _ =>
        obtain ⟨-, rfl⟩ : '@' = c ∧ '@' = d := by simpa using hstart
        exact hlast rfl
    | c :: d :: e :: rest, _ =>
        refine hinside ⟨before, rest, ?_⟩
        obtain ⟨rfl, rfl, rfl⟩ : '@' = c ∧ '@' = d ∧ '@' = e := by simpa using hstart
        rw [← hinfo]
        simp
  · intro h
    refine ⟨?_, fun hlast => ?_⟩
    · rintro ⟨before, rest, hinfo⟩
      refine h (['@', '@', '@'] ++ rest) ⟨before, ?_⟩ (by simp) ⟨rest ++ ['@', '@', '@'], by simp⟩
      rw [← hinfo, List.append_assoc]
    · obtain ⟨before, hinfo⟩ := List.getLast?_eq_some_iff.mp hlast
      exact h ['@'] ⟨before, hinfo.symm⟩ (by simp) ⟨['@'], rfl⟩

/-- A folded text is split into its parts exactly if the annotation ends where it seems to. -/
theorem split_fold_iff (info code : String) :
    split (fold info code) = (some info, code) ↔ IsApart info := by
  rw [split, toList_fold, Text.after?_append, Option.bind_some, isApart_iff]
  constructor
  · intro hsplit
    cases hcut : Text.cut? delimiter.toList
        (info.toList ++ (delimiter.toList ++ code.toList)) with
    | none => simp [hcut] at hsplit
    | some parts =>
        rw [hcut] at hsplit
        obtain ⟨hinfo, -⟩ := Prod.mk.inj hsplit
        obtain ⟨-, hfirst⟩ := Text.cut?_eq_some delimiter_ne_nil hcut
        rwa [← Option.some.inj hinfo, String.toList_ofList]
  · intro hfirst
    rw [Text.cut?_append delimiter_ne_nil hfirst]
    simp

/-- A text is left whole exactly if it is not a folded text. -/
theorem split_eq_none_iff (value : String) :
    split value = (none, value) ↔ ∀ info code, value ≠ fold info code := by
  constructor
  · rintro hsplit info code rfl
    rw [split, toList_fold, Text.after?_append, Option.bind_some] at hsplit
    obtain ⟨parts, hparts⟩ := Text.exists_cut? (s := info.toList
      ++ (delimiter.toList ++ code.toList)) delimiter_ne_nil
      ⟨info.toList, code.toList, List.append_assoc _ _ _⟩
    rw [hparts] at hsplit
    cases (Prod.mk.inj hsplit).1
  · intro hnone
    rw [split]
    split
    · rename_i info code hparts
      obtain ⟨rest, hafter, hcut⟩ := Option.bind_eq_some_iff.mp hparts
      obtain ⟨hrest, -⟩ := Text.cut?_eq_some delimiter_ne_nil hcut
      refine absurd (String.toList_injective ?_) (hnone (String.ofList info) (String.ofList code))
      rw [Text.after?_eq_some hafter, hrest, toList_fold, String.toList_ofList,
        String.toList_ofList]
    · rfl

/-! ## Documents -/

/-- What the pass makes of code. -/
def folded : String × Option String → String × Option String
  | (value, some info) => (fold info value, none)
  | (value, none) => (value, none)

theorem split_folded (value : String) (info : Option String) :
    split (folded (value, info)).1 = (info, value) ↔ IsRecoverable value info := by
  cases info with
  | none => exact split_eq_none_iff value
  | some info => exact split_fold_iff info value

theorem foldRow_eq_map (cs : List Node) : foldRow cs = cs.map foldNode := by
  induction cs with
  | nil => rfl
  | cons n rest ih => rw [foldRow, ih, List.map_cons]

theorem children_foldNode (n : Node) : (foldNode n).children = n.children.map foldNode := by
  rw [← foldRow_eq_map]
  cases n with
  | code value lang info => cases info <;> rfl
  | _ => rfl

theorem code?_foldNode (n : Node) : (foldNode n).code? = n.code?.map folded := by
  cases n with
  | code value lang info => cases info <;> rfl
  | _ => rfl

theorem codes_foldNode (document : Node) :
    (foldNode document).codes = document.codes.map folded := by
  rw [Node.codes, Node.codes, Node.all_map children_foldNode, List.filterMap_map,
    List.map_filterMap]
  exact List.filterMap_congr fun n _ => code?_foldNode n

/-- Only code with an annotation is changed itself. -/
theorem foldNode_eq_withChildren {n : Node}
    (h : ∀ value lang info, n ≠ .code value lang (some info)) :
    foldNode n = n.withChildren (n.children.map foldNode) := by
  rw [← foldRow_eq_map]
  cases n with
  | code value lang info =>
      cases info with
      | none => rfl
      | some info => exact absurd rfl (h value lang info)
  | _ => rfl

/-- No annotation is left. -/
theorem foldNode_ne_code (n : Node) (value : String) (lang : Option String) (info : String) :
    foldNode n ≠ .code value lang (some info) := by
  intro hcode
  have hfolded := code?_foldNode n
  rw [hcode] at hfolded
  obtain ⟨⟨value, info⟩, -, hcode⟩ := Option.map_eq_some_iff.mp hfolded.symm
  cases info <;> cases hcode

theorem foldNode_foldNode (n : Node) : foldNode (foldNode n) = foldNode n := by
  induction n using Node.nested with
  | node n ih =>
      have hrow : (foldNode n).children.map foldNode = (foldNode n).children := by
        rw [children_foldNode, List.map_map]
        exact List.map_congr_left ih
      rw [foldNode_eq_withChildren (foldNode_ne_code n), hrow, Node.withChildren_children]

/-- What can be told from the code of a document after the pass. It runs without a fault and folds
all code in its place; an annotation and its code are found again exactly if the annotation is apart
from the delimiter, and code that had none is read as such exactly if it is not a folded text. A
second pass changes nothing. -/
theorem split_folded_iff (document : Node) :
    ∃ result, pass.run document = (result, none) ∧ pass.run result = (result, none)
      ∧ result.codes.length = document.codes.length
      ∧ ∀ (i : Nat) (value : String) (info : Option String),
        document.codes[i]? = some (value, info) →
          ∃ text, result.codes[i]? = some (text, none)
            ∧ (split text = (info, value) ↔ IsRecoverable value info) := by
  refine ⟨foldNode document, rfl, ?_, ?_, fun i value info hcode => ?_⟩
  · exact congrArg (·, none) (foldNode_foldNode document)
  · rw [codes_foldNode, List.length_map]
  · refine ⟨(folded (value, info)).1, ?_, split_folded value info⟩
    rw [codes_foldNode, List.getElem?_map, hcode]
    cases info <;> rfl

/-- Code whose annotations are empty or have a part of the delimiter, and code that begins with a
delimiter. -/
def annotatedCode : Node :=
  .root
    [ .code "x" none (some ""),
      .blockquote [.code "@@@y" (some "js") (some "@a@@b")],
      .footnoteDefinition "n" [.code "@@@z@@" none none] ]

theorem split_folded_iff_annotated :
    annotatedCode.codes = [("x", some ""), ("@@@y", some "@a@@b"), ("@@@z@@", none)]
      ∧ ∃ result, pass.run annotatedCode = (result, none) ∧ pass.run result = (result, none)
        ∧ ∀ (i : Nat) (value : String) (info : Option String),
          annotatedCode.codes[i]? = some (value, info) →
            ∃ text, result.codes[i]? = some (text, none) ∧ split text = (info, value) := by
  have hcodes : annotatedCode.codes
      = [("x", some ""), ("@@@y", some "@a@@b"), ("@@@z@@", none)] := by decide
  obtain ⟨result, hrun, hagain, -, hsplit⟩ := split_folded_iff annotatedCode
  refine ⟨hcodes, result, hrun, hagain, fun i value info hcode => ?_⟩
  obtain ⟨text, htext, hiff⟩ := hsplit i value info hcode
  refine ⟨text, htext, hiff.mpr ?_⟩
  rw [hcodes] at hcode
  have hmem := List.mem_of_getElem? hcode
  simp only [List.mem_cons, Prod.mk.injEq, List.not_mem_nil, or_false] at hmem
  rcases hmem with ⟨rfl, rfl⟩ | ⟨rfl, rfl⟩ | ⟨rfl, rfl⟩
  · exact ⟨by decide, by decide⟩
  · exact ⟨by decide, by decide⟩
  · exact (split_eq_none_iff _).mp (by decide)

/-- An annotation that ends as the delimiter begins, and code that looks like a folded text. -/
def misreadCode : Node :=
  .root [.code "x" none (some "a@"), .code "@@@a@@@b" none none]

theorem split_misreads :
    misreadCode.codes = [("x", some "a@"), ("@@@a@@@b", none)]
      ∧ (pass.run misreadCode).1.codes.map (fun code => split code.1)
        = [(some "a", "@x"), (some "a", "b")] := by
  decide

end CodeMeta

end Mdx
