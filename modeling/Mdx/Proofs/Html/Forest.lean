import Mdx.Proofs.Html.Scanner

/-!
# Forests of elements

Tags that nest properly make a forest of texts and elements. `read?` finds the forest of a text;
what it finds for the text of a forest is the forest itself with adjacent texts joined, since
nothing separates them in the text (`read?_chars`).
-/

namespace Mdx.Html

/-- A text or an element of a page. -/
inductive Dom where
  | text (value : String)
  | element (tag : String) (attributes : List Attribute) (children : List Dom)

namespace Dom

/-- Induction over forests: an element may use what holds of its children. -/
@[elab_as_elim]
theorem forest {motive : List Dom → Prop} (nil : motive [])
    (text : ∀ value rest, motive rest → motive (.text value :: rest))
    (element : ∀ tag attributes cs rest, motive cs → motive rest →
      motive (.element tag attributes cs :: rest)) (f : List Dom) : motive f :=
  match f with
  | [] => nil
  | .text value :: rest => text value rest (forest nil text element rest)
  | .element tag attributes cs :: rest =>
      element tag attributes cs rest (forest nil text element cs) (forest nil text element rest)

mutual

/-- The tokens of a text or an element; a void tag is not closed. -/
def nodeTokens : Dom → List Token
  | .text value => [.text value]
  | .element tag attributes cs =>
    if voidTags.contains tag then [.opening tag attributes]
    else .opening tag attributes :: (tokens cs ++ [.closing tag])

/-- The tokens of a forest. -/
def tokens : List Dom → List Token
  | [] => []
  | d :: rest => nodeTokens d ++ tokens rest

end

/-- Puts a text before a forest, joined with the text that stands first in it. -/
def prepend (value : String) : List Dom → List Dom
  | .text first :: rest => .text (value ++ first) :: rest
  | row => if value = "" then row else .text value :: row

mutual

/-- Puts a text or an element before a forest whose adjacent texts are joined. -/
def joinBefore : Dom → List Dom → List Dom
  | .text value, row => prepend value row
  | .element tag attributes cs, row => .element tag attributes (joined cs) :: row

/-- The forest with adjacent texts joined and empty ones left out. -/
def joined : List Dom → List Dom
  | [] => []
  | d :: rest => joinBefore d (joined rest)

end

/-- The text of a forest. -/
def chars (f : List Dom) : List Char :=
  (tokens f).flatMap Token.chars

/-! ## Nesting -/

/-- Where reading stands: the elements that are open, innermost first, each with what stands before
it, and what has been read inside the innermost one. -/
structure Open where
  outer : List (String × List Attribute × List Dom)
  row : List Dom

/-- Reads a token; a closing tag has to be that of the innermost open element. -/
def step (s : Open) : Token → Option Open
  | .text value => some { s with row := s.row ++ [.text value] }
  | .opening tag attributes =>
    if voidTags.contains tag then some { s with row := s.row ++ [.element tag attributes []] }
    else some { outer := (tag, attributes, s.row) :: s.outer, row := [] }
  | .closing tag =>
    match s.outer with
    | [] => none
    | (start, attributes, before) :: outer =>
      if start = tag then
        some { outer := outer, row := before ++ [.element tag attributes s.row] }
      else none

/-- The forest of tokens, if all elements are closed at the end. -/
def nest (ts : List Token) : Option (List Dom) :=
  match ts.foldlM step ⟨[], []⟩ with
  | some ⟨[], row⟩ => some row
  | _ => none

/-- The forest of a text. -/
def read? (html : String) : Option (List Dom) :=
  (Scanner.scan html).bind nest

/-! ## Forests that can be written -/

mutual

/-- Names are names, and a void tag has no children. -/
def NodeProper : Dom → Prop
  | .text _ => True
  | .element tag attributes cs =>
    isName tag = true ∧ (∀ a ∈ attributes, isName a.1 = true)
      ∧ (voidTags.contains tag = true → cs = []) ∧ Proper cs

/-- All of a forest is proper. -/
def Proper : List Dom → Prop
  | [] => True
  | d :: rest => NodeProper d ∧ Proper rest

end

theorem tokens_element (tag : String) (attributes : List Attribute) (cs rest : List Dom) :
    tokens (.element tag attributes cs :: rest)
      = .opening tag attributes
        :: ((if voidTags.contains tag then [] else tokens cs ++ [.closing tag])
          ++ tokens rest) := by
  rw [tokens, nodeTokens]
  split <;> rfl

theorem named_tokens {f : List Dom} (h : Proper f) : ∀ t ∈ tokens f, t.Named := by
  induction f using forest with
  | nil => simp [tokens]
  | text value rest ih =>
      intro t ht
      rcases List.mem_cons.mp ht with rfl | ht
      · trivial
      · exact ih h.2 t ht
  | element tag attributes cs rest ihcs ihrest =>
      obtain ⟨⟨htag, hattributes, -, hcs⟩, hrest⟩ := h
      intro t ht
      rw [tokens_element, List.mem_cons, List.mem_append] at ht
      rcases ht with rfl | ht | ht
      · exact ⟨htag, hattributes⟩
      · split at ht
        · simp at ht
        · rcases List.mem_append.mp ht with ht | ht
          · exact ihcs hcs t ht
          · rw [List.mem_singleton.mp ht]
            exact htag
      · exact ihrest hrest t ht

/-- The tokens of a forest add the forest to what has been read. -/
theorem foldlM_tokens {f : List Dom} (h : Proper f) (s : Open) :
    (tokens f).foldlM step s = some { s with row := s.row ++ f } := by
  induction f using forest generalizing s with
  | nil => simp [tokens]
  | text value rest ih =>
      rw [tokens, nodeTokens, List.singleton_append, List.foldlM_cons, step]
      simp [ih h.2]
  | element tag attributes cs rest ihcs ihrest =>
      obtain ⟨⟨-, -, hvoid, hcs⟩, hrest⟩ := h
      rw [tokens_element, List.foldlM_cons, step]
      -- A void tag opens nothing, so nothing is there to close.
      by_cases hv : voidTags.contains tag = true
      · rw [if_pos hv, if_pos hv, hvoid hv]
        simp [ihrest hrest]
      · rw [if_neg hv, if_neg hv]
        simp [List.foldlM_append, ihcs hcs, ihrest hrest, step]

theorem nest_tokens {f : List Dom} (h : Proper f) : nest (tokens f) = some f := by
  rw [nest, foldlM_tokens h]
  rfl

/-! ## Joined texts -/

theorem chars_text (value : String) (rest : List Dom) :
    chars (.text value :: rest) = (escape value).toList ++ chars rest := by
  simp [chars, tokens, nodeTokens, Token.chars]

theorem chars_element (tag : String) (attributes : List Attribute) (cs rest : List Dom) :
    chars (.element tag attributes cs :: rest)
      = Token.chars (.opening tag attributes)
        ++ ((if voidTags.contains tag then [] else chars cs ++ Token.chars (.closing tag))
          ++ chars rest) := by
  rw [chars, tokens_element]
  split <;> simp [chars]

theorem escape_append (s t : String) : escape (s ++ t) = escape s ++ escape t := by
  simp [escape]

theorem chars_prepend (value : String) (f : List Dom) :
    chars (prepend value f) = (escape value).toList ++ chars f := by
  rw [prepend.eq_def]
  split
  · simp [chars_text, escape_append]
  · split
    · rename_i hempty
      simp [hempty, escape]
    · exact chars_text value f

/-- Joining texts does not change what is written. -/
theorem chars_joined (f : List Dom) : chars (joined f) = chars f := by
  induction f using forest with
  | nil => rfl
  | text value rest ih => rw [joined, joinBefore, chars_prepend, ih, chars_text]
  | element tag attributes cs rest ihcs ihrest =>
      rw [joined, joinBefore, chars_element, chars_element, ihcs, ihrest]

theorem proper_prepend (value : String) {f : List Dom} (h : Proper f) :
    Proper (prepend value f) := by
  rw [prepend.eq_def]
  split
  · exact h
  · split
    · exact h
    · exact ⟨trivial, h⟩

theorem proper_joined {f : List Dom} (h : Proper f) : Proper (joined f) := by
  induction f using forest with
  | nil => trivial
  | text value rest ih => exact proper_prepend value (ih h.2)
  | element tag attributes cs rest ihcs ihrest =>
      obtain ⟨⟨htag, hattributes, hvoid, hcs⟩, hrest⟩ := h
      refine ⟨⟨htag, hattributes, fun hv => ?_, ihcs hcs⟩, ihrest hrest⟩
      rw [hvoid hv]
      rfl

/-- Before a tag, a text put before a forest is a token of its own or joins the first one. -/
theorem merged_prepend (value : String) {f : List Dom} {ts : List Token}
    (hts : ts.head?.all Token.isTag = true) (h : Merged (tokens f ++ ts)) :
    Merged (tokens (prepend value f) ++ ts) := by
  rw [prepend.eq_def]
  split
  · obtain ⟨hne, hhead, hmore⟩ := h
    exact ⟨by simp [hne], hhead, hmore⟩
  · rename_i htext
    split
    · exact h
    · rename_i hne
      refine ⟨hne, ?_, h⟩
      match f, htext with
      | [], _ => exact hts
      | .text first :: rest, htext => exact absurd rfl (htext first rest)
      | .element tag attributes cs :: rest, _ =>
          show (tokens (.element tag attributes cs :: rest) ++ ts).head?.all Token.isTag = true
          rw [tokens_element]
          rfl

theorem merged_joined (f : List Dom) {ts : List Token} (hts : ts.head?.all Token.isTag = true)
    (h : Merged ts) : Merged (tokens (joined f) ++ ts) := by
  induction f using forest generalizing ts with
  | nil => exact h
  | text value rest ih => exact merged_prepend value hts (ih hts h)
  | element tag attributes cs rest ihcs ihrest =>
      have hrest := ihrest hts h
      rw [joined, joinBefore, tokens_element]
      split
      · exact hrest
      · -- The children are followed by the closing tag, which ends any text.
        have hclosing : Merged (.closing tag :: (tokens (joined rest) ++ ts)) := hrest
        simpa [Merged] using ihcs rfl hclosing

/-- A forest is read from its text, with adjacent texts joined. -/
theorem read?_chars {f : List Dom} (h : Proper f) :
    read? (String.ofList (chars f)) = some (joined f) := by
  have hproper := proper_joined h
  have hmerged : Merged (tokens (joined f)) := by
    have hnothing : ([] : List Token).head?.all Token.isTag = true := rfl
    simpa using merged_joined f hnothing trivial
  rw [read?, ← chars_joined, chars, Scanner.scan_chars (named_tokens hproper) hmerged,
    Option.bind_some, nest_tokens hproper]

end Dom

end Mdx.Html
