import Mdx.Html.Element
import Mdx.Proofs.Text

/-!
# A scanner of HTML

Scans HTML into tags with attributes and texts, with the escapes undone. The scanner knows nothing of
documents or components; `scan_chars` says that it finds the tokens a text was written from.
-/

namespace Mdx.Html

open Text (after?)

/-- An attribute as it is written; a bare one has no value. -/
abbrev Attribute := String × Option String

/-- A tag or a text. -/
inductive Token where
  | opening (tag : String) (attributes : List Attribute)
  | closing (tag : String)
  | text (value : String)
  deriving DecidableEq

/-- A character of the name of a tag or an attribute: no white space, quote or mark. -/
def isNameChar (c : Char) : Bool :=
  !([' ', '\t', '\n', '\x0c', '\r', '"', '\x27', '<', '>', '/', '='].contains c)

/-- A name of a tag or an attribute. -/
def isName (name : String) : Bool :=
  !name.isEmpty && name.toList.all isNameChar

namespace Scanner

/-! ## Reading -/

/-- The escapes, each with the character it stands for. -/
def entities : List (String × Char) :=
  [("amp;", '&'), ("lt;", '<'), ("gt;", '>'), ("quot;", '"')]

/-- The character of an escape, given what follows the ampersand. -/
def entity? (s : List Char) : Option (Char × List Char) :=
  entities.findSome? fun (name, c) => (after? name.toList s).map fun rest => (c, rest)

/-- Undoes escapes; every ampersand has to begin one. -/
def unescape? : Nat → List Char → Option (List Char)
  | _, [] => some []
  | 0, _ => none
  | fuel + 1, c :: rest =>
    if c = '&' then
      match entity? rest with
      | some (c, rest) => (unescape? fuel rest).map (c :: ·)
      | none => none
    else (unescape? fuel rest).map (c :: ·)

/-- A text with its escapes undone. -/
def plain? (s : List Char) : Option String :=
  (unescape? s.length s).map String.ofList

/-- The name at the start of a text. -/
def name? (s : List Char) : Option (String × List Char) :=
  match s.takeWhile isNameChar with
  | [] => none
  | name => some (String.ofList name, s.dropWhile isNameChar)

/-- The value of an attribute, if there is one: it stands between quotes. -/
def value? (s : List Char) : Option (Option String × List Char) :=
  match after? "=\"".toList s with
  | none => some (none, s)
  | some rest =>
    match rest.dropWhile (· ≠ '"') with
    | '"' :: after => (plain? (rest.takeWhile (· ≠ '"'))).map fun value => (some value, after)
    | _ => none

/-- Attributes, each with a space before it, up to the end of the tag. -/
def attributes? : Nat → List Char → Option (List Attribute × List Char)
  | 0, _ => none
  | fuel + 1, s =>
    match s with
    | '>' :: rest => some ([], rest)
    | ' ' :: rest => do
      let (name, rest) ← name? rest
      let (value, rest) ← value? rest
      let (more, rest) ← attributes? fuel rest
      return ((name, value) :: more, rest)
    | _ => none

/-- A tag, given what follows the angle bracket. -/
def tag? (s : List Char) : Option (Token × List Char) :=
  match s with
  | '/' :: rest =>
    match name? rest with
    | some (tag, '>' :: rest) => some (.closing tag, rest)
    | _ => none
  | _ => do
    let (tag, rest) ← name? s
    let (attributes, rest) ← attributes? rest.length rest
    return (.opening tag attributes, rest)

/-- A tag, or the text up to the next one. -/
def token? (s : List Char) : Option (Token × List Char) :=
  match s with
  | '<' :: rest => tag? rest
  | _ => (plain? (s.takeWhile (· ≠ '<'))).map fun value => (.text value, s.dropWhile (· ≠ '<'))

/-- The tokens of a text. -/
def tokens? : Nat → List Char → Option (List Token)
  | _, [] => some []
  | 0, _ => none
  | fuel + 1, s => do
    let (token, rest) ← token? s
    let more ← tokens? fuel rest
    return token :: more

/-- Scans a text into tokens. -/
def scan (html : String) : Option (List Token) :=
  tokens? html.toList.length html.toList

end Scanner

/-! ## Printing -/

/-- The text of an attribute's value. -/
def valueChars : Option String → List Char
  | none => []
  | some value => "=\"".toList ++ (escapeAttribute value).toList ++ ['"']

/-- The text of an attribute, with a space before it. -/
def Attribute.chars (a : Attribute) : List Char :=
  ' ' :: (a.1.toList ++ valueChars a.2)

/-- The text of a token. -/
def Token.chars : Token → List Char
  | .opening tag attributes => '<' :: (tag.toList ++ attributes.flatMap Attribute.chars ++ ['>'])
  | .closing tag => "</".toList ++ tag.toList ++ ['>']
  | .text value => (escape value).toList

/-- A token whose names are names. -/
def Token.Named : Token → Prop
  | .opening tag attributes => isName tag = true ∧ ∀ a ∈ attributes, isName a.1 = true
  | .closing tag => isName tag = true
  | .text _ => True

/-- A tag. -/
def Token.isTag : Token → Bool
  | .text _ => false
  | _ => true

/-- Texts are not empty, and after a text comes a tag. -/
def Merged : List Token → Prop
  | [] => True
  | .text value :: rest => value ≠ "" ∧ rest.head?.all Token.isTag = true ∧ Merged rest
  | _ :: rest => Merged rest

namespace Scanner

open Text (after?_append takeWhile_stop)

/-! ## Escapes -/

/-- An escape writes a character by its name or as it is. Neither an ampersand nor the mark that ends
the text is written as it is. -/
def Escapes (mark : Char) (escape : Char → List Char) : Prop :=
  ∀ c, (∃ name, (name, c) ∈ entities ∧ escape c = '&' :: name.toList)
    ∨ (escape c = [c] ∧ c ≠ '&' ∧ c ≠ mark)

theorem escapes_escapeChar : Escapes '<' escapeChar := by
  intro c
  rw [escapeChar]
  split
  · exact .inl ⟨"amp;", by subst c; decide, rfl⟩
  split
  · exact .inl ⟨"lt;", by subst c; decide, rfl⟩
  split
  · exact .inl ⟨"gt;", by subst c; decide, rfl⟩
  · rename_i hamp hlt _
    exact .inr ⟨rfl, hamp, hlt⟩

theorem escapes_escapeAttributeChar : Escapes '"' escapeAttributeChar := by
  intro c
  rw [escapeAttributeChar]
  split
  · exact .inl ⟨"quot;", by subst c; decide, rfl⟩
  · rename_i hquote
    exact (escapes_escapeChar c).imp_right fun ⟨hplain, hamp, _⟩ => ⟨hplain, hamp, hquote⟩

theorem entity?_append {name : String} {c : Char} (h : (name, c) ∈ entities) (rest : List Char) :
    entity? (name.toList ++ rest) = some (c, rest) := by
  simp only [entities, List.mem_cons, Prod.mk.injEq, List.not_mem_nil, or_false] at h
  rcases h with ⟨rfl, rfl⟩ | ⟨rfl, rfl⟩ | ⟨rfl, rfl⟩ | ⟨rfl, rfl⟩ <;>
    simp [entity?, entities, after?]

section

variable {mark : Char} {escape : Char → List Char} (hescape : Escapes mark escape)
include hescape

theorem length_escape_pos (c : Char) : 0 < (escape c).length := by
  obtain ⟨name, -, hc⟩ | ⟨hc, -⟩ := hescape c <;> simp [hc]

/-- The mark does not show up where it would end the text. -/
theorem mark_notMem (hmark : ∀ e ∈ entities, mark ∉ '&' :: e.1.toList) (c : Char) :
    mark ∉ escape c := by
  obtain ⟨name, hname, hc⟩ | ⟨hc, -, hne⟩ := hescape c
  · rw [hc]
    exact hmark (name, c) hname
  · rw [hc, List.mem_singleton]
    exact hne.symm

theorem unescape?_append (c : Char) (fuel : Nat) (rest : List Char) :
    unescape? (fuel + 1) (escape c ++ rest) = (unescape? fuel rest).map (c :: ·) := by
  obtain ⟨name, hname, hc⟩ | ⟨hc, hamp, -⟩ := hescape c
  · rw [hc, List.cons_append, unescape?, if_pos rfl, entity?_append hname]
  · rw [hc, List.singleton_append, unescape?, if_neg hamp]

theorem unescape?_flatMap {s : List Char} {fuel : Nat} (hfuel : s.length ≤ fuel) :
    unescape? fuel (s.flatMap escape) = some s := by
  induction s generalizing fuel with
  | nil => cases fuel <;> rfl
  | cons c s ih =>
      obtain ⟨fuel, rfl⟩ : ∃ k, fuel = k + 1 := ⟨fuel - 1, by simp at hfuel; omega⟩
      rw [List.flatMap_cons, unescape?_append hescape, ih (by simpa using hfuel)]
      rfl

theorem plain?_flatMap (s : String) : plain? (s.toList.flatMap escape) = some s := by
  have hlength : s.toList.length ≤ (s.toList.flatMap escape).length := by
    generalize s.toList = cs
    induction cs with
    | nil => simp
    | cons c cs ih =>
        have hc := length_escape_pos hescape c
        rw [List.flatMap_cons, List.length_append, List.length_cons]
        omega
  rw [plain?, unescape?_flatMap hescape hlength, Option.map_some, String.ofList_toList]

end

theorem lt_notMem_escape (value : String) : '<' ∉ (escape value).toList := by
  rw [escape, String.toList_ofList, List.mem_flatMap]
  rintro ⟨c, -, hc⟩
  exact mark_notMem escapes_escapeChar (by decide) c hc

theorem quote_notMem_escape (value : String) : '"' ∉ (escapeAttribute value).toList := by
  rw [escapeAttribute, String.toList_ofList, List.mem_flatMap]
  rintro ⟨c, -, hc⟩
  exact mark_notMem escapes_escapeAttributeChar (by decide) c hc

/-! ## Tags -/

theorem isNameChar_of_isName {name : String} (h : isName name = true) :
    name.toList ≠ [] ∧ ∀ c ∈ name.toList, isNameChar c = true := by
  rw [isName, Bool.and_eq_true, List.all_eq_true] at h
  refine ⟨fun hnil => ?_, h.2⟩
  have hempty : name = "" := String.toList_inj.mp hnil
  simp [hempty] at h

/-- A name is read up to a character that is not part of names. -/
theorem name?_append {name : String} (h : isName name = true) {c : Char}
    (hc : isNameChar c = false) (rest : List Char) :
    name? (name.toList ++ c :: rest) = some (name, c :: rest) := by
  obtain ⟨hne, hname⟩ := isNameChar_of_isName h
  obtain ⟨htake, hdrop⟩ := takeWhile_stop hname hc rest
  rw [name?, htake, hdrop]
  split
  · contradiction
  · rw [String.ofList_toList]

/-- The text begins with a space or with the end of a tag. -/
def Parts (s : List Char) : Prop :=
  ∃ (c : Char) (rest : List Char), s = c :: rest ∧ (c = ' ' ∨ c = '>')

theorem value?_chars (value : Option String) {rest : List Char} (hrest : Parts rest) :
    value? (valueChars value ++ rest) = some (value, rest) := by
  cases value with
  | none =>
      obtain ⟨c, rest, rfl, rfl | rfl⟩ := hrest <;> simp [valueChars, value?, after?]
  | some value =>
      have hquote : ∀ c ∈ (escapeAttribute value).toList, decide (c ≠ '"') = true := by
        intro c hc
        exact decide_eq_true fun h => quote_notMem_escape value (h ▸ hc)
      have hstop : decide ('"' ≠ '"') = false := by decide
      obtain ⟨htake, hdrop⟩ := takeWhile_stop hquote hstop rest
      have hplain : plain? (escapeAttribute value).toList = some value := by
        rw [escapeAttribute, String.toList_ofList]
        exact plain?_flatMap escapes_escapeAttributeChar value
      rw [valueChars, List.append_assoc, List.append_assoc, value?, after?_append]
      simp only [List.cons_append, List.nil_append, htake, hdrop, hplain, Option.map_some]

theorem parts_attributes (attributes : List Attribute) (rest : List Char) :
    Parts (attributes.flatMap Attribute.chars ++ '>' :: rest) := by
  cases attributes with
  | nil => exact ⟨'>', rest, rfl, Or.inr rfl⟩
  | cons first more => exact ⟨' ', _, rfl, Or.inl rfl⟩

/-- What follows the name of an attribute is not part of it. -/
theorem name?_attribute {name : String} (h : isName name = true) (value : Option String)
    {rest : List Char} (hrest : Parts rest) :
    name? (name.toList ++ (valueChars value ++ rest)) = some (name, valueChars value ++ rest) := by
  cases value with
  | none =>
      obtain ⟨c, rest, rfl, rfl | rfl⟩ := hrest <;> exact name?_append h (by decide) rest
  | some value =>
      have hequals : valueChars (some value) ++ rest
          = '=' :: ('"' :: ((escapeAttribute value).toList ++ '"' :: rest)) := by
        simp [valueChars]
      rw [hequals]
      exact name?_append h (by decide) _

theorem attributes?_chars {attributes : List Attribute}
    (hnames : ∀ a ∈ attributes, isName a.1 = true) {fuel : Nat}
    (hfuel : attributes.length < fuel) (rest : List Char) :
    attributes? fuel (attributes.flatMap Attribute.chars ++ '>' :: rest)
      = some (attributes, rest) := by
  induction attributes generalizing fuel with
  | nil =>
      obtain ⟨fuel, rfl⟩ : ∃ k, fuel = k + 1 := ⟨fuel - 1, by simp at hfuel; omega⟩
      simp [attributes?]
  | cons first more ih =>
      obtain ⟨name, value⟩ := first
      obtain ⟨fuel, rfl⟩ : ∃ k, fuel = k + 1 := ⟨fuel - 1, by simp at hfuel; omega⟩
      have hparts := parts_attributes more rest
      have hname := name?_attribute (hnames (name, value) (by simp)) value hparts
      have hvalue := value?_chars value hparts
      have hmore := ih (fun a ha => hnames a (List.mem_cons_of_mem _ ha)) (by simpa using hfuel)
      have htext : ((name, value) :: more).flatMap Attribute.chars ++ '>' :: rest
          = ' ' :: (name.toList ++ (valueChars value
            ++ (more.flatMap Attribute.chars ++ '>' :: rest))) := by
        simp [Attribute.chars]
      rw [htext, attributes?]
      simp only [hname, hvalue, hmore, Option.bind_eq_bind, Option.bind_some, Option.pure_def]

/-! ## Tokens -/

theorem tag?_closing {tag : String} (h : isName tag = true) (rest : List Char) :
    tag? ('/' :: (tag.toList ++ '>' :: rest)) = some (.closing tag, rest) := by
  simp only [tag?, name?_append h (show isNameChar '>' = false by decide)]

theorem tag?_opening {tag : String} (htag : isName tag = true) {attributes : List Attribute}
    (hnames : ∀ a ∈ attributes, isName a.1 = true) (rest : List Char) :
    tag? (tag.toList ++ (attributes.flatMap Attribute.chars ++ '>' :: rest))
      = some (.opening tag attributes, rest) := by
  have hname : name? (tag.toList ++ (attributes.flatMap Attribute.chars ++ '>' :: rest))
      = some (tag, attributes.flatMap Attribute.chars ++ '>' :: rest) := by
    obtain ⟨c, more, hparts, rfl | rfl⟩ := parts_attributes attributes rest <;>
      exact hparts ▸ name?_append htag (by decide) more
  have hlength : attributes.length
      < (attributes.flatMap Attribute.chars ++ '>' :: rest).length := by
    have : attributes.length ≤ (attributes.flatMap Attribute.chars).length := by
      clear hnames hname
      induction attributes with
      | nil => simp
      | cons a more ih =>
          rw [List.flatMap_cons, List.length_append, List.length_cons, Attribute.chars,
            List.length_cons]
          omega
    rw [List.length_append, List.length_cons]
    omega
  have hattributes := attributes?_chars hnames hlength rest
  -- A name does not begin with a slash, so this is no closing tag.
  obtain ⟨hne, hchars⟩ := isNameChar_of_isName htag
  obtain ⟨c, cs, hcs⟩ := List.exists_cons_of_ne_nil hne
  have hslash : c ≠ '/' := by
    rintro rfl
    exact absurd (hchars '/' (by simp [hcs])) (by decide)
  rw [tag?.eq_def]
  split
  · rename_i hstart
    rw [hcs] at hstart
    exact absurd (List.cons.inj hstart).1 hslash
  · simp only [hname, hattributes, Option.bind_eq_bind, Option.bind_some, Option.pure_def]

theorem plain?_escape (value : String) : plain? (escape value).toList = some value := by
  rw [escape, String.toList_ofList]
  exact plain?_flatMap escapes_escapeChar value

theorem escape_ne_nil {value : String} (h : value ≠ "") : (escape value).toList ≠ [] := by
  intro hnil
  have hplain := plain?_escape value
  rw [hnil] at hplain
  exact h (Option.some.inj hplain).symm

/-- A text runs up to the next tag. -/
theorem token?_text {value : String} (hvalue : value ≠ "") {rest : List Char}
    (hrest : rest.head?.all (· = '<') = true) :
    token? ((escape value).toList ++ rest) = some (.text value, rest) := by
  have hlt : ∀ c ∈ (escape value).toList, decide (c ≠ '<') = true := by
    intro c hc
    exact decide_eq_true fun h => lt_notMem_escape value (h ▸ hc)
  -- No angle bracket is left in an escaped text, so it ends where the next tag begins.
  have hspan : ((escape value).toList ++ rest).takeWhile (· ≠ '<') = (escape value).toList
      ∧ ((escape value).toList ++ rest).dropWhile (· ≠ '<') = rest := by
    rw [List.takeWhile_append_of_pos hlt, List.dropWhile_append_of_pos hlt]
    cases rest with
    | nil => simp
    | cons c rest => simp_all
  have hplain := plain?_escape value
  obtain ⟨c, cs, hcs⟩ := List.exists_cons_of_ne_nil (escape_ne_nil hvalue)
  rw [token?.eq_def]
  split
  · rename_i hstart
    rw [hcs] at hstart
    exact absurd (hlt c (by simp [hcs])) (by simp [(List.cons.inj hstart).1])
  · simp only [hspan.1, hspan.2, hplain, Option.map_some]

/-- The text of tags begins with an angle bracket. -/
theorem head?_chars {ts : List Token} (h : ts.head?.all Token.isTag = true) :
    (ts.flatMap Token.chars).head?.all (· = '<') = true := by
  match ts, h with
  | [], _ => rfl
  | .opening tag attributes :: rest, _ => rfl
  | .closing tag :: rest, _ => rfl

/-- A token is read before tokens that do not continue it. -/
theorem token?_chars {t : Token} {ts : List Token} (ht : t.Named) (hts : Merged (t :: ts)) :
    token? (t.chars ++ ts.flatMap Token.chars) = some (t, ts.flatMap Token.chars) := by
  cases t with
  | opening tag attributes =>
      have h := tag?_opening ht.1 ht.2 (ts.flatMap Token.chars)
      simpa [Token.chars, token?] using h
  | closing tag =>
      have h := tag?_closing ht (ts.flatMap Token.chars)
      simpa [Token.chars, token?] using h
  | text value => exact token?_text hts.1 (head?_chars hts.2.1)

theorem merged_tail {t : Token} {ts : List Token} (h : Merged (t :: ts)) : Merged ts := by
  cases t with
  | opening | closing => exact h
  | text => exact h.2.2

theorem chars_ne_nil {t : Token} {ts : List Token} (h : Merged (t :: ts)) : t.chars ≠ [] := by
  cases t with
  | opening | closing => simp [Token.chars]
  | text value => exact escape_ne_nil h.1

theorem tokens?_chars {ts : List Token} (hnamed : ∀ t ∈ ts, t.Named) (hmerged : Merged ts)
    {fuel : Nat} (hfuel : ts.length ≤ fuel) :
    tokens? fuel (ts.flatMap Token.chars) = some ts := by
  induction ts generalizing fuel with
  | nil => cases fuel <;> rfl
  | cons t ts ih =>
      obtain ⟨fuel, rfl⟩ : ∃ k, fuel = k + 1 := ⟨fuel - 1, by simp at hfuel; omega⟩
      have htoken := token?_chars (hnamed t (by simp)) hmerged
      have hmore := ih (fun u hu => hnamed u (List.mem_cons_of_mem _ hu)) (merged_tail hmerged)
        (show ts.length ≤ fuel by simpa using hfuel)
      -- The scan stops only where nothing is left, which no token can look like.
      obtain ⟨c, cs, hcs⟩ := List.exists_cons_of_ne_nil (chars_ne_nil hmerged)
      rw [List.flatMap_cons]
      rw [hcs] at htoken ⊢
      simp only [List.cons_append] at htoken ⊢
      simp only [tokens?, htoken, hmore, Option.bind_eq_bind, Option.bind_some, Option.pure_def]

theorem length_le_chars {ts : List Token} (h : Merged ts) :
    ts.length ≤ (ts.flatMap Token.chars).length := by
  induction ts with
  | nil => simp
  | cons t ts ih =>
      have hchars : 0 < t.chars.length := List.length_pos_iff.mpr (chars_ne_nil h)
      have hmore := ih (merged_tail h)
      rw [List.flatMap_cons, List.length_append, List.length_cons]
      omega

/-- Tokens are scanned from the text they are written as. -/
theorem scan_chars {ts : List Token} (hnamed : ∀ t ∈ ts, t.Named) (hmerged : Merged ts) :
    scan (String.ofList (ts.flatMap Token.chars)) = some ts := by
  rw [scan, String.toList_ofList]
  exact tokens?_chars hnamed hmerged (length_le_chars hmerged)

end Scanner

end Mdx.Html
