import Mdx.Module.Text
import Mdx.Proofs.Json.Depth
import Mdx.Proofs.Module.Reader
import Mdx.Proofs.Text
import Mdx.Wire.Lower

/-!
# Reading generated modules back

What the reader of element expressions makes of the text of a generated module. Every part of a
call is read back with any text after it, so nothing inside a literal can reach past its end.
-/

namespace Mdx

/-- A value whose literal its text keeps. -/
def PropValue.Exact : PropValue → Prop
  | .literal v => v.Exact
  | .expression _ | .localAsset _ => True

/-- The value as it is read: the source of an expression is a string. -/
def PropValue.asRead : PropValue → PropValue
  | .literal v => .literal v
  | .expression source => .literal (.str source)
  | .localAsset path => .localAsset path

namespace Module

open Text (after? after?_append takeWhile_stop mem_splitAt)

/-! ## Parts of calls -/

/-- The text is a name by itself. -/
def isIdentifier (s : List Char) : Bool :=
  leadingName? s == some (String.ofList s)

/-- The text is made of names with dots between them. -/
def isDotted (name : String) : Bool :=
  (Text.splitAt (· = '.') name.toList).all isIdentifier

theorem propChars_literal (v : Json) : propChars (.literal v) = v.chars := rfl

theorem propChars_expression (source : String) :
    propChars (.expression source) = Json.quote source := rfl

theorem propChars_localAsset (path : String) :
    propChars (.localAsset path) = "require(".toList ++ Json.quote path ++ [')'] := rfl

theorem Reference.chars_builtin (key : String) :
    Reference.chars (.builtin key)
      = "_builtinComponent(components, ".toList ++ Json.quote key ++ [')'] := rfl

theorem Reference.chars_custom (key : String) :
    Reference.chars (.custom key)
      = "_customComponent(components, ".toList ++ Json.quote key ++ [')'] := rfl

namespace Reader

theorem string?_quote (s : String) (rest : List Char) :
    string? (Json.quote s ++ rest) = some (s, rest) := by
  simp [Json.quote_append, string?, Json.string?_quoted]

/-- Only a string literal begins with a quote. -/
theorem string?_cons {c : Char} (h : c ≠ '"') (s : List Char) : string? (c :: s) = none := by
  rw [string?.eq_def]
  split <;> simp_all

theorem literal?_chars {v : Json} (hv : v.Exact) {rest : List Char}
    (hrest : Json.Number.Ends rest) : literal? (v.chars ++ rest) = some (v, rest) := by
  have hread := Json.reads v hv.1 (v.chars ++ rest).length (by simp) rest hrest
  -- A text is longer than its value is deep, so the bound on the depth is never met.
  have hdepth : v.depth ≤ (v.chars ++ rest).length := by
    have := Json.depth_le_length hv.1
    rw [List.length_append]
    omega
  rw [literal?, hread]
  simp only [Json.value?_ofJson, if_pos hdepth, Json.canonical_eq hv.2, Option.map_some]

/-- No literal begins like a file to be loaded. -/
theorem after?_require {v : Json} (hv : v.Integral) (rest : List Char) :
    after? "require(".toList (v.chars ++ rest) = none := by
  cases v with
  | null => simp [Json.chars, after?]
  | bool b => cases b <;> simp [Json.chars, after?]
  | str s => simp [Json.chars, Json.quote, after?]
  | arr items => simp [Json.chars, after?]
  | obj fields => simp [Json.chars, after?]
  | num n =>
      obtain ⟨c, more, hchars, hc⟩ := Json.Number.chars_head ((Json.integral_num n).mp hv)
      have hne : 'r' ≠ c := by
        rintro rfl
        rcases hc with hc | hc <;> exact absurd hc (by decide)
      simp [Json.chars, hchars, after?, hne]

theorem value?_propChars {v : PropValue} (hv : v.Exact) {rest : List Char}
    (hrest : Json.Number.Ends rest) :
    value? (propChars v ++ rest) = some (v.asRead, rest) := by
  cases v with
  | literal v =>
      have hliteral := literal?_chars hv hrest
      have hrequire := after?_require hv.1 rest
      simp only [propChars_literal, value?, hrequire, hliteral, Option.map_some, PropValue.asRead]
  | expression source =>
      have hsource : Json.Exact (.str source) :=
        ⟨Json.integral_str source, by simp [Json.Ordered, Json.Everywhere]⟩
      have hliteral := literal?_chars hsource hrest
      have hrequire := after?_require hsource.1 rest
      rw [Json.chars] at hliteral hrequire
      simp only [propChars_expression, value?, hrequire, hliteral, Option.map_some,
        PropValue.asRead]
  | localAsset path =>
      simp only [propChars_localAsset, List.append_assoc, value?, after?_append, string?_quote,
        List.cons_append, List.nil_append, PropValue.asRead]

/-! ### References -/

theorem isNameChar_of_identifier {s : List Char} (h : isIdentifier s = true) :
    s ≠ [] ∧ ∀ c ∈ s, isNameChar c = true := by
  rw [isIdentifier, beq_iff_eq, leadingName?] at h
  have hleading : s.takeWhile isNameChar = s ∧ s ≠ [] := by
    split at h
    · simp at h
    · rename_i c cs hname
      split at h
      · have hs : c :: cs = s := by
          simpa only [String.toList_ofList] using congrArg String.toList (Option.some.inj h)
        exact ⟨by rw [hname, hs], by rw [← hs]; simp⟩
      · simp at h
  refine ⟨hleading.2, fun c hc => ?_⟩
  have hall : (s.takeWhile isNameChar).all isNameChar = true := List.all_takeWhile
  rw [hleading.1, List.all_eq_true] at hall
  exact hall c hc

theorem isDottedChar_of_dotted {name : String} (h : isDotted name = true) :
    name.toList ≠ [] ∧ ∀ c ∈ name.toList, isDottedChar c = true := by
  rw [isDotted, List.all_eq_true] at h
  constructor
  · intro hnil
    have hempty := h [] (by simp [hnil, Text.splitAt])
    exact (isNameChar_of_identifier hempty).1 rfl
  · intro c hc
    rcases mem_splitAt (p := (· = '.')) hc with hdot | ⟨piece, hpiece, hmem⟩
    · simp [isDottedChar, hdot]
    · simp [isDottedChar, (isNameChar_of_identifier (h piece hpiece)).2 c hmem]

theorem isDottedChar_builtin : ∀ c ∈ "_builtinComponent".toList, isDottedChar c = true :=
  List.all_eq_true.mp (by decide)

theorem isDottedChar_custom : ∀ c ∈ "_customComponent".toList, isDottedChar c = true :=
  List.all_eq_true.mp (by decide)

theorem isDottedChar_fragment : ∀ c ∈ "_Fragment".toList, isDottedChar c = true :=
  List.all_eq_true.mp (by decide)

theorem reference?_lookup {name : List Char} (hname : ∀ c ∈ name, isDottedChar c = true)
    (key : String) (rest : List Char) :
    reference? (name ++ "(components, ".toList ++ Json.quote key ++ ')' :: rest)
      = if name = "_builtinComponent".toList then some (.builtin key, rest)
        else if name = "_customComponent".toList then some (.custom key, rest)
        else none := by
  have hsplit : name ++ "(components, ".toList ++ Json.quote key ++ ')' :: rest
      = name ++ '(' :: ("components, ".toList ++ (Json.quote key ++ ')' :: rest)) := by
    simp
  have hstop := takeWhile_stop hname (show isDottedChar '(' = false by decide)
    ("components, ".toList ++ (Json.quote key ++ ')' :: rest))
  have hlead : '(' :: ("components, ".toList ++ (Json.quote key ++ ')' :: rest))
      = "(components, ".toList ++ (Json.quote key ++ ')' :: rest) := by
    simp
  rw [hsplit, reference?, hstop.1, hstop.2, hlead, after?_append]
  simp only [string?_quote]

theorem reference?_name {name : List Char} (hname : ∀ c ∈ name, isDottedChar c = true)
    (hne : name ≠ []) (rest : List Char) :
    reference? (name ++ ',' :: rest) = some (.bound (String.ofList name), ',' :: rest) := by
  have hstop := takeWhile_stop hname (show isDottedChar ',' = false by decide) rest
  have hlookup : after? "(components, ".toList (',' :: rest) = none := by simp [after?]
  rw [reference?, hstop.1, hstop.2, hlookup]
  simp [hne]

end Reader

/-- A reference the reader can tell: a bound name is made of names and dots. -/
def Reference.Named : Reference → Prop
  | .bound name => isDotted name = true
  | .builtin _ | .custom _ | .fragment => True

/-- The reference as it is written: a fragment is a name like any other. -/
def Reference.asWritten : Reference → Reference
  | .fragment => .bound "_Fragment"
  | r => r

/-- A reference is read before the object that follows it. -/
theorem Reader.reference?_chars {r : Reference} (hr : r.Named) (rest : List Char) :
    reference? (r.chars ++ (", \x7b".toList ++ rest))
      = some (r.asWritten, ", \x7b".toList ++ rest) := by
  have hopen : ", \x7b".toList ++ rest = ',' :: (" \x7b".toList ++ rest) := by simp
  rw [hopen]
  generalize " \x7b".toList ++ rest = rest
  cases r with
  | builtin key =>
      have h := reference?_lookup isDottedChar_builtin key (',' :: rest)
      rw [if_pos rfl] at h
      simpa [Reference.chars_builtin, Reference.asWritten] using h
  | custom key =>
      have h := reference?_lookup isDottedChar_custom key (',' :: rest)
      rw [if_neg (by decide), if_pos rfl] at h
      simpa [Reference.chars_custom, Reference.asWritten] using h
  | bound name =>
      obtain ⟨hne, hname⟩ := isDottedChar_of_dotted hr
      have h := reference?_name hname hne rest
      rw [String.ofList_toList] at h
      exact h
  | fragment => exact reference?_name isDottedChar_fragment (by decide) rest

/-! ### Props -/

/-- The entries of props, each with a comma after it. -/
def propsChars (props : List (String × PropValue)) : List Char :=
  props.flatMap fun (key, value) => entry (Json.quote key) (propChars value) ++ [',', ' ']

/-- The props as they are read. -/
def propsAsRead (props : List (String × PropValue)) : List (String × PropValue) :=
  props.map fun (key, value) => (key, value.asRead)

namespace Reader

theorem props?_chars {props : List (String × PropValue)} (hprops : ∀ p ∈ props, p.2.Exact)
    {fuel : Nat} (hfuel : props.length < fuel) {rest : List Char} (hrest : string? rest = none) :
    props? fuel (propsChars props ++ rest) = some (propsAsRead props, rest) := by
  induction props generalizing fuel with
  | nil =>
      obtain ⟨fuel, rfl⟩ : ∃ k, fuel = k + 1 := ⟨fuel - 1, by simp at hfuel; omega⟩
      simp [propsChars, props?, hrest, propsAsRead]
  | cons prop more ih =>
      obtain ⟨key, value⟩ := prop
      obtain ⟨fuel, rfl⟩ : ∃ k, fuel = k + 1 := ⟨fuel - 1, by simp at hfuel; omega⟩
      have hcomma : ", ".toList ++ (propsChars more ++ rest)
          = ',' :: ' ' :: (propsChars more ++ rest) := by simp
      have hvalue : value? (propChars value ++ (", ".toList ++ (propsChars more ++ rest)))
          = some (value.asRead, ", ".toList ++ (propsChars more ++ rest)) := by
        rw [hcomma]
        exact value?_propChars (hprops (key, value) (by simp))
          (Json.ends_of_separator (Or.inl rfl) _)
      have hmore := ih (fun p hp => hprops p (List.mem_cons_of_mem _ hp)) (by simpa using hfuel)
      have htext : propsChars ((key, value) :: more) ++ rest
          = Json.quote key ++ (": ".toList ++ (propChars value
            ++ (", ".toList ++ (propsChars more ++ rest)))) := by
        simp [propsChars, entry]
      simp only [htext, props?, string?_quote, after?_append, hvalue, hmore, Option.map_some]
      rfl

/-! ### Positions -/

theorem bool?_boolChars (b : Bool) (rest : List Char) :
    bool? (boolChars b ++ rest) = some (b, rest) := by
  cases b <;> simp [boolChars, bool?, after?]

theorem natural?_digits (n : Nat) {c : Char} (hc : c.isDigit = false) (rest : List Char) :
    natural? (Nat.toDigits 10 n ++ c :: rest) = some (n, c :: rest) := by
  have hdigits : ∀ d ∈ Nat.toDigits 10 n, d.isDigit = true := fun d hd =>
    Nat.isDigit_of_mem_toDigits (by decide) (by decide) hd
  have hstop := takeWhile_stop hdigits hc rest
  rw [natural?, hstop.1, hstop.2]
  split
  · rename_i h
    exact absurd h Nat.toDigits_ne_nil
  · rw [Nat.ofDigitChars_ten_toDigits]

theorem order?_chars (o : Order) (rest : List Char) :
    order? (commaSeparated (orderEntries o) ++ rest) = some (o, rest) := by
  have htext : commaSeparated (orderEntries o) ++ rest
      = "components: components, index: ".toList ++ (Nat.toDigits 10 o.index
        ++ (", firstChild: ".toList ++ (boolChars o.firstChild
        ++ (", lastChild: ".toList ++ (boolChars o.lastChild
        ++ (", firstOfType: ".toList ++ (boolChars o.firstOfType
        ++ (", prevSiblingName: ".toList ++ (Json.quote o.prevSiblingName ++ rest))))))))) := by
    simp [orderEntries, commaSeparated, entry]
  have hindex : ∀ more, natural? (Nat.toDigits 10 o.index ++ (", firstChild: ".toList ++ more))
      = some (o.index, ", firstChild: ".toList ++ more) := by
    intro more
    have hcomma : ", firstChild: ".toList ++ more = ',' :: (" firstChild: ".toList ++ more) := by
      simp
    rw [hcomma]
    exact natural?_digits o.index (by decide) _
  simp only [htext, order?, after?_append, hindex, bool?_boolChars, string?_quote,
    Option.bind_eq_bind, Option.bind_some, Option.pure_def]

end Reader

/-! ## Calls -/

theorem commaSeparated_cons (t : List Char) {ts : List (List Char)} (h : ts ≠ []) :
    commaSeparated (t :: ts) = t ++ ',' :: ' ' :: commaSeparated ts := by
  cases ts with
  | nil => exact absurd rfl h
  | cons u us => rfl

theorem commaSeparated_append (ts : List (List Char)) {us : List (List Char)} (h : us ≠ []) :
    commaSeparated (ts ++ us) = ts.flatMap (· ++ [',', ' ']) ++ commaSeparated us := by
  induction ts with
  | nil => rfl
  | cons t ts ih =>
      rw [List.cons_append, commaSeparated_cons t (by simp [h]), ih]
      simp

theorem length_commaSeparated_append (ts us : List (List Char)) :
    (commaSeparated us).length ≤ (commaSeparated (ts ++ us)).length := by
  by_cases h : us = []
  · simp [h, commaSeparated]
  · rw [commaSeparated_append ts h, List.length_append]
    omega

/-- The entry for children as it stands at the end of an object. -/
def childrenChars (children : List (List Char)) : List Char :=
  commaSeparated (childrenEntry children)

theorem childrenChars_nil : childrenChars [] = [] := rfl

theorem childrenChars_one (child : List Char) :
    childrenChars [child] = "children: ".toList ++ child := by
  rw [show childrenChars [child] = entry "children".toList child from rfl]
  simp [entry]

theorem childrenChars_many (first second : List Char) (more : List (List Char)) :
    childrenChars (first :: second :: more)
      = "children: ".toList ++ '[' :: (commaSeparated (first :: second :: more) ++ [']']) := by
  rw [show childrenChars (first :: second :: more) = entry "children".toList
    ('[' :: (commaSeparated (first :: second :: more) ++ [']'])) from rfl]
  simp [entry]

/-- There is one entry for children, unless there are none. -/
theorem childrenEntry_eq (first : List Char) (more : List (List Char)) :
    childrenEntry (first :: more) = [childrenChars (first :: more)] := by
  cases more <;> rfl

/-- The name of the function for a number of children. -/
def callee (children : List Expr) : List Char :=
  (if children.length < 2 then "_jsx(" else "_jsxs(").toList

theorem Expr.chars_call (reference : Reference) (props : List (String × PropValue))
    (order : Option Order) (children : List Expr) :
    Expr.chars (.call reference props order children)
      = callee children ++ reference.chars
        ++ ',' :: ' ' :: '\x7b' :: (commaSeparated
          (props.map (fun (key, value) => entry (Json.quote key) (propChars value))
            ++ (order.map orderEntries).getD [] ++ childrenEntry (Expr.rowChars children))
          ++ ['\x7d', ')']) := rfl

theorem Expr.rowChars_eq_map (row : List Expr) : Expr.rowChars row = row.map Expr.chars := by
  induction row with
  | nil => rfl
  | cons e rest ih => rw [List.map_cons, ← ih]; rfl

/-- The separator between a position and children. -/
def childrenLead (children : List Expr) : List Char :=
  if children.isEmpty then [] else [',', ' ']

/-- The text of an element's call, part by part. -/
theorem Expr.chars_element (reference : Reference) (props : List (String × PropValue))
    (order : Order) (children : List Expr) (rest : List Char) :
    Expr.chars (.call reference props (some order) children) ++ rest
      = callee children ++ (reference.chars ++ (", \x7b".toList ++ (propsChars props
        ++ (commaSeparated (orderEntries order) ++ (childrenLead children
        ++ (childrenChars (Expr.rowChars children) ++ ("\x7d)".toList ++ rest))))))) := by
  have hentries : commaSeparated
      (props.map (fun (key, value) => entry (Json.quote key) (propChars value))
        ++ orderEntries order ++ childrenEntry (Expr.rowChars children))
      = propsChars props ++ (commaSeparated (orderEntries order) ++ (childrenLead children
        ++ childrenChars (Expr.rowChars children))) := by
    rw [List.append_assoc, commaSeparated_append _ (by simp [orderEntries]), List.flatMap_map]
    refine congrArg (propsChars props ++ ·) ?_
    rw [Expr.rowChars_eq_map]
    cases children with
    | nil =>
        rw [List.map_nil, show childrenEntry [] = [] from rfl, childrenChars_nil]
        simp [childrenLead]
    | cons e es =>
        rw [List.map_cons, childrenEntry_eq, commaSeparated_append _ (by simp)]
        simp [orderEntries, commaSeparated, childrenLead]
  rw [Expr.chars_call]
  simp only [Option.map_some, Option.getD_some, hentries]
  simp

/-- The text of a fragment's call, part by part. -/
theorem Expr.chars_fragment (children : List Expr) (rest : List Char) :
    Expr.chars (.call .fragment [] none children) ++ rest
      = callee children ++ (Reference.chars .fragment ++ (", \x7b".toList
        ++ (childrenChars (Expr.rowChars children) ++ ("\x7d)".toList ++ rest)))) := by
  rw [Expr.chars_call, childrenChars]
  simp

mutual

/-- The expression as it is read. -/
def Expr.asRead : Expr → Expr
  | .text value => .text value
  | .call reference props order children =>
    .call reference (propsAsRead props) order (Expr.rowAsRead children)

/-- A row of expressions as they are read. -/
def Expr.rowAsRead : List Expr → List Expr
  | [] => []
  | e :: rest => Expr.asRead e :: Expr.rowAsRead rest

end

theorem Expr.rowAsRead_eq_map (row : List Expr) : Expr.rowAsRead row = row.map Expr.asRead := by
  induction row with
  | nil => rfl
  | cons e rest ih => rw [Expr.rowAsRead, ih, List.map_cons]

/-- An expression the reader can tell: calls with a position refer to a component, calls without
one are fragments, and literals are kept by their texts. -/
inductive Expr.Readable : Expr → Prop
  | text (value : String) : Expr.Readable (.text value)
  | element {reference : Reference} {props : List (String × PropValue)} {order : Order}
      {children : List Expr} (hreference : reference.Named) (hcomponent : reference ≠ .fragment)
      (hprops : ∀ p ∈ props, p.2.Exact) (hchildren : ∀ e ∈ children, Expr.Readable e) :
      Expr.Readable (.call reference props (some order) children)
  | fragment {children : List Expr} (hchildren : ∀ e ∈ children, Expr.Readable e) :
      Expr.Readable (.call .fragment [] none children)

namespace Reader

theorem callee?_callee (children : List Expr) (s : List Char) :
    callee? (callee children ++ s) = some (decide (2 ≤ children.length), s) := by
  by_cases h : children.length < 2
  · have hmany : ¬ 2 ≤ children.length := by omega
    simp [callee, callee?, h, hmany, after?]
  · have hmany : 2 ≤ children.length := by omega
    simp [callee, callee?, h, hmany, after?]

theorem length_propsChars (props : List (String × PropValue)) :
    props.length ≤ (propsChars props).length := by
  induction props with
  | nil => simp
  | cons p rest ih =>
      simp only [propsChars, List.flatMap_cons, List.length_append, List.length_cons] at ih ⊢
      omega

theorem head?_element {reference : Reference} (hreference : reference.Named)
    (hcomponent : reference ≠ .fragment) {props : List (String × PropValue)}
    (hprops : ∀ p ∈ props, p.2.Exact) (order : Order) (children : List Expr) (rest : List Char) :
    head? (callee children ++ (reference.chars ++ (", \x7b".toList ++ (propsChars props
        ++ (commaSeparated (orderEntries order) ++ rest)))))
      = some (⟨decide (2 ≤ children.length), reference, propsAsRead props, some order⟩,
          (after? ", ".toList rest).getD rest) := by
  have hwritten : reference.asWritten = reference := by cases reference <;> trivial
  -- Keys of props are quoted and those of the position are not, so the props end here.
  have hquote : string? (commaSeparated (orderEntries order) ++ rest) = none := by
    rw [show commaSeparated (orderEntries order) ++ rest
      = 'c' :: ((commaSeparated (orderEntries order)).tail ++ rest) from rfl]
    exact string?_cons (by decide) _
  have hlength : props.length
      < (propsChars props ++ (commaSeparated (orderEntries order) ++ rest)).length + 1 := by
    have := length_propsChars props
    rw [List.length_append]
    omega
  have hprops := props?_chars hprops hlength hquote
  simp only [head?, callee?_callee, Option.bind_eq_bind, Option.bind_some,
    reference?_chars hreference, hwritten, after?_append, hprops, order?_chars, Option.pure_def]

theorem head?_fragment (children : List Expr) {rest : List Char} (hquote : string? rest = none)
    (horder : order? rest = none) :
    head? (callee children ++ (Reference.chars .fragment ++ (", \x7b".toList ++ rest)))
      = some (⟨decide (2 ≤ children.length), .fragment, [], none⟩, rest) := by
  have hprops : props? (rest.length + 1) rest = some ([], rest) := by simp [props?, hquote]
  have hsettle : settle (Reference.asWritten .fragment) none = .fragment := by decide
  simp only [head?, callee?_callee, Option.bind_eq_bind, Option.bind_some,
    reference?_chars (r := .fragment) trivial, after?_append, hprops, horder, hsettle,
    Option.pure_def]

/-- What the reader is to do with the text of an expression. Fuel for each character is enough. -/
def Reads (e : Expr) : Prop :=
  ∀ fuel, e.chars.length ≤ fuel → ∀ rest, expr? fuel (e.chars ++ rest) = some (e.asRead, rest)

theorem two_le_length_chars (e : Expr) : 2 ≤ e.chars.length := by
  cases e with
  | text value =>
      rw [show Expr.chars (.text value) = Json.quote value from rfl, Json.quote]
      simp
  | call reference props order children =>
      rw [Expr.chars_call]
      simp
      omega

/-- Expressions with the closing bracket after them are read in order. -/
theorem row?_chars {e : Expr} {es : List Expr} (hread : ∀ x ∈ e :: es, Reads x) (fuel : Nat)
    (hfuel : (commaSeparated ((e :: es).map Expr.chars)).length ≤ fuel) (rest : List Char) :
    row? (fuel + 1) (commaSeparated ((e :: es).map Expr.chars) ++ ']' :: rest)
      = some (Expr.rowAsRead (e :: es), rest) := by
  induction es generalizing e fuel with
  | nil =>
      have he := hread e (by simp) fuel (by simpa [commaSeparated] using hfuel) (']' :: rest)
      simp [commaSeparated, row?, he, Expr.rowAsRead]
  | cons x more ih =>
      -- A further expression takes one more step, and its comma is a character to spare.
      rw [List.map_cons, commaSeparated_cons _ (by simp)] at hfuel ⊢
      simp only [List.length_append, List.length_cons] at hfuel
      obtain ⟨fuel, rfl⟩ : ∃ k, fuel = k + 1 := ⟨fuel - 1, by omega⟩
      have he := hread e (by simp) (fuel + 1) (by omega)
        (',' :: ' ' :: (commaSeparated ((x :: more).map Expr.chars) ++ ']' :: rest))
      have hmore := ih (fun y hy => hread y (List.mem_cons_of_mem _ hy)) fuel
        (show (commaSeparated ((x :: more).map Expr.chars)).length ≤ fuel by omega)
      rw [List.append_assoc, List.cons_append, List.cons_append, row?, he]
      generalize commaSeparated ((x :: more).map Expr.chars) ++ ']' :: rest = tail at hmore ⊢
      simp [after?, hmore, Expr.rowAsRead]

/-- The children of a call are read up to the end of its object. -/
theorem children?_chars {children : List Expr} (hread : ∀ e ∈ children, Reads e) (fuel : Nat)
    (hfuel : (childrenChars (children.map Expr.chars)).length ≤ fuel) (rest : List Char) :
    children? (fuel + 1) (decide (2 ≤ children.length))
        (childrenChars (children.map Expr.chars) ++ '\x7d' :: rest)
      = some (Expr.rowAsRead children, '\x7d' :: rest) := by
  match children, hread, hfuel with
  | [], _, _ =>
      rw [List.map_nil, childrenChars_nil]
      simp [children?, after?, Expr.rowAsRead]
  | [e], hread, hfuel =>
      rw [List.map_cons, List.map_nil, childrenChars_one] at hfuel ⊢
      have he := hread e (by simp) fuel (by rw [List.length_append] at hfuel; omega)
        ('\x7d' :: rest)
      rw [List.append_assoc, children?, after?_append]
      simp [he, Expr.rowAsRead]
  | e :: x :: more, hread, hfuel =>
      have hmany : decide (2 ≤ (e :: x :: more).length) = true := by simp
      rw [List.map_cons, List.map_cons, childrenChars_many, ← List.map_cons, ← List.map_cons]
        at hfuel ⊢
      simp only [List.length_append, List.length_cons, List.length_nil] at hfuel
      obtain ⟨fuel, rfl⟩ : ∃ k, fuel = k + 1 := ⟨fuel - 1, by omega⟩
      have hrow := row?_chars hread fuel (by omega) ('\x7d' :: rest)
      rw [List.append_assoc, children?, after?_append, hmany]
      simpa using hrow

theorem order?_none {s : List Char}
    (h : after? "components: components, index: ".toList s = none) : order? s = none := by
  rw [order?, h]
  rfl

/-- Children are not taken for a further prop or a position. -/
theorem children_head (children : List (List Char)) (rest : List Char) :
    string? (childrenChars children ++ '\x7d' :: rest) = none
      ∧ order? (childrenChars children ++ '\x7d' :: rest) = none := by
  match children with
  | [] =>
      rw [childrenChars_nil]
      exact ⟨string?_cons (by decide) _, order?_none rfl⟩
  | [child] =>
      rw [childrenChars_one]
      exact ⟨string?_cons (by decide) _, order?_none rfl⟩
  | first :: second :: more =>
      rw [childrenChars_many]
      exact ⟨string?_cons (by decide) _, order?_none rfl⟩

/-- The children of an element are preceded by a separator, unless there are none. -/
theorem after?_childrenLead (children : List Expr) (rest : List Char) :
    (after? ", ".toList (childrenLead children
        ++ (childrenChars (children.map Expr.chars) ++ '\x7d' :: rest))).getD
          (childrenLead children ++ (childrenChars (children.map Expr.chars) ++ '\x7d' :: rest))
      = childrenChars (children.map Expr.chars) ++ '\x7d' :: rest := by
  cases children with
  | nil => rw [List.map_nil, childrenChars_nil]; simp [childrenLead, after?]
  | cons e es => simp [childrenLead, after?]

theorem string?_callee (children : List Expr) (rest : List Char) :
    string? (callee children ++ rest) = none := by
  rw [callee]
  split <;> exact string?_cons (by decide) _

/-- A call is read once its start and its children are. -/
theorem reads_call {reference : Reference} {props : List (String × PropValue)}
    {order : Option Order} {children : List Expr}
    (hhead : ∀ rest, head? (Expr.chars (.call reference props order children) ++ rest)
      = some (⟨decide (2 ≤ children.length), reference, propsAsRead props, order⟩,
          childrenChars (children.map Expr.chars) ++ '\x7d' :: ')' :: rest))
    (hread : ∀ e ∈ children, Reads e) : Reads (.call reference props order children) := by
  intro fuel hfuel rest
  have hquote : string? (Expr.chars (.call reference props order children) ++ rest) = none := by
    rw [Expr.chars_call, List.append_assoc, List.append_assoc]
    exact string?_callee children _
  have hlength : (childrenChars (children.map Expr.chars)).length + 2 ≤ fuel := by
    rw [Expr.chars_call, Expr.rowChars_eq_map] at hfuel
    have hentries := length_commaSeparated_append
      (props.map (fun (key, value) => entry (Json.quote key) (propChars value))
        ++ (order.map orderEntries).getD []) (childrenEntry (children.map Expr.chars))
    rw [childrenChars]
    simp only [List.length_append, List.length_cons] at hfuel hentries
    omega
  obtain ⟨fuel, rfl⟩ : ∃ k, fuel = k + 2 := ⟨fuel - 2, by omega⟩
  rw [expr?, hquote]
  simp only [hhead]
  have hchildren := children?_chars hread fuel (by omega) (')' :: rest)
  simp [hchildren, after?, Expr.asRead]

/-- An expression the reader can tell is read from its text. -/
theorem reads_of_readable {e : Expr} (he : e.Readable) : Reads e := by
  induction he with
  | text value =>
      intro fuel hfuel rest
      have := two_le_length_chars (.text value)
      obtain ⟨fuel, rfl⟩ : ∃ k, fuel = k + 1 := ⟨fuel - 1, by omega⟩
      rw [show Expr.chars (.text value) = Json.quote value from rfl, expr?, string?_quote]
      rfl
  | @element reference props order children hreference hcomponent hprops _ ih =>
      refine reads_call (fun rest => ?_) ih
      rw [Expr.chars_element, head?_element hreference hcomponent hprops, Expr.rowChars_eq_map]
      exact congrArg (fun s => some (_, s)) (after?_childrenLead children (')' :: rest))
  | @fragment children _ ih =>
      -- Only the missing position tells a fragment from a component bound to its name.
      refine reads_call (fun rest => ?_) ih
      obtain ⟨hquote, horder⟩ := children_head (children.map Expr.chars) (')' :: rest)
      rw [Expr.chars_fragment, Expr.rowChars_eq_map]
      exact head?_fragment children hquote horder

end Reader

end Module

end Mdx
