import Mdx.Proofs.Module.Grammar
import Mdx.Proofs.Module.Structure

/-!
# The names that host blocks bind

The names bound by blocks of import and export statements are found in every layout of the
statements, but for imports whose `from` touches a brace or the quoted module: what these bind is
not found at all (`boundNames_blocks`).
-/

namespace Mdx.Module

open Text

/-! ## Names -/

def Name.text (n : Name) : String :=
  String.ofList n.chars

theorem leadingName?_append (n : Name) {rest : List Char} (hrest : Apart rest) :
    leadingName? (n.chars ++ rest) = some n.text := by
  obtain ⟨c, more, hchars, hstart⟩ := n.start
  rw [leadingName?, takeWhile_apart n.nameChars hrest, Name.text, hchars]
  rw [startsName] at hstart
  simp [hstart]

theorem leadingName?_chars (n : Name) : leadingName? n.chars = some n.text := by
  have hname := leadingName?_append n .nil
  rwa [List.append_nil] at hname

theorem Name.notMem (n : Name) {c : Char} (hc : isNameChar c = false) : c ∉ n.chars := by
  intro hmem
  rw [n.nameChars c hmem] at hc
  cases hc

theorem gapFlat_blank (gap : Option Gap) : Blank (gapFlat gap) := by
  cases gap with
  | none => exact .nil
  | some g => exact .singleton (by decide)

theorem eq_space {gap : Option Gap} {c : Char} (h : c ∈ gapFlat gap) : c = ' ' := by
  cases gap with
  | none => cases h
  | some g => exact List.mem_singleton.mp h

theorem gapFlat_notMem (gap : Option Gap) {c : Char} (hc : c ≠ ' ') : c ∉ gapFlat gap :=
  mt eq_space hc

/-! ## Names in braces -/

/-- A specifier on one line. -/
def Specifier.flat (s : Specifier) : List Char :=
  match s.alias? with
  | none => s.imported.chars
  | some (_, _, name) => s.imported.chars ++ (" as ".toList ++ name.chars)

theorem Specifier.tokensFlat (s : Specifier) (before : Option Gap) :
    Module.tokensFlat (s.tokens before) = gapFlat before ++ s.flat := by
  obtain ⟨imported, alias?⟩ := s
  cases alias? with
  | none => simp [tokens, flat, Lexeme.chars]
  | some a => simp [tokens, flat, Lexeme.chars]

theorem Specifier.solid (s : Specifier) : Solid s.flat := by
  obtain ⟨imported, alias?⟩ := s
  cases alias? with
  | none => exact imported.solid
  | some a => exact imported.solid.join _ a.2.2.solid

theorem Specifier.notMem (s : Specifier) {c : Char} (hc : isNameChar c = false) (hspace : c ≠ ' ') :
    c ∉ s.flat := by
  obtain ⟨imported, alias?⟩ := s
  cases alias? with
  | none => exact imported.notMem hc
  | some a =>
      have hwords : " as ".toList.all (fun d => d = ' ' || isNameChar d) = true := rfl
      have has : c ∉ " as ".toList := fun hmem => by
        simpa [hspace, hc] using List.all_eq_true.mp hwords c hmem
      simp only [flat, List.mem_append, not_or]
      exact ⟨imported.notMem hc, has, a.2.2.notMem hc⟩

theorem specifierName?_flat (s : Specifier) (before after : Option Gap) :
    specifierName? (gapFlat before ++ (s.flat ++ gapFlat after)) = some s.bound.text := by
  have htrim := trim_solid (gapFlat_blank before) s.solid (gapFlat_blank after)
  have hname : ∀ n : Name, leadingName? (trim n.chars) = some n.text := by
    intro n
    rw [n.solid.trim, leadingName?_chars]
  rw [specifierName?, htrim]
  obtain ⟨imported, alias?⟩ := s
  cases alias? with
  | none =>
      have hcut : cutLast? " as ".toList imported.chars = none :=
        cutLast?_eq_none (by decide) fun hinside =>
          imported.notMem isNameChar_space (hinside.subset (by decide))
      simp only [Specifier.flat, hcut]
      exact hname imported
  | some a =>
      have hcut : cutLast? " as ".toList (imported.chars ++ (" as ".toList ++ a.2.2.chars))
          = some (imported.chars, a.2.2.chars) :=
        cutLast?_of_notMem " as".toList (a.2.2.notMem isNameChar_space) imported.chars
      simp only [Specifier.flat, hcut]
      exact hname a.2.2

/-- What stands between the braces, on one line. -/
def Items.inside : Items → List Char
  | close before => gapFlat before
  | last before item after => gapFlat before ++ (item.flat ++ gapFlat after)
  | more before item after rest =>
    gapFlat before ++ (item.flat ++ gapFlat after) ++ ',' :: rest.inside

theorem Items.tokensFlat (items : Items) :
    Module.tokensFlat items.tokens = items.inside ++ ['\x7d'] := by
  induction items with
  | close before => simp [tokens, inside, Lexeme.chars]
  | last before item after => simp [tokens, inside, item.tokensFlat, Lexeme.chars]
  | more before item after rest ih => simp [tokens, inside, item.tokensFlat, ih, Lexeme.chars]

theorem Items.notMem_inside (items : Items) {c : Char} (hc : isNameChar c = false)
    (hspace : c ≠ ' ') (hcomma : c ≠ ',') : c ∉ items.inside := by
  induction items with
  | close before => exact gapFlat_notMem before hspace
  | last before item after =>
      simp [inside, gapFlat_notMem _ hspace, item.notMem hc hspace]
  | more before item after rest ih =>
      simp [inside, gapFlat_notMem _ hspace, item.notMem hc hspace, hcomma, ih]

/-- The items are told apart by the commas. -/
theorem Items.splitAt_inside (items : Items) :
    (splitAt (· = ',') items.inside).filterMap specifierName? = items.names.map Name.text := by
  have hcomma : isNameChar ',' = false := by decide
  have hitem : ∀ (before : Option Gap) (item : Specifier) (after : Option Gap),
      splitAt (· = ',') (gapFlat before ++ (item.flat ++ gapFlat after))
        = [gapFlat before ++ (item.flat ++ gapFlat after)] := by
    intro before item after
    refine splitAt_of_forall fun c hc => ?_
    rw [decide_eq_false_iff_not]
    rintro rfl
    simp [gapFlat_notMem, item.notMem hcomma] at hc
  induction items with
  | close before =>
      cases before with
      | none => rfl
      | some gap => rfl
  | last before item after =>
      rw [inside, hitem, List.filterMap_cons_some (specifierName?_flat item before after)]
      rfl
  | more before item after rest ih =>
      rw [inside, splitAt_append (by simp), hitem, List.singleton_append,
        List.filterMap_cons_some (specifierName?_flat item before after), ih]
      rfl

/-! ## Clauses -/

/-- Names in braces, or the name of a whole module, on one line. -/
def Group.flat : Group → List Char
  | named items => '\x7b' :: (items.inside ++ ['\x7d'])
  | whole _ _ name => "* as ".toList ++ name.chars

theorem Group.flat_named (items : Items) :
    (named items).flat = '\x7b' :: (items.inside ++ ['\x7d']) := rfl

theorem Group.flat_whole (before after : Gap) (name : Name) :
    (whole before after name).flat = "* as ".toList ++ name.chars := rfl

theorem Group.tokensFlat (g : Group) (before : Option Gap) :
    Module.tokensFlat (g.tokens before) = gapFlat before ++ g.flat := by
  cases g with
  | named items => simp [tokens, flat_named, items.tokensFlat, Lexeme.chars]
  | whole gap gap' name => simp [tokens, flat_whole, Lexeme.chars]

/-- The clause on one line. -/
def Clause.flat (c : Clause) : List Char :=
  tokensFlat (c.tokens none)

theorem namedImports_braces (before : List Char) (hbefore : '\x7b' ∉ before) (items : Items) :
    namedImports (before ++ '\x7b' :: (items.inside ++ ['\x7d']))
      = (items.names.map Name.text, dropEndWhile (fun c => c = ' ' || c = ',') before) := by
  have hcut : cut? ['\x7b'] (before ++ '\x7b' :: (items.inside ++ ['\x7d']))
      = some (before, items.inside ++ ['\x7d']) := cut?_of_notMem hbefore _
  have hinside : (items.inside ++ ['\x7d']).takeWhile (· ≠ '\x7d') = items.inside := by
    have hmem := items.notMem_inside (c := '\x7d') (by decide) (by decide) (by decide)
    rw [List.takeWhile_append_of_pos]
    · simp
    · intro c hc
      rw [decide_eq_true_eq]
      rintro rfl
      exact hmem hc
  simp only [namedImports, hcut, hinside, items.splitAt_inside]

theorem namedImports_none {clause : List Char} (h : '\x7b' ∉ clause) :
    namedImports clause = ([], clause) := by
  have hcut : cut? ['\x7b'] clause = none :=
    cut?_eq_none (by simp) fun hinside => h (hinside.subset (by simp))
  simp only [namedImports, hcut]

theorem namespaceImport_none {clause : List Char} (h : '*' ∉ clause) :
    namespaceImport clause = ([], clause) := by
  have hcut : cut? "* as ".toList clause = none :=
    cut?_eq_none (by decide) fun hinside => h (hinside.subset (by decide))
  simp only [namespaceImport, hcut]

theorem namespaceImport_whole {before : List Char} (h : '*' ∉ before) (name : Name) :
    namespaceImport (before ++ ("* as ".toList ++ name.chars)) = ([name.text], before) := by
  have hcut : cut? "* as ".toList (before ++ ("* as ".toList ++ name.chars))
      = some (before, name.chars) := cut?_of_notMem h _
  simp only [namespaceImport, hcut, name.solid.trim, leadingName?_chars]
  rfl

/-- A default name and the comma after it, on one line. -/
def defaultPart (name : Name) (before after : Option Gap) : List Char :=
  name.chars ++ (gapFlat before ++ ',' :: gapFlat after)

theorem defaultPart_notMem (name : Name) (before after : Option Gap) {c : Char}
    (hc : isNameChar c = false) (hspace : c ≠ ' ') (hcomma : c ≠ ',') :
    c ∉ defaultPart name before after := by
  simp [defaultPart, name.notMem hc, gapFlat_notMem _ hspace, hcomma]

theorem dropEndWhile_defaultPart (n : Name) (before after : Option Gap) :
    dropEndWhile (fun c => c = ' ' || c = ',') (defaultPart n before after) = n.chars := by
  have hdrop : ∀ c ∈ gapFlat before ++ ',' :: gapFlat after, (c = ' ' || c = ',') = true := by
    intro c hc
    rw [Bool.or_eq_true, decide_eq_true_eq, decide_eq_true_eq]
    rcases List.mem_append.mp hc with hc | hc
    · exact .inl (eq_space hc)
    · exact (List.mem_cons.mp hc).elim .inr fun hc => .inl (eq_space hc)
  rw [defaultPart, dropEndWhile_append _ hdrop]
  refine dropEndWhile_of_forall fun c hc => ?_
  rw [Bool.or_eq_false_iff, decide_eq_false_iff_not, decide_eq_false_iff_not]
  constructor
  · rintro rfl
    exact n.notMem isNameChar_space hc
  · rintro rfl
    exact n.notMem (by decide) hc

theorem trim_defaultPart (n : Name) (before after : Option Gap) :
    trim (dropEndWhile (· = ',') (trim (defaultPart n before after))) = n.chars := by
  have hcomma : Solid [','] := .of_forall (by simp) (forall_of_all rfl)
  have hpart : trim (defaultPart n before after) = (n.chars ++ gapFlat before) ++ [','] := by
    have htrim := trim_solid (b := []) .nil (n.solid.join (gapFlat before) hcomma)
      (gapFlat_blank after)
    simpa [defaultPart] using htrim
  have hnone : ',' ∉ n.chars ++ gapFlat before := by
    simp [n.notMem (c := ',') (by decide), gapFlat_notMem]
  rw [hpart, dropEndWhile_append _ (by simp), dropEndWhile_of_notMem hnone,
    trim_append _ (gapFlat_blank before), n.solid.trim]

/-- A text in front of a group, in which the names are found as default names. -/
structure Leads (names : List Name) (lead : List Char) : Prop where
  noBrace : '\x7b' ∉ lead
  noStar : '*' ∉ lead
  default : (leadingName? (trim (dropEndWhile (· = ',') (trim lead)))).toList
    = names.map Name.text

namespace Leads

theorem nil : Leads [] [] :=
  ⟨by simp, by simp, rfl⟩

theorem name (n : Name) : Leads [n] n.chars := by
  refine ⟨n.notMem (by decide), n.notMem (by decide), ?_⟩
  rw [n.solid.trim, dropEndWhile_of_notMem (n.notMem (by decide)), n.solid.trim,
    leadingName?_chars]
  rfl

theorem part (n : Name) (before after : Option Gap) : Leads [n] (defaultPart n before after) := by
  refine ⟨?_, ?_, ?_⟩
  · exact defaultPart_notMem n before after (by decide) (by decide) (by decide)
  · exact defaultPart_notMem n before after (by decide) (by decide) (by decide)
  · rw [trim_defaultPart, leadingName?_chars]
    rfl

end Leads

/-- The names that are found in what stands before `from`. -/
def specifierNames (specifiers : List Char) : List String :=
  let (named, rest) := namedImports specifiers
  let (whole, rest) := namespaceImport rest
  named ++ whole ++ (leadingName? (trim (dropEndWhile (· = ',') (trim rest)))).toList

theorem specifierNames_name (n : Name) : specifierNames n.chars = [n.text] := by
  have hname := Leads.name n
  simp only [specifierNames, namedImports_none hname.noBrace, namespaceImport_none hname.noStar,
    hname.default]
  rfl

-- Before braces the separators are dropped first, so the lead is also read without them.
theorem specifierNames_group {names : List Name} {lead : List Char} (h : Leads names lead)
    (hdropped : Leads names (dropEndWhile (fun c => c = ' ' || c = ',') lead)) (g : Group) :
    specifierNames (lead ++ g.flat) = (g.names ++ names).map Name.text := by
  cases g with
  | named items =>
      simp only [specifierNames, Group.flat_named, namedImports_braces lead h.noBrace,
        namespaceImport_none hdropped.noStar, hdropped.default]
      simp [Group.names]
  | whole before after name =>
      have hbrace : '\x7b' ∉ lead ++ ("* as ".toList ++ name.chars) := by
        simp only [List.mem_append, not_or]
        exact ⟨h.noBrace, by decide, name.notMem (by decide)⟩
      simp only [specifierNames, Group.flat_whole, namedImports_none hbrace,
        namespaceImport_whole h.noStar, h.default]
      rfl

theorem solid_tokensFlat {s : List Char} (h : Solid s) (ts : List Token) :
    Solid (s ++ tokensFlat ts) := by
  induction ts generalizing s with
  | nil => simpa using h
  | cons t ts ih => simpa using ih (h.join (gapFlat t.gap) t.lexeme.solid)

theorem Clause.solid (c : Clause) : Solid c.flat := by
  obtain ⟨l, rest, htokens⟩ := c.tokens_cons
  rw [flat, htokens none]
  simpa using solid_tokensFlat l.solid rest

/-- The names of a clause in the order in which they are found. -/
def Clause.found : Clause → List Name
  | default name => [name]
  | group g => g.names
  | both name _ _ g => g.names ++ [name]

theorem Clause.mem_found (c : Clause) (n : Name) : n ∈ c.found ↔ n ∈ c.names := by
  cases c with
  | default | group => rfl
  | both name before after g => simp [found, names, or_comm]

/-- The names of a clause are found in it. -/
theorem Clause.specifierNames_flat (c : Clause) :
    specifierNames c.flat = c.found.map Name.text := by
  cases c with
  | default name =>
      have hflat : (Clause.default name).flat = name.chars := by
        simp [flat, tokens, Lexeme.chars]
      rw [hflat, specifierNames_name]
      rfl
  | group g =>
      have hflat : (Clause.group g).flat = [] ++ g.flat := g.tokensFlat none
      rw [hflat, specifierNames_group .nil .nil, List.append_nil]
      rfl
  | both name before after g =>
      have hflat : (Clause.both name before after g).flat
          = defaultPart name before after ++ g.flat := by
        simp [flat, tokens, g.tokensFlat, defaultPart, Lexeme.chars]
      have hdropped := Leads.name name
      rw [← dropEndWhile_defaultPart name before after] at hdropped
      rw [hflat, specifierNames_group (.part name before after) hdropped]
      rfl

theorem importNames_clause (c : Clause) {clause rest : List Char}
    (hcut : cutLast? " from ".toList clause = some (c.flat, rest)) :
    importNames clause = c.found.map Name.text := by
  rw [← c.specifierNames_flat]
  simp only [importNames, hcut, c.solid.trim]
  rfl

/-! ## The word `from` -/

/-- The parts of a clause. -/
def Lexeme.inClause : Lexeme → Bool
  | fromWord | quoted _ => false
  | name _ | asWord | star | opening | closing | comma => true

theorem Lexeme.mark_inClause {l : Lexeme} (h : l.inClause = true) (hmark : l.isMark = true) :
    ∃ c, l.chars = [c] ∧ isNameChar c = false := by
  cases l with
  | star | opening | closing | comma => exact ⟨_, rfl, by decide⟩
  | name | asWord | fromWord => cases hmark
  | quoted => cases h

theorem Lexeme.word_inClause {l : Lexeme} (h : l.inClause = true) (hmark : l.isMark = false) :
    l.chars ≠ "from".toList := by
  cases l with
  | name n =>
      intro hfrom
      apply n.free
      have htext : String.ofList n.chars = "from" := by rw [show n.chars = _ from hfrom]; rfl
      simp [htext, reserved]
  | asWord => decide
  | star | opening | closing | comma | quoted => cases hmark
  | fromWord => cases h

theorem Lexeme.notMem_runs {l : Lexeme} (h : l.inClause = true) : "from".toList ∉ runs l.chars := by
  cases hmark : l.isMark with
  | true =>
      obtain ⟨c, hchars, hc⟩ := l.mark_inClause h hmark
      have hruns := runs_append hc [] []
      rw [List.nil_append] at hruns
      rw [hchars, hruns]
      decide
  | false =>
      rw [runs_word (l.word_chars hmark).1, List.mem_singleton]
      exact (l.word_inClause h hmark).symm

/-- Tokens of a clause, added to a text, do not make the word `from`. The text has to end with a
mark if a word may follow it directly. -/
theorem notMem_runs_tokensFlat {ts : List Token} {mark : Bool} {s : List Char}
    (hlinked : Linked mark ts) (hclause : ∀ t ∈ ts, t.lexeme.inClause = true)
    (hs : "from".toList ∉ runs s)
    (hmark : mark = true → s = [] ∨ ∃ p c, s = p ++ [c] ∧ isNameChar c = false) :
    "from".toList ∉ runs (s ++ tokensFlat ts) := by
  induction ts generalizing mark s with
  | nil => simpa using hs
  | cons t ts ih =>
      obtain ⟨gap, l⟩ := t
      obtain ⟨hl, hts⟩ := List.forall_mem_cons.mp hclause
      have hnext : "from".toList ∉ runs (s ++ (gapFlat gap ++ l.chars)) := by
        cases gap with
        | some g =>
            rw [gapFlat_some, List.singleton_append, runs_append isNameChar_space,
              List.mem_append]
            exact fun h => h.elim hs (l.notMem_runs hl)
        | none =>
            rw [gapFlat_none, List.nil_append]
            cases hword : l.isMark with
            | true =>
                obtain ⟨c, hchars, hc⟩ := l.mark_inClause hl hword
                rw [hchars, runs_append hc, List.mem_append]
                exact fun h => h.elim hs (by decide)
            | false =>
                -- The word follows a mark, so it is not the end of a longer word.
                have hlast := hmark ((hlinked.1 rfl).resolve_left (by simp [hword]))
                rcases hlast with rfl | ⟨p, c, rfl, hc⟩
                · exact l.notMem_runs hl
                · rw [runs_append hc, List.mem_append] at hs
                  rw [List.append_assoc, List.singleton_append, runs_append hc, List.mem_append]
                  exact fun h => h.elim (fun h => hs (.inl h)) (l.notMem_runs hl)
      rw [tokensFlat_cons, ← List.append_assoc (gapFlat gap), ← List.append_assoc s]
      refine ih hlinked.2 hts hnext fun hword => .inr ?_
      obtain ⟨c, hchars, hc⟩ := l.mark_inClause hl hword
      exact ⟨s ++ gapFlat gap, c, by simp [hchars], hc⟩

theorem Specifier.inClause (s : Specifier) (before : Option Gap) :
    ∀ t ∈ s.tokens before, t.lexeme.inClause = true := by
  obtain ⟨imported, alias?⟩ := s
  cases alias? <;> simp [tokens, Lexeme.inClause]

theorem Items.inClause (items : Items) : ∀ t ∈ items.tokens, t.lexeme.inClause = true := by
  induction items with
  | close before => simp [tokens, Lexeme.inClause]
  | last before item after =>
      exact List.forall_mem_append.mpr ⟨item.inClause before, by simp [Lexeme.inClause]⟩
  | more before item after rest ih =>
      exact List.forall_mem_append.mpr
        ⟨item.inClause before, List.forall_mem_cons.mpr ⟨rfl, ih⟩⟩

theorem Group.inClause (g : Group) (before : Option Gap) :
    ∀ t ∈ g.tokens before, t.lexeme.inClause = true := by
  cases g with
  | named items => exact List.forall_mem_cons.mpr ⟨rfl, items.inClause⟩
  | whole gap gap' name => simp [tokens, Lexeme.inClause]

theorem Clause.notMem_runs (c : Clause) : "from".toList ∉ runs c.flat := by
  have hclause : ∀ t ∈ c.tokens none, t.lexeme.inClause = true := by
    cases c with
    | default name => simp [tokens, Lexeme.inClause]
    | group g => exact g.inClause none
    | both name before after g =>
        exact List.forall_mem_cons.mpr ⟨rfl, List.forall_mem_cons.mpr ⟨rfl, g.inClause after⟩⟩
  have hlinked : Linked true (c.tokens none) := by
    have h : Linked true (c.tokens none ++ []) := c.linked none trivial
    rwa [List.append_nil] at h
  exact notMem_runs_tokensFlat (s := []) hlinked hclause (by decide) fun _ => .inl rfl

theorem mem_runs_from {s : List Char} (h : " from ".toList <:+: s) : "from".toList ∈ runs s := by
  obtain ⟨a, b, rfl⟩ := h
  have hsplit : a ++ " from ".toList ++ b = a ++ ' ' :: ("from".toList ++ ' ' :: b) := by simp
  have hfrom : runs "from".toList = ["from".toList] := runs_word (List.all_eq_true.mp rfl)
  rw [hsplit, runs_append isNameChar_space, runs_append isNameChar_space, hfrom]
  simp

theorem Clause.flat_braced (c : Clause) (h : c.isBraced = true) : ∃ p, c.flat = p ++ ['\x7d'] := by
  have hgroup : ∀ (g : Group) (before : Option Gap), g.isBraced = true →
      ∃ p, tokensFlat (g.tokens before) = p ++ ['\x7d'] := by
    intro g before hg
    cases g with
    | named items =>
        exact ⟨gapFlat before ++ '\x7b' :: items.inside,
          by simp [Group.tokensFlat, Group.flat_named]⟩
    | whole => cases hg
  cases c with
  | default => cases h
  | group g => exact hgroup g none h
  | both name before after g =>
      obtain ⟨p, hp⟩ := hgroup g after h
      exact ⟨name.chars ++ (gapFlat before ++ ',' :: p), by simp [flat, tokens, hp, Lexeme.chars]⟩

namespace Quoted

variable (q : Quoted)

theorem quote_notMem : q.quote ∉ " from ".toList := by
  rcases q.isQuote with hq | hq <;> rw [hq] <;> decide

theorem notInside (s : List Char) (h : " from ".toList <:+: s ++ q.chars) :
    " from ".toList <:+: s := by
  rcases isInfix_append_cons q.quote_notMem h with h | h
  · exact h
  · rcases isInfix_append_cons q.quote_notMem h with h | h
    · exact absurd h q.noFrom
    · exact absurd h (by decide)

/-- An import is cut before the last `from` that stands apart. -/
theorem cutLast?_from (s : List Char) :
    cutLast? " from ".toList (s ++ (" from ".toList ++ q.chars)) = some (s, q.chars) := by
  refine cutLast?_append (by decide) fun t ht hne hend => ?_
  obtain ⟨d, t, rfl⟩ := List.exists_cons_of_ne_nil hne
  obtain ⟨rfl, -⟩ := List.cons_prefix_cons.mp ht
  by_cases hlength : (" from ".toList).length ≤ (q.quote :: t).length
  · have hinside := List.suffix_of_suffix_length_le hend (List.suffix_append _ _) hlength
    have h := q.notInside [] (hinside.isInfix.trans ht.isInfix)
    exact absurd h (by decide)
  · have hshort := List.suffix_of_suffix_length_le (List.suffix_append _ _) hend (by omega)
    exact q.quote_notMem (hshort.subset List.mem_cons_self)

end Quoted

/-! ## Statements -/

/-- The word `from` stands apart on both sides. -/
def Import.isSetOff (i : Import) : Bool :=
  i.before.isSome && i.after.isSome

theorem Import.flat_eq (i : Import) :
    i.flat = "import ".toList ++ (i.clause.flat ++ (gapFlat i.before ++
      ("from".toList ++ (gapFlat i.after ++ i.quoted.chars)))) := by
  obtain ⟨l, rest, htokens⟩ := i.clause.tokens_cons
  unfold flat Clause.flat
  rw [tokens, htokens, htokens]
  simp [Lexeme.chars]

theorem Import.cutLast?_glued (i : Import) (h : i.isSetOff = false) :
    cutLast? " from ".toList (i.clause.flat ++ (gapFlat i.before ++
      ("from".toList ++ (gapFlat i.after ++ i.quoted.chars)))) = none := by
  have hclause := i.clause.notMem_runs
  refine cutLast?_eq_none (by decide) fun hinside => ?_
  -- The mark is not in the module, so it is in what stands before, where `from` is glued to
  -- the quote on its right or to the brace on its left.
  have hbefore := i.quoted.notInside
    (i.clause.flat ++ (gapFlat i.before ++ ("from".toList ++ gapFlat i.after)))
    (by simpa using hinside)
  cases hafter : i.after with
  | none =>
      rw [hafter, gapFlat_none, List.append_nil, ← List.append_assoc] at hbefore
      have hruns := mem_runs_from (isInfix_of_append " from".toList (by decide) hbefore)
      cases hgap : i.before with
      | none => rw [hgap, gapFlat_none, List.append_nil] at hruns; exact hclause hruns
      | some g =>
          rw [hgap, gapFlat_some, runs_append isNameChar_space, List.mem_append] at hruns
          exact hruns.elim hclause (by decide)
  | some g =>
      have hgap : i.before = none := by simpa [isSetOff, hafter] using h
      obtain ⟨p, hp⟩ := i.clause.flat_braced (i.apart hgap)
      rw [hp, hgap, hafter, gapFlat_none, gapFlat_some, List.nil_append, List.append_assoc,
        List.singleton_append] at hbefore
      rw [hp, runs_append (by decide), List.mem_append] at hclause
      rcases isInfix_append_cons (by decide) hbefore with hinside | hinside
      · exact hclause (.inl (mem_runs_from hinside))
      · exact absurd hinside (by decide)

theorem Import.statementNames_flat (i : Import) :
    statementNames i.flat = if i.isSetOff then i.clause.found.map Name.text else [] := by
  rw [i.flat_eq, statementNames, after?_append]
  cases hset : i.isSetOff with
  | true =>
      rw [isSetOff, Bool.and_eq_true, Option.isSome_iff_exists, Option.isSome_iff_exists] at hset
      obtain ⟨⟨g, hg⟩, g', hg'⟩ := hset
      rw [hg, hg', if_pos rfl]
      exact importNames_clause i.clause (i.quoted.cutLast?_from i.clause.flat)
  | false =>
      simp only [importNames, i.cutLast?_glued hset]
      rfl

/-- A word at the start of a text. -/
theorem mem_runs_append (word : List Char) {rest : List Char} {c : Char}
    (hword : ∀ d ∈ word, isNameChar d = true) (hc : isNameChar c = false) :
    word ∈ runs (word ++ c :: rest) := by
  rw [runs_append hc, runs_word hword]
  simp

/-- What stands before `=` is not a part of a name. -/
theorem exists_of_equals {s : List Char} (h : begins ['='] (trimLeft s) = true) :
    ∃ c rest, s = c :: rest ∧ isNameChar c = false := by
  cases s with
  | nil => cases h
  | cons c rest =>
      refine ⟨c, rest, rfl, ?_⟩
      by_cases hblank : isBlank c = true
      · exact isNameChar_blank hblank
      · rw [trimLeft, List.dropWhile_cons, if_neg hblank, begins_iff] at h
        obtain ⟨rfl, -⟩ := List.cons_prefix_cons.mp h
        decide

/-- A silent text does not begin with a word that matters. -/
theorem Silent.after?_word {s : List Char} (h : Silent s) (word : String) (hword : word ∈ heeded) :
    after? (word.toList ++ [' ']) s = none := by
  have hnames : ∀ word ∈ heeded, word.toList.all isNameChar = true := by decide
  refine after?_eq_none ?_
  rintro ⟨rest, rfl⟩
  refine h word hword ?_
  rw [List.append_assoc]
  exact mem_runs_append _ (List.all_eq_true.mp (hnames word hword)) isNameChar_space

/-- Statements without the words that matter bind nothing. -/
theorem Silent.statementNames {s : List Char} (h : Silent s) : statementNames s = [] := by
  have himport : after? "import ".toList s = none := h.after?_word "import" (by decide)
  have hexport : after? "export ".toList s = none := h.after?_word "export" (by decide)
  simp only [Module.statementNames, himport, hexport]
  cases hlayout : after? ("const " ++ layoutName).toList s with
  | none => rfl
  | some rest =>
      -- The name of the layout would be a word of the text if it were followed by `=`.
      refine if_neg fun hbegins => ?_
      obtain ⟨c, more, rfl, hc⟩ := exists_of_equals hbegins
      refine h layoutName (by decide) ?_
      have hs : s = "const".toList ++ ' ' :: (layoutName.toList ++ c :: more) := by
        rw [after?_eq_some hlayout, String.toList_append]
        rfl
      rw [hs, runs_append isNameChar_space]
      exact List.mem_append_right _ (mem_runs_append _ (List.all_eq_true.mp rfl) hc)

theorem exportName?_declarator {word : String} (hword : word ∈ declarators) (s : List Char) :
    exportName? (word.toList ++ s) = leadingName? s := by
  simp only [declarators, List.mem_cons, List.not_mem_nil, or_false] at hword
  rcases hword with rfl | rfl | rfl | rfl | rfl <;> rfl

theorem Export.statementNames_head (e : Export) {rest : List Char} (hrest : Apart rest) :
    statementNames (e.head ++ rest) = [e.name.text] := by
  have hhead : e.head ++ rest
      = "export ".toList ++ (e.declarator.toList ++ (e.name.chars ++ rest)) := by
    unfold head
    simp only [List.append_assoc]
  have himport : after? "import ".toList (e.head ++ rest) = none := rfl
  have hexport : after? "export ".toList (e.head ++ rest)
      = some (e.declarator.toList ++ (e.name.chars ++ rest)) := by
    rw [hhead, after?_append]
  simp only [statementNames, himport, hexport, exportName?_declarator e.declares,
    leadingName?_append e.name hrest]
  rfl

/-- The names that are found in a statement. -/
def Statement.found : Statement → List String
  | imports i => if i.isSetOff then i.clause.found.map Name.text else []
  | exports e => [e.name.text]

/-- The names of a statement that stands on its own are found. -/
theorem Statement.finish_run (s : Statement) {σ : Scan} (hblank : Blank σ.piece) :
    (σ.run s.chars).finish.flatMap statementNames = σ.all.flatMap statementNames ++ s.found := by
  cases s with
  | imports i =>
      rw [chars, i.finish_run hblank, List.flatMap_append, List.flatMap_singleton,
        i.statementNames_flat]
      rfl
  | exports e =>
      obtain ⟨rest, silent, hfound, hrest, hsilent⟩ := e.finish_run hblank
      have hnone : silent.flatMap statementNames = [] :=
        List.flatMap_eq_nil_iff.mpr fun s hs => (hsilent s hs).statementNames
      rw [chars, hfound, List.flatMap_append, List.flatMap_cons, e.statementNames_head hrest, hnone,
        List.append_nil]
      rfl

theorem Body.finish_run (body : Body) {σ : Scan} (hblank : Blank σ.piece) :
    (σ.run body.chars).finish.flatMap statementNames
      = σ.all.flatMap statementNames ++ body.statements.flatMap Statement.found := by
  induction body generalizing σ with
  | nil => simp [chars, statements, Scan.run, Scan.finish_blank hblank]
  | last s tail =>
      rw [chars, Scan.run_append, Scan.finish_run tail.idle, s.finish_run hblank]
      simp [statements]
  | more s stop rest ih =>
      have hnext := Scan.blank_run_stop (σ := σ.run s.chars) stop.idle stop.breaks
      rw [chars, Scan.run_append, Scan.run_append, ih hnext, ← Scan.finish_blank hnext,
        Scan.finish_run stop.idle, s.finish_run hblank]
      simp [statements]

theorem Block.statements_chars (b : Block) :
    (Module.statements b.chars).flatMap statementNames = b.statements.flatMap Statement.found := by
  have hblank : Blank (Scan.run {} b.lead.chars).piece :=
    Scan.blank_run (by simp [Blank]) b.lead.idle
  have hall : (Scan.run {} b.lead.chars).all = [] := by
    rw [← Scan.finish_blank hblank, Scan.finish_run b.lead.idle]
    rfl
  rw [statements_eq_scan, chars, Scan.run_append, b.body.finish_run hblank, hall]
  rfl

theorem boundNames_chars (blocks : List Block) :
    boundNames (blocks.map Block.chars)
      = blocks.flatMap fun b => b.statements.flatMap Statement.found := by
  induction blocks with
  | nil => rfl
  | cons b blocks ih =>
      rw [boundNames] at ih ⊢
      rw [List.map_cons, List.flatMap_cons, List.flatMap_append, ih, b.statements_chars]
      rfl

/-! ## The names that are bound -/

/-- The statement is not an import whose `from` touches what is next to it. -/
def Statement.isSetOff : Statement → Bool
  | imports i => i.isSetOff
  | exports _ => true

theorem Statement.mem_found (s : Statement) (name : String) :
    name ∈ s.found ↔ s.isSetOff = true ∧ name ∈ s.names := by
  cases s with
  | imports i =>
      cases hset : i.isSetOff with
      | true => simp [found, isSetOff, names, hset, Clause.mem_found, Name.text]
      | false => simp [found, isSetOff, hset]
  | exports e => simp [found, isSetOff, names, Name.text]

/-- One of the blocks has a statement, with its `from` set off, that binds the name. -/
def Binds (blocks : List Block) (name : String) : Prop :=
  ∃ b ∈ blocks, ∃ s ∈ b.statements, s.isSetOff = true ∧ name ∈ s.names

theorem mem_boundNames (blocks : List Block) (name : String) :
    name ∈ boundNames (blocks.map Block.chars) ↔ Binds blocks name := by
  simp only [boundNames_chars, List.mem_flatMap, Statement.mem_found, Binds]

theorem reference_eq_bound (mark : String) (bound : List String) (name : String) :
    reference mark bound name = .bound name ↔
      (mark.isEmpty = true ∨ afterPrefix? mark name = none) ∧ firstPart name ∈ bound := by
  have hfree : (if mark.isEmpty then none else afterPrefix? mark name) = none ↔
      mark.isEmpty = true ∨ afterPrefix? mark name = none := by
    cases mark.isEmpty <;> simp
  rw [← hfree, reference]
  cases hkey : (if mark.isEmpty then none else afterPrefix? mark name) with
  | some key => simp
  | none =>
      show (if bound.contains (firstPart name) then Reference.bound name
        else if Tag.startsLower name then .builtin name else .custom name) = .bound name ↔ _
      by_cases hbound : firstPart name ∈ bound
      · rw [if_pos (by simpa using hbound)]
        simp [hbound]
      · rw [if_neg (by simpa using hbound)]
        split <;> simp [hbound]

/-- The names that blocks bind are those of their statements, but for imports whose `from` is not
set off, and elements with such names, and no others, refer to them directly unless they are built
in by their prefix. -/
theorem boundNames_blocks (blocks : List Block) (name : String) :
    (name ∈ boundNames (blocks.map Block.chars) ↔ Binds blocks name) ∧
      ∀ mark, reference mark (boundNames (blocks.map Block.chars)) name = .bound name ↔
        (mark.isEmpty = true ∨ afterPrefix? mark name = none) ∧ Binds blocks (firstPart name) := by
  refine ⟨mem_boundNames blocks name, fun mark => ?_⟩
  rw [reference_eq_bound, mem_boundNames]

def nameA : Name :=
  ⟨['A'], ⟨'A', [], rfl, by decide⟩, List.all_eq_true.mp rfl, by decide⟩

/-- An import of a name in braces, with what stands between them and `from`. -/
def bracedImport (before : Option Gap) : Import where
  clause := .group (.named (.last none ⟨nameA, none⟩ none))
  before := before
  after := some .space
  quoted := ⟨'\'', ['x'], .inl rfl, forall_of_all rfl, by decide⟩
  apart _ := rfl

def bracedBlock (before : Option Gap) : Block :=
  ⟨⟨[], by simp⟩, .last (.imports (bracedImport before)) ⟨[], by simp⟩⟩

/-- The name of an import is bound wherever its `from` stands, but not found if that touches a
brace. -/
theorem boundNames_touching :
    (bracedBlock none).chars = "import \x7bA\x7dfrom 'x'".toList ∧
      (bracedBlock none).statements.flatMap Statement.names = ["A"] ∧
      boundNames [(bracedBlock none).chars] = [] ∧
      reference "" (boundNames [(bracedBlock none).chars]) "A" = .custom "A" ∧
      boundNames [(bracedBlock (some .space)).chars] = ["A"] := by
  decide +kernel

end Mdx.Module
