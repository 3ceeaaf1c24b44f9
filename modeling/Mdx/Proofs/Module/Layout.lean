import Mdx.Module.Text
import Mdx.Proofs.Module.Scan

/-!
# The layout in the text of a block

The layout is bound in host blocks line by line. On the text of a block this is one cut: at the
first line that begins with `export default `, these words become a binding of the layout, and the
rest stays as it is up to the spelling of line ends.

* `cutDefault?`, the cut, with `cutDefault?_eq_some_iff` and `cutDefault?_eq_none_iff`;
* `bindLayout_lines`, what becomes of a block;
* `Site.image`, what becomes of one statement of a block, and `flatten_images`: the statements of a
  block can be taken one by one.
-/

namespace Mdx.Module

open Text

/-! ## Lines -/

/-- A text is a line, or a line before a text. -/
theorem lineInduction {motive : List Char → Prop} (last : ∀ p, '\n' ∉ p → motive p)
    (feed : ∀ p s, '\n' ∉ p → motive s → motive (p ++ '\n' :: s)) (s : List Char) : motive s := by
  by_cases h : '\n' ∈ s
  · obtain ⟨p, t, hs, hp⟩ := List.eq_append_cons_of_mem h
    have hlength : t.length < s.length := by
      rw [hs, List.length_append, List.length_cons]
      omega
    rw [hs]
    exact feed p t hp (lineInduction last feed t)
  · exact last s h
termination_by s.length

/-- The text with plain line feeds for line ends. -/
def reline : List Char → List Char
  | [] => []
  | c :: rest => if c = '\r' ∧ rest.head? = some '\n' then reline rest else c :: reline rest

theorem reline_of_notMem {p : List Char} (h : '\n' ∉ p) : reline p = p := by
  induction p with
  | nil => rfl
  | cons c p ih =>
      have hp : '\n' ∉ p := List.not_mem_of_not_mem_cons h
      rw [reline, ih hp, if_neg]
      rintro ⟨-, hhead⟩
      exact hp (List.mem_of_mem_head? hhead)

/-- Texts can be relined apart where no line end is torn. -/
theorem reline_append {s t : List Char} (h : s.getLast? ≠ some '\r' ∨ t.head? ≠ some '\n') :
    reline (s ++ t) = reline s ++ reline t := by
  induction s with
  | nil => rfl
  | cons c s ih =>
      cases s with
      | nil =>
          have hc : ¬ (c = '\r' ∧ t.head? = some '\n') := by
            rintro ⟨rfl, ht⟩
            simp [ht] at h
          simp [reline, hc]
      | cons d s =>
          rw [List.getLast?_cons_cons] at h
          rw [List.cons_append, reline, reline, ih h]
          by_cases hreturn : c = '\r' ∧ d = '\n' <;> simp [hreturn]

/-- A line loses one carriage return at most. -/
theorem chomp_eq (p : List Char) :
    (chomp (p ++ ['\n']) = p ∧ p.getLast? ≠ some '\r') ∨ p = chomp (p ++ ['\n']) ++ ['\r'] := by
  rcases List.eq_nil_or_concat p with rfl | ⟨t, c, rfl⟩
  · exact .inl (by simp [chomp])
  · by_cases hc : c = '\r'
    · exact .inr (by simp [chomp, hc])
    · exact .inl (by simp [chomp, hc])

theorem reline_feed {p : List Char} (h : '\n' ∉ p) (s : List Char) :
    reline (p ++ '\n' :: s) = chomp (p ++ ['\n']) ++ '\n' :: reline s := by
  rcases chomp_eq p with ⟨hchomp, hlast⟩ | hp
  · rw [hchomp, reline_append (.inl hlast), reline_of_notMem h]
    simp [reline]
  · generalize chomp (p ++ ['\n']) = q at hp ⊢
    subst hp
    have hq : '\n' ∉ q := fun hmem => h (List.mem_append_left _ hmem)
    rw [List.append_assoc, reline_append (.inr (by simp)), reline_of_notMem hq]
    simp [reline]

/-! ## Words at the start of a line -/

/-- The words that export a default. -/
def exportDefault : List Char :=
  "export default ".toList

/-- The words that bind the layout. -/
def layoutBinding : List Char :=
  ("const " ++ layoutName ++ " = ").toList

/-- White space within a line. -/
def isIndent (c : Char) : Bool :=
  isBlank c && c ≠ '\n'

/-- What follows `export default ` at the start of a text, indented or not. -/
def valueAt? (s : List Char) : Option (List Char) :=
  after? exportDefault (s.dropWhile isIndent)

theorem valueAt?_eq_some {s v : List Char} :
    valueAt? s = some v ↔ ∃ ws, (∀ c ∈ ws, isIndent c = true) ∧ s = ws ++ (exportDefault ++ v) := by
  constructor
  · intro h
    refine ⟨s.takeWhile isIndent, List.all_eq_true.mp List.all_takeWhile, ?_⟩
    rw [← after?_eq_some h, List.takeWhile_append_dropWhile]
  · rintro ⟨ws, hws, rfl⟩
    rw [valueAt?, List.dropWhile_append_of_pos hws]
    exact after?_append exportDefault v

/-- A line feed ends the line that is looked at. -/
theorem valueAt?_feed (p t : List Char) :
    valueAt? (p ++ '\n' :: t) = (valueAt? p).map (· ++ '\n' :: t) := by
  have hmark : '\n' ∉ exportDefault := by decide
  rw [valueAt?, valueAt?, List.dropWhile_append]
  split
  · rename_i hblank
    rw [List.isEmpty_iff.mp hblank]
    exact after?_append_cons (s := []) hmark t
  · exact after?_append_cons hmark t

theorem valueAt?_return (p : List Char) :
    valueAt? (p ++ ['\r']) = (valueAt? p).map (· ++ ['\r']) := by
  rw [valueAt?, valueAt?, List.dropWhile_append]
  split
  · rename_i hblank
    rw [List.isEmpty_iff.mp hblank]
    rfl
  · exact after?_append_cons (by decide) []

theorem valueAt?_append {p : List Char} (h : ¬ p.dropWhile isIndent <+: exportDefault)
    (t : List Char) : valueAt? (p ++ t) = (valueAt? p).map (· ++ t) := by
  rw [valueAt?, valueAt?, List.dropWhile_append, if_neg]
  · exact after?_append_of_not_isPrefix h t
  · intro hblank
    rw [List.isEmpty_iff.mp hblank] at h
    exact h List.nil_prefix

theorem defaultExport?_line {p : List Char} (h : '\n' ∉ p) : defaultExport? p = valueAt? p := by
  have htrim : trimLeft p = p.dropWhile isIndent := by
    induction p with
    | nil => rfl
    | cons c p ih =>
        have hc : c ≠ '\n' := (List.ne_of_not_mem_cons h).symm
        have hp : '\n' ∉ p := List.not_mem_of_not_mem_cons h
        rw [trimLeft, List.dropWhile_cons, List.dropWhile_cons, ← ih hp]
        simp [isIndent, hc, trimLeft]
  rw [defaultExport?, htrim]
  rfl

/-- The value of a default export, read from a line without its end. -/
theorem defaultExport?_chomp {p : List Char} (h : '\n' ∉ p) :
    defaultExport? (chomp (p ++ ['\n'])) = (valueAt? p).map fun v => chomp (v ++ ['\n']) := by
  rcases chomp_eq p with ⟨hchomp, hlast⟩ | hp
  · rw [hchomp, defaultExport?_line h]
    cases hvalue : valueAt? p with
    | none => rfl
    | some v =>
        obtain ⟨ws, -, rfl⟩ := valueAt?_eq_some.mp hvalue
        rcases chomp_eq v with ⟨hv, -⟩ | hv
        · rw [Option.map_some, hv]
        · rw [hv] at hlast
          simp at hlast
  · generalize chomp (p ++ ['\n']) = q at hp ⊢
    subst hp
    rw [defaultExport?_line fun hmem => h (List.mem_append_left _ hmem), valueAt?_return,
      Option.map_map]
    cases valueAt? q with
    | none => rfl
    | some v => simp [chomp]

/-! ## The cut -/

/-- The parts of a text before and after the first `export default ` that begins a line. `fresh`
says that the text itself begins a line. -/
def cutDefault? : (fresh : Bool) → List Char → Option (List Char × List Char)
  | _, [] => none
  | fresh, c :: rest =>
    match if fresh then valueAt? (c :: rest) else none with
    | some value => some ([], value)
    | none => (cutDefault? (c == '\n') rest).map fun (before, value) => (c :: before, value)

/-- The parts of a cut behind a text. -/
def behind (s : List Char) (cut : List Char × List Char) : List Char × List Char :=
  (s ++ cut.1, cut.2)

theorem map_behind (s t : List Char) (cut : Option (List Char × List Char)) :
    (cut.map (behind t)).map (behind s) = cut.map (behind (s ++ t)) := by
  cases cut <;> simp [behind]

/-- Within a line there is nothing to cut. -/
theorem cutDefault?_within {p : List Char} (h : '\n' ∉ p) (t : List Char) :
    cutDefault? false (p ++ t) = (cutDefault? false t).map (behind p) := by
  induction p with
  | nil => exact (congrFun Option.map_id (cutDefault? false t)).symm
  | cons c p ih =>
      have hc : (c == '\n') = false := beq_false_of_ne (List.ne_of_not_mem_cons h).symm
      have hp : '\n' ∉ p := List.not_mem_of_not_mem_cons h
      rw [List.cons_append, cutDefault?, hc, ih hp, Option.map_map]
      rfl

theorem cutDefault?_feed_within {p : List Char} (h : '\n' ∉ p) (s : List Char) :
    cutDefault? false (p ++ '\n' :: s) = (cutDefault? true s).map (behind (p ++ ['\n'])) := by
  rw [cutDefault?_within h, ← map_behind]
  rfl

/-- A line that does not export a default is passed over. -/
theorem cutDefault?_pass {p : List Char} (hne : p ≠ []) (h : '\n' ∉ p) (t : List Char)
    (hvalue : valueAt? (p ++ t) = none) :
    cutDefault? true (p ++ t) = (cutDefault? false t).map (behind p) := by
  obtain ⟨c, p, rfl⟩ := List.exists_cons_of_ne_nil hne
  have hc : (c == '\n') = false := beq_false_of_ne (List.ne_of_not_mem_cons h).symm
  have hp : '\n' ∉ p := List.not_mem_of_not_mem_cons h
  rw [List.cons_append] at hvalue ⊢
  rw [cutDefault?, if_pos rfl, hvalue, hc, cutDefault?_within hp, Option.map_map]
  rfl

theorem cutDefault?_hit {s v : List Char} (h : valueAt? s = some v) :
    cutDefault? true s = some ([], v) := by
  cases s with
  | nil => cases h
  | cons c s => rw [cutDefault?, if_pos rfl, h]

theorem cutDefault?_line {p : List Char} (h : '\n' ∉ p) :
    cutDefault? true p = (valueAt? p).map ([], ·) := by
  cases hvalue : valueAt? p with
  | some v => exact cutDefault?_hit hvalue
  | none =>
      by_cases hne : p = []
      · rw [hne]
        rfl
      · have hpass := cutDefault?_pass hne h [] (by rw [List.append_nil]; exact hvalue)
        rw [List.append_nil] at hpass
        rw [hpass]
        rfl

theorem cutDefault?_feed {p : List Char} (h : '\n' ∉ p) (s : List Char) :
    cutDefault? true (p ++ '\n' :: s)
      = match valueAt? p with
        | some v => some ([], v ++ '\n' :: s)
        | none => (cutDefault? true s).map (behind (p ++ ['\n'])) := by
  have hfeed := valueAt?_feed p s
  cases hvalue : valueAt? p with
  | some v =>
      rw [hvalue] at hfeed
      exact cutDefault?_hit hfeed
  | none =>
      rw [hvalue] at hfeed
      by_cases hne : p = []
      · subst hne
        rw [List.nil_append] at hfeed ⊢
        rw [cutDefault?, if_pos rfl, hfeed]
        rfl
      · rw [cutDefault?_pass hne h _ hfeed, ← map_behind]
        rfl

/-! ## Binding the layout in a block -/

/-- What becomes of a text: the words of its first default export bind the layout, unless `found`
says that there was one before. -/
def bindText (found fresh : Bool) (s : List Char) : List Char :=
  match if found then none else cutDefault? fresh s with
  | some (before, value) => reline before ++ (layoutBinding ++ reline value)
  | none => reline s

theorem bindText_found (fresh : Bool) (s : List Char) : bindText true fresh s = reline s := rfl

theorem bindText_none {fresh : Bool} {s : List Char} (h : cutDefault? fresh s = none) :
    bindText false fresh s = reline s := by
  rw [bindText, if_neg (by simp), h]

theorem bindText_some {fresh : Bool} {s before value : List Char}
    (h : cutDefault? fresh s = some (before, value)) :
    bindText false fresh s = reline before ++ (layoutBinding ++ reline value) := by
  rw [bindText, if_neg (by simp), h]

theorem bindLayout_found (ls : List (List Char)) : bindLayout true ls = (true, ls) := by
  induction ls with
  | nil => rfl
  | cons line ls ih => simp [bindLayout, ih]

theorem bindLayout_hit {line v : List Char} (h : defaultExport? line = some v)
    (ls : List (List Char)) :
    bindLayout false (line :: ls) = (true, (layoutBinding ++ v) :: ls) := by
  simp only [bindLayout, h, bindLayout_found]
  rfl

theorem bindLayout_pass {line : List Char} (h : defaultExport? line = none)
    (ls : List (List Char)) :
    bindLayout false (line :: ls)
      = ((bindLayout false ls).1, line :: (bindLayout false ls).2) := by
  simp [bindLayout, h]

/-- Lines with their ends. -/
def typeset (ls : List (List Char)) : List Char :=
  ls.flatMap (· ++ ['\n'])

theorem typeset_cons (line : List Char) (ls : List (List Char)) :
    typeset (line :: ls) = line ++ '\n' :: typeset ls := by
  simp [typeset]

theorem joinLines_feed {ls : List (List Char)} (h : ls ≠ []) :
    joinLines ls ++ ['\n'] = typeset ls := by
  induction ls with
  | nil => exact absurd rfl h
  | cons line ls ih =>
      cases ls with
      | nil => simp [joinLines, typeset]
      | cons next ls =>
          rw [typeset_cons, ← ih (List.cons_ne_nil next ls)]
          simp [joinLines]

theorem lines_line {p : List Char} (hne : p ≠ []) (h : '\n' ∉ p) : lines p = [p] := by
  rw [lines, splitLines_of_notMem hne h, List.map_singleton, chomp_of_notMem h]

theorem lines_feed {p : List Char} (h : '\n' ∉ p) (s : List Char) :
    lines (p ++ '\n' :: s) = chomp (p ++ ['\n']) :: lines s := by
  rw [lines, splitLines_feed h, List.map_cons, lines]

/-- The line feed that the last line of a text lacks. -/
def missingFeed (s : List Char) : List Char :=
  if s = [] ∨ s.getLast? = some '\n' then [] else ['\n']

theorem missingFeed_line {p : List Char} (hne : p ≠ []) (h : '\n' ∉ p) :
    missingFeed p = ['\n'] := by
  have hlast : p.getLast? ≠ some '\n' := fun hlast => h (List.mem_of_getLast? hlast)
  simp [missingFeed, hne, hlast]

theorem missingFeed_feed (p s : List Char) : missingFeed (p ++ '\n' :: s) = missingFeed s := by
  cases s with
  | nil => simp [missingFeed]
  | cons c s => simp [missingFeed, List.getLast?_append]

theorem notMem_value {p v : List Char} (h : '\n' ∉ p) (hvalue : valueAt? p = some v) :
    '\n' ∉ v := by
  obtain ⟨ws, -, rfl⟩ := valueAt?_eq_some.mp hvalue
  exact fun hmem => h (by simp [hmem])

/-- The flag of a block tells that there is something to cut. -/
theorem bindLayout_flag (s : List Char) :
    (bindLayout false (lines s)).1 = (cutDefault? true s).isSome := by
  induction s using lineInduction with
  | last p hp =>
      by_cases hne : p = []
      · rw [hne]
        rfl
      · rw [lines_line hne hp, cutDefault?_line hp]
        have hline := defaultExport?_line hp
        cases hvalue : valueAt? p with
        | none => rw [bindLayout_pass (hline.trans hvalue)]; rfl
        | some v => rw [bindLayout_hit (hline.trans hvalue)]; rfl
  | feed p s hp ih =>
      have hline := defaultExport?_chomp hp
      rw [lines_feed hp, cutDefault?_feed hp]
      cases hvalue : valueAt? p with
      | none =>
          rw [hvalue] at hline
          rw [bindLayout_pass hline, ih, Option.isSome_map]
      | some v =>
          rw [hvalue] at hline
          rw [bindLayout_hit hline]
          rfl

theorem typeset_lines (s : List Char) : typeset (lines s) = reline s ++ missingFeed s := by
  induction s using lineInduction with
  | last p hp =>
      by_cases hne : p = []
      · rw [hne]
        rfl
      · rw [lines_line hne hp, reline_of_notMem hp, missingFeed_line hne hp, typeset_cons]
        rfl
  | feed p s hp ih =>
      rw [lines_feed hp, typeset_cons, reline_feed hp, missingFeed_feed, ih]
      simp

/-- Binding the layout in the lines of a block binds it in its text. -/
theorem typeset_bindLayout (s : List Char) :
    typeset (bindLayout false (lines s)).2 = bindText false true s ++ missingFeed s := by
  induction s using lineInduction with
  | last p hp =>
      by_cases hne : p = []
      · rw [hne]
        rfl
      · have hline := defaultExport?_line hp
        have hcut := cutDefault?_line hp
        rw [lines_line hne hp, missingFeed_line hne hp]
        cases hvalue : valueAt? p with
        | none =>
            rw [hvalue] at hline hcut
            rw [bindLayout_pass hline, bindText_none hcut, reline_of_notMem hp]
            exact typeset_cons p []
        | some v =>
            rw [hvalue] at hline hcut
            rw [bindLayout_hit hline, bindText_some hcut, reline_of_notMem (notMem_value hp hvalue)]
            exact typeset_cons (layoutBinding ++ v) []
  | feed p s hp ih =>
      have hline := defaultExport?_chomp hp
      have hcut := cutDefault?_feed hp s
      rw [lines_feed hp, missingFeed_feed]
      cases hvalue : valueAt? p with
      | none =>
          rw [hvalue] at hline hcut
          rw [bindLayout_pass hline, typeset_cons, ih]
          cases hrest : cutDefault? true s with
          | none =>
              rw [hrest] at hcut
              rw [bindText_none hrest, bindText_none hcut, reline_feed hp]
              simp
          | some cut =>
              rw [hrest] at hcut
              rw [bindText_some hrest, bindText_some hcut, List.append_assoc p,
                List.singleton_append, reline_feed hp]
              simp
      | some v =>
          rw [hvalue] at hline hcut
          rw [bindLayout_hit hline, bindText_some hcut, reline_feed (notMem_value hp hvalue),
            typeset_cons, typeset_lines]
          simp [reline]

/-- What stands after the text of a block. -/
def blockEnd (s : List Char) : List Char :=
  if s.getLast? = some '\n' then [] else ['\n']

theorem length_bindLayout (found : Bool) (ls : List (List Char)) :
    (bindLayout found ls).2.length = ls.length := by
  cases found with
  | true => rw [bindLayout_found]
  | false =>
      induction ls with
      | nil => rfl
      | cons line ls ih =>
          cases hline : defaultExport? line with
          | none => rw [bindLayout_pass hline, List.length_cons, ih, List.length_cons]
          | some v => rw [bindLayout_hit hline, List.length_cons, List.length_cons]

theorem lines_ne_nil {s : List Char} (h : s ≠ []) : lines s ≠ [] := by
  obtain ⟨c, s, rfl⟩ := List.exists_cons_of_ne_nil h
  rw [lines, splitLines]
  split
  · simp
  · split <;> simp

/-- The layout of a block is bound by one cut. -/
theorem bindLayout_lines (found : Bool) (s : List Char) :
    (bindLayout found (lines s)).1 = (found || (cutDefault? true s).isSome)
      ∧ joinLines (bindLayout found (lines s)).2 ++ ['\n']
        = bindText found true s ++ blockEnd s := by
  constructor
  · cases found with
    | true => rw [bindLayout_found]; rfl
    | false => exact bindLayout_flag s
  · by_cases hs : s = []
    · subst hs
      cases found <;> rfl
    · have hne : (bindLayout found (lines s)).2 ≠ [] := by
        rw [← List.length_pos_iff, length_bindLayout, List.length_pos_iff]
        exact lines_ne_nil hs
      have hend : blockEnd s = missingFeed s := by simp [blockEnd, missingFeed, hs]
      rw [joinLines_feed hne, hend]
      cases found with
      | true => rw [bindLayout_found]; exact typeset_lines s
      | false => exact typeset_bindLayout s

/-! ## The first default export of a text -/

/-- The text is at the start of a line. -/
def AtLine (s : List Char) : Prop :=
  s = [] ∨ s.getLast? = some '\n'

/-- A line begins with `export default `, indented or not: `before` are the lines above it, and
`value` is what follows these words. -/
def DefaultLine (s before value : List Char) : Prop :=
  AtLine before
    ∧ ∃ ws, (∀ c ∈ ws, isIndent c = true) ∧ s = before ++ (ws ++ (exportDefault ++ value))

/-- No line begins with `export default `. -/
def NoDefaultLine (s : List Char) : Prop :=
  ∀ before value, ¬ DefaultLine s before value

/-- The text after the last line feed. -/
def lastLine (s : List Char) : List Char :=
  (s.reverse.takeWhile (· ≠ '\n')).reverse

/-- Whatever follows, the last line of the text cannot become one that begins with `export default `
and does not do so yet. -/
def Ended (s : List Char) : Prop :=
  lastLine s = [] ∨ ¬ (lastLine s).dropWhile isIndent <+: exportDefault

instance (s : List Char) : Decidable (Ended s) :=
  inferInstanceAs (Decidable (_ ∨ _))

/-- Whether what follows a text begins a line, if the text does so (`fresh`) or not. -/
def freshAfter (fresh : Bool) (s : List Char) : Bool :=
  (s.getLast?.map (· == '\n')).getD fresh

theorem lastLine_line {p : List Char} (h : '\n' ∉ p) : lastLine p = p := by
  have hall : ∀ c ∈ p.reverse, decide (c ≠ '\n') = true := fun c hc =>
    decide_eq_true fun hfeed => h (hfeed ▸ List.mem_reverse.mp hc)
  rw [lastLine, ← List.append_nil p.reverse, List.takeWhile_append_of_pos hall]
  simp

theorem lastLine_feed (p s : List Char) : lastLine (p ++ '\n' :: s) = lastLine s := by
  have hreverse : (p ++ '\n' :: s).reverse = s.reverse ++ '\n' :: p.reverse := by simp
  rw [lastLine, lastLine, hreverse, List.takeWhile_append]
  split
  · rename_i hwhole
    have hself := (List.takeWhile_prefix fun c => decide (c ≠ '\n')).eq_of_length hwhole
    rw [hself]
    simp
  · rfl

theorem freshAfter_line {p : List Char} (hne : p ≠ []) (h : '\n' ∉ p) (fresh : Bool) :
    freshAfter fresh p = false := by
  obtain ⟨q, c, rfl⟩ := List.eq_nil_or_concat p |>.resolve_left hne
  have hc : c ≠ '\n' := by rintro rfl; simp at h
  simp [freshAfter, hc]

theorem freshAfter_feed (fresh : Bool) (p s : List Char) :
    freshAfter fresh (p ++ '\n' :: s) = freshAfter true s := by
  cases s with
  | nil => simp [freshAfter]
  | cons c s => simp [freshAfter, List.getLast?_append, List.getLast?_cons]

/-- A text is cut before its end or not, whatever follows. -/
theorem cutDefault?_append {s : List Char} (h : Ended s) (fresh : Bool) (t : List Char) :
    cutDefault? fresh (s ++ t)
      = match cutDefault? fresh s with
        | some (before, value) => some (before, value ++ t)
        | none => (cutDefault? (freshAfter fresh s) t).map (behind s) := by
  induction s using lineInduction generalizing fresh with
  | last p hp =>
      by_cases hne : p = []
      · subst hne
        exact (congrFun Option.map_id (cutDefault? fresh t)).symm
      · rw [freshAfter_line hne hp]
        cases fresh with
        | false =>
            have hline : cutDefault? false p = none := by
              simpa [cutDefault?] using cutDefault?_within hp []
            rw [hline]
            exact cutDefault?_within hp t
        | true =>
            rw [Ended, lastLine_line hp] at h
            have happend := valueAt?_append (h.resolve_left hne) t
            rw [cutDefault?_line hp]
            cases hvalue : valueAt? p with
            | none => exact cutDefault?_pass hne hp t (by rw [happend, hvalue]; rfl)
            | some v => exact cutDefault?_hit (by rw [happend, hvalue]; rfl)
  | feed p s hp ih =>
      rw [Ended, lastLine_feed] at h
      have hrest := ih h true
      rw [List.append_assoc, List.cons_append, freshAfter_feed]
      have hshift : p ++ '\n' :: s = p ++ ['\n'] ++ s := by simp
      cases fresh with
      | false =>
          rw [cutDefault?_feed_within hp, cutDefault?_feed_within hp, hrest]
          cases cutDefault? true s with
          | none => rw [hshift]; exact map_behind _ s _
          | some cut => rfl
      | true =>
          rw [cutDefault?_feed hp, cutDefault?_feed hp, hrest]
          cases valueAt? p with
          | some v => simp
          | none =>
              cases cutDefault? true s with
              | none => rw [hshift]; exact map_behind _ s _
              | some cut => rfl

theorem AtLine.ended {s : List Char} (h : AtLine s) : Ended s := by
  rcases h with rfl | h
  · exact .inl rfl
  · obtain ⟨t, rfl⟩ := List.getLast?_eq_some_iff.mp h
    exact .inl (lastLine_feed t [])

theorem freshAfter_true {s : List Char} : freshAfter true s = true ↔ AtLine s := by
  rcases List.eq_nil_or_concat s with rfl | ⟨t, c, rfl⟩
  · simp [freshAfter, AtLine]
  · simp [freshAfter, AtLine]

theorem freshAfter_append (fresh : Bool) (s t : List Char) :
    freshAfter fresh (s ++ t) = freshAfter (freshAfter fresh s) t := by
  rcases List.eq_nil_or_concat t with rfl | ⟨t, c, rfl⟩
  · simp [freshAfter]
  · simp [freshAfter, ← List.append_assoc]

/-- The parts of a cut. -/
theorem cutDefault?_eq_some {fresh : Bool} {s before value : List Char}
    (h : cutDefault? fresh s = some (before, value)) :
    freshAfter fresh before = true
      ∧ ∃ ws, (∀ c ∈ ws, isIndent c = true) ∧ s = before ++ (ws ++ (exportDefault ++ value)) := by
  induction s generalizing fresh before with
  | nil => cases h
  | cons c s ih =>
      rw [cutDefault?] at h
      split at h
      · rename_i v hv
        obtain ⟨rfl, rfl⟩ := Prod.mk.inj (Option.some.inj h)
        cases fresh with
        | false => cases hv
        | true => exact ⟨rfl, valueAt?_eq_some.mp hv⟩
      · obtain ⟨cut, hcut, heq⟩ := Option.map_eq_some_iff.mp h
        obtain ⟨rfl, rfl⟩ := Prod.mk.inj heq
        obtain ⟨hfresh, ws, hws, hs⟩ := ih hcut
        refine ⟨?_, ws, hws, by rw [hs, List.cons_append]⟩
        rw [← List.singleton_append, freshAfter_append]
        exact hfresh

theorem cutDefault?_defaultLine {s before value : List Char} (h : DefaultLine s before value) :
    cutDefault? true s
      = match cutDefault? true before with
        | some (first, rest) => some (first, rest ++ s.drop before.length)
        | none => some (before, value) := by
  obtain ⟨hline, ws, hws, rfl⟩ := h
  rw [cutDefault?_append hline.ended, List.drop_left]
  cases cutDefault? true before with
  | some cut => rfl
  | none =>
      rw [freshAfter_true.mpr hline, cutDefault?_hit (valueAt?_eq_some.mpr ⟨ws, hws, rfl⟩)]
      simp [behind]

theorem cutDefault?_eq_none_iff {s : List Char} : cutDefault? true s = none ↔ NoDefaultLine s := by
  constructor
  · intro hnone before value h
    have hcut := cutDefault?_defaultLine h
    rw [hnone] at hcut
    split at hcut <;> cases hcut
  · intro h
    cases hcut : cutDefault? true s with
    | none => rfl
    | some cut =>
        obtain ⟨hfresh, hs⟩ := cutDefault?_eq_some hcut
        exact absurd ⟨freshAfter_true.mp hfresh, hs⟩ (h cut.1 cut.2)

/-- A text is cut at its first line that begins with `export default `. -/
theorem cutDefault?_eq_some_iff {s before value : List Char} :
    cutDefault? true s = some (before, value)
      ↔ DefaultLine s before value ∧ NoDefaultLine before := by
  constructor
  · intro h
    obtain ⟨hfresh, hs⟩ := cutDefault?_eq_some h
    have hline : DefaultLine s before value := ⟨freshAfter_true.mp hfresh, hs⟩
    refine ⟨hline, cutDefault?_eq_none_iff.mp ?_⟩
    have hcut := cutDefault?_defaultLine hline
    cases hfirst : cutDefault? true before with
    | none => rfl
    | some cut =>
        -- A cut of the lines above would be the cut of the text, and before itself.
        rw [h, hfirst] at hcut
        obtain ⟨hbefore, -⟩ := Prod.mk.inj (Option.some.inj hcut)
        obtain ⟨-, ws, -, hlength⟩ := cutDefault?_eq_some hfirst
        have hwords : 0 < exportDefault.length := by decide
        have hlength := congrArg List.length hlength
        rw [← hbefore] at hlength
        simp only [List.length_append] at hlength
        omega
  · rintro ⟨hline, hnone⟩
    rw [cutDefault?_defaultLine hline, cutDefault?_eq_none_iff.mpr hnone]

/-! ## Statements of a block -/

theorem lastLine_append (s : List Char) {t : List Char} (h : '\n' ∉ t) :
    lastLine (s ++ t) = lastLine s ++ t := by
  induction s using lineInduction with
  | last p hp =>
      rw [lastLine_line hp, lastLine_line]
      simpa using ⟨hp, h⟩
  | feed p s hp ih =>
      rw [List.append_assoc, List.cons_append, lastLine_feed, lastLine_feed, ih]

theorem Ended.append {s t : List Char} (hs : Ended s) (ht : Ended t) : Ended (s ++ t) := by
  by_cases hfeed : '\n' ∈ t
  · obtain ⟨p, t, rfl, -⟩ := List.eq_append_cons_of_mem hfeed
    rw [Ended, lastLine_feed] at ht
    rwa [Ended, ← List.append_assoc, lastLine_feed]
  · rw [Ended, lastLine_line hfeed] at ht
    rw [Ended, lastLine_append s hfeed]
    rcases hs with hs | hs
    · rwa [hs]
    · refine .inr fun hstart => hs ?_
      have hne : (lastLine s).dropWhile isIndent ≠ [] := fun hnil => hs (hnil ▸ List.nil_prefix)
      rw [List.dropWhile_append, if_neg (by simpa using hne)] at hstart
      exact (List.prefix_append _ t).trans hstart

/-- A statement whose text ends where another one may begin: no line end is torn, and what follows
does not make its last line one that begins with `export default `. -/
structure Complete (s : List Char) : Prop where
  ended : Ended s
  last : s.getLast? ≠ some '\r'

instance (s : List Char) : Decidable (Complete s) :=
  decidable_of_iff (Ended s ∧ s.getLast? ≠ some '\r')
    ⟨fun h => ⟨h.1, h.2⟩, fun h => ⟨h.ended, h.last⟩⟩

/-- A statement of a block. -/
structure Site where
  /-- The texts of the blocks before. -/
  before : List (List Char)
  /-- What stands before the statement in its block. -/
  prior : List Char
  statement : List Char

/-- A line of one of the texts begins with `export default `. -/
def anyDefault (texts : List (List Char)) : Bool :=
  texts.any fun s => (cutDefault? true s).isSome

/-- What stands in the module in the place of a statement. -/
def Site.image (σ : Site) : List Char :=
  bindText (anyDefault (σ.before ++ [σ.prior])) (freshAfter true σ.prior) σ.statement

/-- The statements of a block, from one on. -/
def blockSites (before : List (List Char)) (prior : List Char) : List (List Char) → List Site
  | [] => []
  | s :: rest => ⟨before, prior, s⟩ :: blockSites before (prior ++ s) rest

theorem anyDefault_eq_false {texts : List (List Char)} :
    anyDefault texts = false ↔ ∀ s ∈ texts, NoDefaultLine s := by
  simp [anyDefault, ← cutDefault?_eq_none_iff]

theorem anyDefault_append (texts : List (List Char)) (s : List Char) :
    anyDefault (texts ++ [s]) = (anyDefault texts || (cutDefault? true s).isSome) := by
  simp [anyDefault]

theorem anyDefault_next {before : List (List Char)} {prior : List Char} (h : Ended prior)
    (s : List Char) :
    anyDefault (before ++ [prior ++ s])
      = (anyDefault (before ++ [prior]) || (cutDefault? (freshAfter true prior) s).isSome) := by
  rw [anyDefault_append, anyDefault_append, cutDefault?_append h]
  cases cutDefault? true prior <;> simp

/-- Texts can be taken one after the other. -/
theorem bindText_append {s : List Char} (h : Complete s) (found fresh : Bool) (t : List Char) :
    bindText found fresh (s ++ t)
      = bindText found fresh s
        ++ bindText (found || (cutDefault? fresh s).isSome) (freshAfter fresh s) t := by
  cases found with
  | true => exact reline_append (.inl h.last)
  | false =>
      have happend := cutDefault?_append h.ended fresh t
      cases hcut : cutDefault? fresh s with
      | some cut =>
          obtain ⟨-, ws, -, hs⟩ := cutDefault?_eq_some hcut
          have hlast : cut.2.getLast? ≠ some '\r' := by
            intro hlast
            apply h.last
            rw [hs, ← List.append_assoc, ← List.append_assoc]
            simp [List.getLast?_append, hlast]
          rw [hcut] at happend
          rw [bindText_some happend, bindText_some hcut, reline_append (.inl hlast)]
          simp [bindText_found]
      | none =>
          rw [hcut] at happend
          rw [bindText_none hcut]
          cases hrest : cutDefault? (freshAfter fresh s) t with
          | none =>
              rw [hrest] at happend
              rw [bindText_none happend, reline_append (.inl h.last)]
              simp [bindText_none hrest]
          | some cut =>
              rw [hrest] at happend
              rw [bindText_some happend, reline_append (.inl h.last)]
              simp [bindText_some hrest]

theorem bindText_nil (found fresh : Bool) : bindText found fresh [] = [] := by
  cases found <;> rfl

/-- The statements of a block can be taken one by one. -/
theorem flatten_images (before : List (List Char)) (prior : List Char) {ss : List (List Char)}
    (hprior : Ended prior) (h : ∀ s ∈ ss.dropLast, Complete s) :
    ((blockSites before prior ss).map Site.image).flatten
      = bindText (anyDefault (before ++ [prior])) (freshAfter true prior) ss.flatten := by
  induction ss generalizing prior with
  | nil => exact (bindText_nil _ _).symm
  | cons s rest ih =>
      cases rest with
      | nil => simp [blockSites, Site.image]
      | cons next rest =>
          obtain ⟨hs, hrest⟩ := List.forall_mem_cons.mp h
          have hflatten : (s :: next :: rest).flatten = s ++ (next :: rest).flatten := rfl
          rw [blockSites, List.map_cons, List.flatten_cons, ih _ (hprior.append hs.ended) hrest,
            hflatten, bindText_append hs, anyDefault_next hprior, freshAfter_append]
          rfl

/-! ## Blocks of a document -/

/-- The statements of blocks, after blocks with the texts `before`. -/
def sitesFrom (before : List (List Char)) : List (List (List Char)) → List Site
  | [] => []
  | block :: rest => blockSites before [] block ++ sitesFrom (before ++ [block.flatten]) rest

/-- What stands in the module for blocks, statement by statement. -/
def imagesFrom (before : List (List Char)) : List (List (List Char)) → List (List Char)
  | [] => []
  | block :: rest =>
    (blockSites before [] block).map Site.image
      ++ blockEnd block.flatten :: imagesFrom (before ++ [block.flatten]) rest

theorem bindLayouts_flag (found : Bool) (texts : List (List Char)) :
    (bindLayouts found texts).1 = (found || anyDefault texts) := by
  induction texts generalizing found with
  | nil => simp [bindLayouts, anyDefault]
  | cons s texts ih =>
      rw [bindLayouts]
      simp only [ih, (bindLayout_lines found s).1]
      simp [anyDefault, Bool.or_assoc]

/-- The blocks of a document can be taken statement by statement. -/
theorem typeset_bindLayouts (before : List (List Char)) {blocks : List (List (List Char))}
    (h : ∀ block ∈ blocks, ∀ s ∈ block.dropLast, Complete s) :
    typeset (bindLayouts (anyDefault before) (blocks.map List.flatten)).2
      = (imagesFrom before blocks).flatten := by
  induction blocks generalizing before with
  | nil => rfl
  | cons block blocks ih =>
      obtain ⟨hblock, hblocks⟩ := List.forall_mem_cons.mp h
      obtain ⟨hflag, htext⟩ := bindLayout_lines (anyDefault before) block.flatten
      have hstart : anyDefault (before ++ [[]]) = anyDefault before :=
        (anyDefault_append before []).trans (Bool.or_false _)
      have himages : ((blockSites before [] block).map Site.image).flatten
          = bindText (anyDefault before) true block.flatten := by
        rw [flatten_images before [] (.inl rfl) hblock, hstart]
        rfl
      rw [List.map_cons, bindLayouts, imagesFrom, List.flatten_append, List.flatten_cons, himages]
      simp only [hflag, ← anyDefault_append, typeset_cons, ih _ hblocks]
      rw [← List.append_assoc (bindText _ _ _), ← htext]
      simp

end Mdx.Module
