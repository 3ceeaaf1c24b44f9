import Mdx.Proofs.Dict
import Mdx.Proofs.Json.Reading

/-!
# Nesting of JSON values and texts

How deep arrays and objects nest, once in a value and once in a text, where it is told from the
brackets outside strings alone. The two agree on the text of a value. A spelling has a meaning up
to a given depth only, and that meaning has the keys of every object in order.
-/

namespace Mdx.Json

open Spelling

/-! ## Values -/

mutual

/-- How deep arrays and objects nest in a value. -/
def depth : Json → Nat
  | .arr items => itemsDepth items + 1
  | .obj fields => fieldsDepth fields + 1
  | .null | .bool _ | .num _ | .str _ => 0

/-- The depth of the deepest item. -/
def itemsDepth : List Json → Nat
  | [] => 0
  | item :: rest => max (depth item) (itemsDepth rest)

/-- The depth of the deepest value among fields. -/
def fieldsDepth : List (String × Json) → Nat
  | [] => 0
  | (_, value) :: rest => max (depth value) (fieldsDepth rest)

end

theorem itemsDepth_le_iff {items : List Json} {k : Nat} :
    itemsDepth items ≤ k ↔ ∀ v ∈ items, v.depth ≤ k := by
  induction items with
  | nil => simp [itemsDepth]
  | cons v rest ih => rw [itemsDepth, Nat.max_le, ih, List.forall_mem_cons]

theorem fieldsDepth_le_iff {fields : List (String × Json)} {k : Nat} :
    fieldsDepth fields ≤ k ↔ ∀ field ∈ fields, field.2.depth ≤ k := by
  induction fields with
  | nil => simp [fieldsDepth]
  | cons field rest ih => rw [fieldsDepth, Nat.max_le, ih, List.forall_mem_cons]

theorem depth_lt_arr {v : Json} {items : List Json} (h : v ∈ items) :
    v.depth < (Json.arr items).depth := by
  rw [depth]
  exact Nat.lt_succ_of_le (itemsDepth_le_iff.mp (Nat.le_refl _) v h)

theorem depth_lt_obj {field : String × Json} {fields : List (String × Json)}
    (h : field ∈ fields) : field.2.depth < (Json.obj fields).depth := by
  rw [depth]
  exact Nat.lt_succ_of_le (fieldsDepth_le_iff.mp (Nat.le_refl _) field h)

mutual

/-- The value with the keys of every object in order; of repeated keys the last one counts. -/
def canonical : Json → Json
  | .arr items => .arr (canonicalItems items)
  | .obj fields => .obj (Dict.ofList (canonicalFields fields))
  | .null => .null
  | .bool b => .bool b
  | .num n => .num n
  | .str s => .str s

/-- Items with all keys in order. -/
def canonicalItems : List Json → List Json
  | [] => []
  | item :: rest => canonical item :: canonicalItems rest

/-- Fields, in the given order, with all keys inside them in order. -/
def canonicalFields : List (String × Json) → List (String × Json)
  | [] => []
  | (key, value) :: rest => (key, canonical value) :: canonicalFields rest

end

/-- The spelling of a value means that value with its keys in order, if it is not too deep. -/
def Means (v : Json) : Prop :=
  ∀ k, (ofJson v).value? k = if v.depth ≤ k then some v.canonical else none

theorem itemValues?_ofItems {list : List Json} (h : ∀ v ∈ list, Means v) (k : Nat) :
    itemValues? k (ofItems list)
      = if itemsDepth list ≤ k then some (canonicalItems list) else none := by
  induction list with
  | nil => simp [ofItems, itemValues?, itemsDepth, canonicalItems]
  | cons v rest ih =>
      have hv := h v (by simp) k
      have hrest := ih fun w hw => h w (List.mem_cons_of_mem _ hw)
      simp only [ofItems, itemValues?, itemsDepth, canonicalItems, hv, hrest, Nat.max_le]
      by_cases hd : v.depth ≤ k <;> by_cases hr : itemsDepth rest ≤ k <;> simp [hd, hr]

theorem fieldValues?_ofFields {list : List (String × Json)} (h : ∀ field ∈ list, Means field.2)
    (k : Nat) :
    fieldValues? k (ofFields list)
      = if fieldsDepth list ≤ k then some (canonicalFields list) else none := by
  induction list with
  | nil => simp [ofFields, fieldValues?, fieldsDepth, canonicalFields]
  | cons field rest ih =>
      obtain ⟨key, v⟩ := field
      have hv : (ofJson v).value? k = if v.depth ≤ k then some v.canonical else none :=
        h (key, v) (by simp) k
      have hrest := ih fun w hw => h w (List.mem_cons_of_mem _ hw)
      simp only [ofFields, fieldValues?, fieldsDepth, canonicalFields, hv, hrest, Nat.max_le]
      by_cases hd : v.depth ≤ k <;> by_cases hr : fieldsDepth rest ≤ k <;> simp [hd, hr]

/-- What the spelling of a value means. -/
theorem value?_ofJson (v : Json) (k : Nat) :
    (ofJson v).value? k = if v.depth ≤ k then some v.canonical else none := by
  induction v using nested generalizing k with
  | null => simp [ofJson, value?, depth, canonical]
  | bool b => simp [ofJson, value?, depth, canonical]
  | num n => simp [ofJson, value?, depth, canonical]
  | str s => simp [ofJson, value?, depth, canonical]
  | arr list ih =>
      cases k with
      | zero => simp [ofJson, value?, depth]
      | succ k =>
          rw [ofJson, value?, itemValues?_ofItems ih, depth, canonical]
          by_cases h : itemsDepth list ≤ k <;> simp [h]
  | obj list ih =>
      cases k with
      | zero => simp [ofJson, value?, depth]
      | succ k =>
          rw [ofJson, value?, fieldValues?_ofFields ih, depth, canonical]
          by_cases h : fieldsDepth list ≤ k <;> simp [h]

theorem canonicalItems_eq_map (items : List Json) : canonicalItems items = items.map canonical := by
  induction items with
  | nil => rfl
  | cons v rest ih => rw [canonicalItems, ih, List.map_cons]

theorem canonicalFields_eq_map (fields : List (String × Json)) :
    canonicalFields fields = fields.map fun field => (field.1, field.2.canonical) := by
  induction fields with
  | nil => rfl
  | cons field rest ih => rw [canonicalFields, ih, List.map_cons]

/-- A value whose keys are in order stays as it is. -/
theorem canonical_eq {v : Json} (hv : v.Ordered) : v.canonical = v := by
  induction v using nested with
  | null => rfl
  | bool b => rfl
  | num n => rfl
  | str s => rfl
  | arr list ih =>
      rw [ordered_arr] at hv
      have hitems : list.map canonical = list.map id :=
        List.map_congr_left fun v hmem => ih v hmem (hv v hmem)
      rw [canonical, canonicalItems_eq_map, hitems, List.map_id]
  | obj list ih =>
      rw [ordered_obj] at hv
      have hfields : list.map (fun field => (field.1, field.2.canonical)) = list.map id :=
        List.map_congr_left fun field hmem => by rw [ih field hmem (hv.2 field hmem)]; rfl
      rw [canonical, canonicalFields_eq_map, hfields, List.map_id, Dict.ofList_of_sorted hv.1]

/-- Putting keys in order nests nothing deeper. -/
theorem depth_canonical_le (v : Json) : v.canonical.depth ≤ v.depth := by
  induction v using nested with
  | null => exact Nat.le_refl _
  | bool b => exact Nat.le_refl _
  | num n => exact Nat.le_refl _
  | str s => exact Nat.le_refl _
  | arr items ih =>
      rw [canonical, depth, depth, canonicalItems_eq_map]
      refine Nat.succ_le_succ (itemsDepth_le_iff.mpr fun w hw => ?_)
      obtain ⟨v, hmem, rfl⟩ := List.mem_map.mp hw
      exact Nat.le_trans (ih v hmem) (itemsDepth_le_iff.mp (Nat.le_refl _) v hmem)
  | obj fields ih =>
      rw [canonical, depth, depth, canonicalFields_eq_map]
      -- Ordering the keys can drop fields, never add one.
      refine Nat.succ_le_succ (fieldsDepth_le_iff.mpr fun w hw => ?_)
      obtain ⟨field, hmem, rfl⟩ := List.mem_map.mp (Dict.mem_ofList hw)
      exact Nat.le_trans (ih field hmem) (fieldsDepth_le_iff.mp (Nat.le_refl _) field hmem)

/-! ## Texts -/

/-- A scan for brackets: how many are open, how many were open at once, and whether the scan is
inside a string or behind a backslash in one. -/
structure Scan where
  level : Nat := 0
  deepest : Nat := 0
  inString : Bool := false
  escaped : Bool := false

namespace Scan

/-- Scans one character. -/
def step (s : Scan) (c : Char) : Scan :=
  if s.escaped then { s with escaped := false }
  else if s.inString then
    if c = '\\' then { s with escaped := true }
    else if c = '"' then { s with inString := false }
    else s
  else if c = '"' then { s with inString := true }
  else if c = '[' || c = '\x7b' then
    { s with level := s.level + 1, deepest := max s.deepest (s.level + 1) }
  else if c = ']' || c = '\x7d' then { s with level := s.level - 1 }
  else s

/-- Scans a text. -/
def run (s : Scan) (text : List Char) : Scan :=
  text.foldl step s

end Scan

/-- How deep brackets nest in a text, those inside strings apart. -/
def nesting (text : String) : Nat :=
  (Scan.run {} text.toList).deepest

namespace Scan

theorem run_append (s : Scan) (a b : List Char) : s.run (a ++ b) = (s.run a).run b := by
  simp [run]

/-- Between values nothing is open but brackets. -/
def outside (level deepest : Nat) : Scan :=
  { level := level, deepest := deepest }

/-- Inside a string. -/
def inside (level deepest : Nat) : Scan :=
  { level := level, deepest := deepest, inString := true }

theorem step_inside {c : Char} (hquote : c ≠ '"') (hslash : c ≠ '\\') (l m : Nat) :
    (inside l m).step c = inside l m := by
  simp [step, inside, hquote, hslash]

theorem step_escape (c : Char) (l m : Nat) :
    (inside l m).run ['\\', c] = inside l m := by
  simp [run, step, inside]

/-- The digits of an escape end no string. -/
theorem hexDigit_ne : ∀ n, n < 16 → hexDigit n ≠ '"' ∧ hexDigit n ≠ '\\' := by
  decide

theorem run_escapeChar (c : Char) (l m : Nat) : (inside l m).run (escapeChar c) = inside l m := by
  obtain ⟨e, hescape, -⟩ | ⟨hescape, hlow⟩ | ⟨hescape, hquote, hslash, -⟩ := escapeChar_cases c
  · rw [hescape, step_escape]
  · have hhigh := hexDigit_ne (c.toNat / 16) (by omega)
    have hrem := hexDigit_ne (c.toNat % 16) (by omega)
    have hsplit : ∀ x y : Char, ['\\', 'u', '0', '0', x, y] = ['\\', 'u'] ++ ['0', '0', x, y] :=
      fun _ _ => rfl
    rw [hescape, hsplit, run_append, step_escape]
    simp only [run, List.foldl_cons, List.foldl_nil]
    rw [step_inside (by decide) (by decide), step_inside (by decide) (by decide),
      step_inside hhigh.1 hhigh.2, step_inside hrem.1 hrem.2]
  · rw [hescape]
    exact step_inside hquote hslash l m

theorem run_escaped (text : List Char) (l m : Nat) :
    (inside l m).run (text.flatMap escapeChar) = inside l m := by
  induction text with
  | nil => rfl
  | cons c text ih => rw [List.flatMap_cons, run_append, run_escapeChar, ih]

/-- A string leaves a scan as it was, whatever brackets are in it. -/
theorem run_quote (s : String) (l m : Nat) : (outside l m).run (quote s) = outside l m := by
  have hopen : (outside l m).step '"' = inside l m := by simp [step, outside, inside]
  have hclose : (inside l m).run ['"'] = outside l m := by simp [run, step, outside, inside]
  calc (outside l m).run (quote s)
      = ((outside l m).step '"').run (s.toList.flatMap escapeChar ++ ['"']) := rfl
    _ = outside l m := by rw [hopen, run_append, run_escaped, hclose]

/-- A character that is no quote and no bracket. -/
def isPlain (c : Char) : Bool :=
  c != '"' && c != '[' && c != ']' && c != '\x7b' && c != '\x7d'

theorem run_plain {text : List Char} (h : ∀ c ∈ text, isPlain c = true) (l m : Nat) :
    (outside l m).run text = outside l m := by
  induction text with
  | nil => rfl
  | cons c text ih =>
      have hc : isPlain c = true := h c (by simp)
      simp only [isPlain, Bool.and_eq_true, bne_iff_ne] at hc
      have hstep : (outside l m).step c = outside l m := by simp [step, outside, hc]
      rw [show c :: text = [c] ++ text from rfl, run_append]
      rw [show (outside l m).run [c] = (outside l m).step c from rfl, hstep]
      exact ih fun d hd => h d (List.mem_cons_of_mem _ hd)

theorem isPlain_of_digit {c : Char} (h : c.isDigit = true) : isPlain c = true := by
  simp only [isPlain, Bool.and_eq_true, bne_iff_ne]
  refine ⟨⟨⟨⟨?_, ?_⟩, ?_⟩, ?_⟩, ?_⟩ <;> (rintro rfl; exact absurd h (by decide))

theorem run_number {n : Number} (hn : n.Fits) (l m : Nat) :
    (outside l m).run n.chars = outside l m := by
  cases n with
  | float value => exact absurd hn (by simp [Number.Fits])
  | int value =>
      apply run_plain
      intro c hc
      rw [Number.chars, List.mem_append] at hc
      rcases hc with hc | hc
      · by_cases hneg : value < 0
        · obtain rfl : c = '-' := by simpa [hneg] using hc
          decide
        · simp [hneg] at hc
      · exact isPlain_of_digit (Nat.isDigit_of_mem_toDigits (by decide) (by decide) hc)

/-- What a scan does with the text of a value: it ends at the level where it began, having been as
much deeper as the value is deep. -/
def Counts (v : Json) : Prop :=
  v.Integral → ∀ l m, l ≤ m → (outside l m).run v.chars = outside l (max m (l + v.depth))

theorem run_open {c : Char} (hc : c = '[' ∨ c = '\x7b') (l m : Nat) (text : List Char) :
    (outside l m).run (c :: text) = (outside (l + 1) (max m (l + 1))).run text := by
  rcases hc with rfl | rfl <;> simp [run, step, outside]

theorem run_close {c : Char} (hc : c = ']' ∨ c = '\x7d') (l m : Nat) :
    (outside (l + 1) m).run [c] = outside l m := by
  rcases hc with rfl | rfl <;> simp [run, step, outside]

theorem run_cons_plain {c : Char} (hc : isPlain c = true) (l m : Nat) (text : List Char) :
    (outside l m).run (c :: text) = (outside l m).run text := by
  rw [show c :: text = [c] ++ text from rfl, run_append, run_plain (by simpa using hc)]

theorem run_itemChars {list : List Json} (hcounts : ∀ v ∈ list, Counts v)
    (hint : ∀ v ∈ list, v.Integral) {l m : Nat} (hlm : l ≤ m) :
    (outside l m).run (itemChars list) = outside l (max m (l + itemsDepth list)) := by
  induction list generalizing m with
  | nil => simp [itemChars, itemsDepth, run, Nat.max_eq_left hlm]
  | cons x rest ih =>
      have hx := hcounts x (by simp) (hint x (by simp)) l m hlm
      have hrest := ih (fun v hv => hcounts v (List.mem_cons_of_mem _ hv))
        (fun v hv => hint v (List.mem_cons_of_mem _ hv))
        (show l ≤ max m (l + x.depth) by omega)
      have hmax : max (max m (l + x.depth)) (l + itemsDepth rest)
          = max m (l + itemsDepth (x :: rest)) := by
        rw [itemsDepth]
        omega
      cases rest with
      | nil =>
          rw [← hmax, itemChars, hx]
          simp [itemsDepth]
      | cons y more =>
          rw [itemChars_cons, run_append, hx, run_cons_plain (by decide), hrest, hmax]

theorem run_fieldChars {list : List (String × Json)} (hcounts : ∀ field ∈ list, Counts field.2)
    (hint : ∀ field ∈ list, field.2.Integral) {l m : Nat} (hlm : l ≤ m) :
    (outside l m).run (fieldChars list) = outside l (max m (l + fieldsDepth list)) := by
  induction list generalizing m with
  | nil => simp [fieldChars, fieldsDepth, run, Nat.max_eq_left hlm]
  | cons field rest ih =>
      obtain ⟨key, x⟩ := field
      have hx : (outside l m).run x.chars = outside l (max m (l + x.depth)) :=
        hcounts (key, x) (by simp) (hint (key, x) (by simp)) l m hlm
      have hrest := ih (fun v hv => hcounts v (List.mem_cons_of_mem _ hv))
        (fun v hv => hint v (List.mem_cons_of_mem _ hv))
        (show l ≤ max m (l + x.depth) by omega)
      have hmax : max (max m (l + x.depth)) (l + fieldsDepth rest)
          = max m (l + fieldsDepth ((key, x) :: rest)) := by
        rw [fieldsDepth]
        omega
      cases rest with
      | nil =>
          rw [← hmax, fieldChars, run_append, run_quote, run_cons_plain (by decide), hx]
          simp [fieldsDepth]
      | cons y more =>
          rw [fieldChars_cons, run_append, run_quote, run_cons_plain (by decide), run_append, hx,
            run_cons_plain (by decide), hrest, hmax]

theorem counts (v : Json) : Counts v := by
  induction v using nested with
  | null =>
      intro _ l m hlm
      have hplain : ∀ c ∈ Json.null.chars, isPlain c = true := List.all_eq_true.mp (by decide)
      rw [run_plain hplain, depth, Nat.add_zero, Nat.max_eq_left hlm]
  | bool b =>
      intro _ l m hlm
      have hplain : ∀ c ∈ (Json.bool b).chars, isPlain c = true := by
        cases b <;> exact List.all_eq_true.mp (by decide)
      rw [run_plain hplain, depth, Nat.add_zero, Nat.max_eq_left hlm]
  | num n =>
      intro hn l m hlm
      have hfits : n.Fits := (integral_num n).mp hn
      rw [chars, run_number hfits, depth, Nat.add_zero, Nat.max_eq_left hlm]
  | str s =>
      intro _ l m hlm
      rw [chars, run_quote, depth, Nat.add_zero, Nat.max_eq_left hlm]
  | arr list ih =>
      intro hlist l m hlm
      rw [chars, run_open (by simp), run_append,
        run_itemChars ih ((integral_arr list).mp hlist) (by omega), run_close (by simp), depth]
      congr 1
      omega
  | obj list ih =>
      intro hlist l m hlm
      rw [chars, run_open (by simp), run_append,
        run_fieldChars ih ((integral_obj list).mp hlist) (by omega), run_close (by simp), depth]
      congr 1
      omega

end Scan

theorem Scan.deepest_step (s : Scan) (c : Char) :
    (s.step c).level ≤ s.level + 1 ∧ (s.step c).deepest ≤ max s.deepest (s.level + 1) := by
  constructor <;> grind [step]

/-- Brackets nest no deeper than there are characters. -/
theorem Scan.deepest_run (text : List Char) (s : Scan) :
    (s.run text).deepest ≤ max s.deepest (s.level + text.length) := by
  induction text generalizing s with
  | nil => exact Nat.le_max_left _ _
  | cons c text ih =>
      have hstep := s.deepest_step c
      have hrest := ih (s.step c)
      rw [show s.run (c :: text) = (s.step c).run text from rfl, List.length_cons]
      omega

/-- The brackets of a value's text nest as deep as the value. -/
theorem nesting_text {v : Json} (hv : v.Integral) : nesting v.text = v.depth := by
  have hrun := Scan.counts v hv 0 0 (Nat.le_refl 0)
  rw [nesting, text, String.toList_ofList, show ({} : Scan) = Scan.outside 0 0 from rfl, hrun]
  simp [Scan.outside]

theorem depth_le_length {v : Json} (hv : v.Integral) : v.depth ≤ v.chars.length := by
  have hrun := Scan.counts v hv 0 0 (Nat.le_refl 0)
  have hdeepest := Scan.deepest_run v.chars (Scan.outside 0 0)
  rw [hrun] at hdeepest
  simp only [Scan.outside] at hdeepest
  omega

end Mdx.Json
