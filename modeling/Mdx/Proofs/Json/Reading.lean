import Mdx.Json.Spelling

/-!
# Reading back JSON texts

The text of a value is spelled as the value itself: strings through their escapes, integers through
their digits, arrays and objects through their separators. Everything is stated with a text that
follows, so that the laws apply inside longer texts.
-/

namespace Mdx.Json

open Spelling

/-! ## Strings -/

theorem hex?_hexDigit : ∀ n, n < 16 → hex? (hexDigit n) = some n := by
  decide

/-- A character stands in a string after a backslash, as two hexadecimal digits, or as it is. -/
theorem escapeChar_cases (c : Char) :
    (∃ e, escapeChar c = ['\\', e] ∧ e ≠ 'u' ∧ escaped? e = some c) ∨
    (escapeChar c = ['\\', 'u', '0', '0', hexDigit (c.toNat / 16), hexDigit (c.toNat % 16)] ∧
      c.toNat < 0x20) ∨
    (escapeChar c = [c] ∧ c ≠ '"' ∧ c ≠ '\\' ∧ ¬ c.toNat < 0x20) := by
  have hback : ∀ n, c.toNat = n → Char.ofNat n = c := fun n hn => hn ▸ Char.ofNat_toNat c
  by_cases hquote : c = '"'
  · exact .inl ⟨'"', by rw [hquote]; rfl, by decide, by rw [hquote]; rfl⟩
  by_cases hslash : c = '\\'
  · exact .inl ⟨'\\', by rw [hslash]; rfl, by decide, by rw [hslash]; rfl⟩
  by_cases hb : c.toNat = 0x08
  · exact .inl ⟨'b', by rw [← hback _ hb]; rfl, by decide, congrArg some (hback _ hb)⟩
  by_cases hf : c.toNat = 0x0c
  · exact .inl ⟨'f', by rw [← hback _ hf]; rfl, by decide, congrArg some (hback _ hf)⟩
  by_cases hn : c = '\n'
  · exact .inl ⟨'n', by rw [hn]; rfl, by decide, by rw [hn]; rfl⟩
  by_cases hr : c = '\r'
  · exact .inl ⟨'r', by rw [hr]; rfl, by decide, by rw [hr]; rfl⟩
  by_cases ht : c = '\t'
  · exact .inl ⟨'t', by rw [ht]; rfl, by decide, by rw [ht]; rfl⟩
  rw [escapeChar, if_neg hquote, if_neg hslash, if_neg hb, if_neg hf, if_neg hn, if_neg hr,
    if_neg ht]
  by_cases hlow : c.toNat < 0x20
  · exact .inr (.inl ⟨if_pos hlow, hlow⟩)
  · exact .inr (.inr ⟨if_neg hlow, hquote, hslash, hlow⟩)

/-- A character after a backslash is one unit, that of the character it stands for. -/
theorem units_escape {e c : Char} (hu : e ≠ 'u') (hc : escaped? e = some c) (rest : List Char) :
    units ('\\' :: e :: rest) = (units rest).map fun (us, r) => (c.toNat :: us, r) := by
  rw [units.eq_def]
  split
  · rename_i h
    cases h
  · rename_i h
    exact absurd (List.cons.inj h).1 (by decide)
  · rename_i h
    exact absurd (List.cons.inj (List.cons.inj h).2).1 hu
  · rename_i h
    obtain ⟨rfl, rfl⟩ := List.cons.inj (List.cons.inj h).2
    rw [hc]
    cases units rest <;> rfl
  · rename_i hother h
    obtain ⟨hslash, hrest⟩ := List.cons.inj h
    exact (hother e rest hslash.symm hrest.symm).elim

/-- A character that needs no escape is one unit. -/
theorem units_plain {c : Char} (hquote : c ≠ '"') (hslash : c ≠ '\\') (hlow : ¬ c.toNat < 0x20)
    (rest : List Char) :
    units (c :: rest) = (units rest).map fun (us, r) => (c.toNat :: us, r) := by
  have hplain : (decide (c.toNat < 0x20) || decide (c = '\\')) = false := by
    rw [decide_eq_false hlow, decide_eq_false hslash]
    rfl
  rw [units.eq_def]
  split
  · rename_i h
    cases h
  · rename_i h
    exact absurd (List.cons.inj h).1 hquote
  · rename_i h
    exact absurd (List.cons.inj h).1 hslash
  · rename_i h
    exact absurd (List.cons.inj h).1 hslash
  · rename_i h
    obtain ⟨rfl, rfl⟩ := List.cons.inj h
    rw [hplain]
    rfl

/-- A control character is spelled by two hexadecimal digits. -/
theorem units_control {c : Char} (hlow : c.toNat < 0x20) (rest : List Char) :
    units ('\\' :: 'u' :: '0' :: '0' :: hexDigit (c.toNat / 16) :: hexDigit (c.toNat % 16) :: rest)
      = (units rest).map fun (us, r) => (c.toNat :: us, r) := by
  have hhigh := hex?_hexDigit (c.toNat / 16) (by omega)
  have hrem := hex?_hexDigit (c.toNat % 16) (by omega)
  have hzero : hex? '0' = some 0 := by decide
  have hsum : ((0 * 16 + 0) * 16 + c.toNat / 16) * 16 + c.toNat % 16 = c.toNat := by omega
  rw [units]
  simp only [hex4?, hzero, hhigh, hrem, Option.bind_eq_bind, Option.bind_some, Option.pure_def,
    hsum]
  cases units rest <;> rfl

/-- The escape of a character is read as that character. -/
theorem units_escapeChar (c : Char) (rest : List Char) :
    units (escapeChar c ++ rest) = (units rest).map fun (us, r) => (c.toNat :: us, r) := by
  obtain ⟨e, hescape, hu, he⟩ | ⟨hescape, hlow⟩ | ⟨hescape, hquote, hslash, hlow⟩ :=
    escapeChar_cases c
  · rw [hescape]
    exact units_escape hu he rest
  · rw [hescape]
    exact units_control hlow rest
  · rw [hescape]
    exact units_plain hquote hslash hlow rest

theorem units_escaped (s rest : List Char) :
    units (s.flatMap escapeChar ++ '"' :: rest) = some (s.map Char.toNat, rest) := by
  induction s with
  | nil => simp [units]
  | cons c s ih =>
      rw [List.flatMap_cons, List.append_assoc, units_escapeChar, ih]
      rfl

/-- Characters are never halves of surrogate pairs. -/
theorem joinUnits_toNat (s : List Char) : joinUnits (s.map Char.toNat) = some s := by
  induction s with
  | nil => rfl
  | cons c s ih =>
      have hvalid := c.valid
      have hlow : isLow c.toNat = false := by
        simp only [isLow, Bool.and_eq_false_iff, decide_eq_false_iff_not]
        have := c.toNat_val
        rcases hvalid with h | h <;> omega
      have hhigh : isHigh c.toNat = false := by
        simp only [isHigh, Bool.and_eq_false_iff, decide_eq_false_iff_not]
        have := c.toNat_val
        rcases hvalid with h | h <;> omega
      rw [List.map_cons, joinUnits.eq_def]
      simp [hlow, hhigh, ih, Char.ofNat_toNat]

/-- A quoted string is read after its opening quote. -/
theorem string?_quoted (s : String) (rest : List Char) :
    string? (s.toList.flatMap escapeChar ++ '"' :: rest) = some (some s, rest) := by
  simp [string?, units_escaped, joinUnits_toNat, String.ofList_toList]

theorem quote_append (s : String) (rest : List Char) :
    quote s ++ rest = '"' :: (s.toList.flatMap escapeChar ++ '"' :: rest) := by
  simp [quote]

/-! ## Integers -/

namespace Number

/-- The text cannot go on with a number that ended before it. -/
def Ends (rest : List Char) : Prop :=
  ∀ c ∈ rest.head?, c.isDigit = false ∧ c ≠ '.' ∧ c ≠ 'e' ∧ c ≠ 'E'

theorem spanDigits_append {digits rest : List Char} (h : ∀ c ∈ digits, c.isDigit = true)
    (hrest : Ends rest) : spanDigits (digits ++ rest) = (digits, rest) := by
  have hstop : rest.takeWhile Char.isDigit = [] ∧ rest.dropWhile Char.isDigit = rest := by
    cases rest with
    | nil => simp
    | cons c rest => simp [(hrest c (by simp)).1]
  rw [spanDigits, List.takeWhile_append_of_pos h, List.dropWhile_append_of_pos h, hstop.1, hstop.2,
    List.append_nil]

/-- Only zero is written with a leading zero. -/
theorem toDigits_head {n : Nat} (hn : 0 < n) : (Nat.toDigits 10 n).head? ≠ some '0' := by
  -- The first digit stays the same when the last is taken away.
  induction n using Nat.strongRecOn with
  | ind n ih =>
      have hdigit : ∀ m, m < 10 → 0 < m → Nat.digitChar m ≠ '0' := by decide
      by_cases h : n < 10
      · rw [Nat.toDigits_of_lt_base h]
        simpa using hdigit n h hn
      · rw [Nat.toDigits_of_base_le (by decide) (by omega)]
        cases hds : Nat.toDigits 10 (n / 10) with
        | nil => exact absurd hds Nat.toDigits_ne_nil
        | cons d ds =>
            have := ih (n / 10) (by omega) (by omega)
            simpa [hds] using this

theorem whole?_toDigits (n : Nat) {rest : List Char} (hrest : Ends rest) :
    whole? (Nat.toDigits 10 n ++ rest) = some (Nat.toDigits 10 n, rest) := by
  have hdigits : ∀ c ∈ Nat.toDigits 10 n, c.isDigit = true := fun c hc =>
    Nat.isDigit_of_mem_toDigits (by decide) (by decide) hc
  rw [whole?, spanDigits_append hdigits hrest]
  split
  · rename_i h
    simp only [Prod.mk.injEq] at h
    exact absurd h.1 Nat.toDigits_ne_nil
  · rename_i c more _ h
    simp only [Prod.mk.injEq] at h
    by_cases hn : n = 0
    · subst hn
      simp [Nat.toDigits_zero] at h
    · exact absurd (by rw [h.1]; rfl) (toDigits_head (n := n) (by omega))
  · rename_i h
    simp only [Prod.mk.injEq] at h
    rw [h.1, h.2]

/-- Reading digits never makes the number smaller. -/
theorem le_ofDigitChars (digits : List Char) (start : Nat) :
    start ≤ Nat.ofDigitChars 10 digits start := by
  induction digits generalizing start with
  | nil => simp
  | cons c digits ih =>
      rw [Nat.ofDigitChars_cons]
      exact Nat.le_trans (by omega) (ih _)

theorem accumulate_eq {digits : List Char} {start : Nat}
    (h : Nat.ofDigitChars 10 digits start < 0x10000000000000000) :
    accumulate start digits = (Nat.ofDigitChars 10 digits start, []) := by
  induction digits generalizing start with
  | nil => simp [accumulate]
  | cons c digits ih =>
      have hnext : start * 10 + (c.toNat - 0x30) = 10 * start + (c.toNat - '0'.toNat) := by
        rw [Nat.mul_comm]
        rfl
      rw [Nat.ofDigitChars_cons, ← hnext] at h ⊢
      have hfits : start * 10 + (c.toNat - 0x30) < 0x10000000000000000 :=
        Nat.lt_of_le_of_lt (le_ofDigitChars digits _) h
      simp only [accumulate, hfits, if_true]
      exact ih h

theorem accumulate_toDigits {n : Nat} (h : n < 0x10000000000000000) :
    accumulate 0 (Nat.toDigits 10 n) = (n, []) := by
  have hn : Nat.ofDigitChars 10 (Nat.toDigits 10 n) 0 = n := Nat.ofDigitChars_ten_toDigits
  rw [accumulate_eq (hn.symm ▸ h), hn]

theorem value?_natural {n : Nat} (h : n < 0x10000000000000000) :
    Numeral.value? ⟨false, Nat.toDigits 10 n, none, none⟩ = some (.int n) := by
  simp only [Numeral.value?, accumulate_toDigits h]
  rfl

theorem value?_negative {n : Nat} (hzero : n ≠ 0) (h : n ≤ 0x8000000000000000) :
    Numeral.value? ⟨true, Nat.toDigits 10 n, none, none⟩ = some (.int (-n)) := by
  have hinteger : ¬ (n == 0 || decide (n > 0x8000000000000000)) = true := by
    rw [Bool.or_eq_true, beq_iff_eq, decide_eq_true_iff]
    omega
  simp only [Numeral.value?, accumulate_toDigits (show n < 0x10000000000000000 by omega)]
  exact if_neg hinteger

/-- An integer that reading gives back: it fits into 64 bits, with or without a sign. -/
def Fits : Number → Prop
  | .int value => -0x8000000000000000 ≤ value ∧ value < 0x10000000000000000
  | .float _ => False

theorem fraction?_ends {rest : List Char} (h : Ends rest) :
    fraction? rest = some (none, rest) := by
  cases rest with
  | nil => rfl
  | cons c rest =>
      have hc := (h c (by simp)).2.1
      rw [fraction?.eq_def]
      split <;> simp_all

theorem exponent?_ends {rest : List Char} (h : Ends rest) :
    exponent? rest = some (none, rest) := by
  cases rest with
  | nil => rfl
  | cons c rest =>
      obtain ⟨-, -, he, hE⟩ := h c (by simp)
      simp [exponent?, he, hE]

/-- The first character of digits is not a sign. -/
theorem toDigits_append_ne_minus (n : Nat) (rest more : List Char) :
    Nat.toDigits 10 n ++ rest ≠ '-' :: more := by
  cases hds : Nat.toDigits 10 n with
  | nil => exact absurd hds Nat.toDigits_ne_nil
  | cons d ds =>
      have hd : d.isDigit = true :=
        Nat.isDigit_of_mem_toDigits (b := 10) (n := n) (by decide) (by decide) (by rw [hds]; simp)
      intro heq
      simp only [List.cons_append, List.cons.injEq] at heq
      rw [heq.1] at hd
      exact absurd hd (by decide)

theorem numeral?_natural (n : Nat) {rest : List Char} (hrest : Ends rest) :
    numeral? (Nat.toDigits 10 n ++ rest) = some (⟨false, Nat.toDigits 10 n, none, none⟩, rest) := by
  rw [numeral?]
  · simp [whole?_toDigits n hrest, fraction?_ends hrest, exponent?_ends hrest]
  · exact toDigits_append_ne_minus n rest

theorem numeral?_negative (n : Nat) {rest : List Char} (hrest : Ends rest) :
    numeral? ('-' :: (Nat.toDigits 10 n ++ rest))
      = some (⟨true, Nat.toDigits 10 n, none, none⟩, rest) := by
  simp [numeral?, whole?_toDigits n hrest, fraction?_ends hrest, exponent?_ends hrest]

/-- The text of an integer is read as that integer. -/
theorem numeral?_chars {n : Number} (hn : n.Fits) {rest : List Char} (hrest : Ends rest) :
    ∃ numeral, numeral? (n.chars ++ rest) = some (numeral, rest) ∧ numeral.value? = some n := by
  cases n with
  | float value => exact absurd hn (by simp [Fits])
  | int value =>
      obtain ⟨hlow, hhigh⟩ := hn
      by_cases hneg : value < 0
      · refine ⟨_, by simpa [chars, hneg] using numeral?_negative value.natAbs hrest, ?_⟩
        have hback : -((value.natAbs : Nat) : Int) = value := by omega
        rw [value?_negative (by omega) (by omega), hback]
      · refine ⟨_, by simpa [chars, hneg] using numeral?_natural value.natAbs hrest, ?_⟩
        have hback : ((value.natAbs : Nat) : Int) = value := by omega
        rw [value?_natural (by omega), hback]

theorem chars_head {n : Number} (hn : n.Fits) :
    ∃ c more, n.chars = c :: more ∧ (c = '-' ∨ c.isDigit = true) := by
  cases n with
  | float value => exact absurd hn (by simp [Fits])
  | int value =>
      by_cases hneg : value < 0
      · exact ⟨'-', Nat.toDigits 10 value.natAbs, by simp [chars, hneg], Or.inl rfl⟩
      · cases hds : Nat.toDigits 10 value.natAbs with
        | nil => exact absurd hds Nat.toDigits_ne_nil
        | cons d ds =>
            have hd : d ∈ Nat.toDigits 10 value.natAbs := by rw [hds]; simp
            refine ⟨d, ds, by simp [chars, hneg, hds], Or.inr ?_⟩
            exact Nat.isDigit_of_mem_toDigits (by decide) (by decide) hd

end Number

/-! ## Values -/

/-- Induction over values, with the hypothesis for every item and every field. -/
@[elab_as_elim]
theorem nested {motive : Json → Prop} (null : motive .null) (bool : ∀ b, motive (.bool b))
    (num : ∀ n, motive (.num n)) (str : ∀ s, motive (.str s))
    (arr : ∀ items, (∀ v ∈ items, motive v) → motive (.arr items))
    (obj : ∀ fields, (∀ field ∈ fields, motive field.2) → motive (.obj fields)) (v : Json) :
    motive v :=
  match v with
  | .null => null
  | .bool b => bool b
  | .num n => num n
  | .str s => str s
  | .arr items => arr items fun v _ => nested null bool num str arr obj v
  | .obj fields => obj fields fun field _ => nested null bool num str arr obj field.2
termination_by sizeOf v
decreasing_by
  · have := List.sizeOf_lt_of_mem ‹_›
    simp
    omega
  · have := List.sizeOf_lt_of_mem ‹_›
    obtain ⟨key, value⟩ := field
    simp at this ⊢
    omega

mutual

/-- The property holds of a value and of everything inside it. -/
def Everywhere (p : Json → Prop) : Json → Prop
  | .arr items => p (.arr items) ∧ EveryItem p items
  | .obj fields => p (.obj fields) ∧ EveryField p fields
  | v => p v

/-- The property holds throughout all items. -/
def EveryItem (p : Json → Prop) : List Json → Prop
  | [] => True
  | item :: rest => Everywhere p item ∧ EveryItem p rest

/-- The property holds throughout the values of all fields. -/
def EveryField (p : Json → Prop) : List (String × Json) → Prop
  | [] => True
  | (_, value) :: rest => Everywhere p value ∧ EveryField p rest

end

/-- All numbers are integers that fit into 64 bits. -/
def Integral : Json → Prop :=
  Everywhere fun
    | .num n => n.Fits
    | _ => True

/-- All objects have distinct keys in increasing order. -/
def Ordered : Json → Prop :=
  Everywhere fun
    | .obj fields => Dict.Sorted fields
    | _ => True

/-- A value that its text keeps. -/
def Exact (v : Json) : Prop :=
  v.Integral ∧ v.Ordered

theorem everyItem_iff (p : Json → Prop) (items : List Json) :
    EveryItem p items ↔ ∀ v ∈ items, Everywhere p v := by
  induction items with
  | nil => simp [EveryItem]
  | cons v rest ih => simp [EveryItem, ih]

theorem everyField_iff (p : Json → Prop) (fields : List (String × Json)) :
    EveryField p fields ↔ ∀ field ∈ fields, Everywhere p field.2 := by
  induction fields with
  | nil => simp [EveryField]
  | cons field rest ih => simp [EveryField, ih]

theorem integral_num (n : Number) : Integral (.num n) ↔ n.Fits := by
  simp [Integral, Everywhere]

theorem integral_str (s : String) : Integral (.str s) := by
  simp [Integral, Everywhere]

theorem integral_arr (items : List Json) :
    Integral (.arr items) ↔ ∀ v ∈ items, v.Integral := by
  simp [Integral, Everywhere, everyItem_iff]

theorem integral_obj (fields : List (String × Json)) :
    Integral (.obj fields) ↔ ∀ field ∈ fields, field.2.Integral := by
  simp [Integral, Everywhere, everyField_iff]

theorem ordered_arr (items : List Json) :
    Ordered (.arr items) ↔ ∀ v ∈ items, v.Ordered := by
  simp [Ordered, Everywhere, everyItem_iff]

theorem ordered_obj (fields : List (String × Json)) :
    Ordered (.obj fields) ↔ Dict.Sorted fields ∧ ∀ field ∈ fields, field.2.Ordered := by
  simp [Ordered, Everywhere, everyField_iff]

theorem ofItems_eq_map (items : List Json) : ofItems items = items.map ofJson := by
  induction items with
  | nil => rfl
  | cons v rest ih => rw [ofItems, ih, List.map_cons]

theorem itemChars_cons (x y : Json) (rest : List Json) :
    itemChars (x :: y :: rest) = chars x ++ ',' :: itemChars (y :: rest) := by
  rw [itemChars]
  simp

theorem fieldChars_cons (key : String) (x : Json) (y : String × Json)
    (rest : List (String × Json)) :
    fieldChars ((key, x) :: y :: rest)
      = quote key ++ ':' :: (chars x ++ ',' :: fieldChars (y :: rest)) := by
  rw [fieldChars]
  simp

/-- The text of a value begins with no space and closes nothing. -/
theorem chars_head {v : Json} (hv : v.Integral) :
    ∃ c more, v.chars = c :: more ∧ isSpace c = false ∧ c ≠ ']' := by
  cases v with
  | null => exact ⟨_, _, rfl, by decide, by decide⟩
  | bool b => cases b <;> exact ⟨_, _, rfl, by decide, by decide⟩
  | str s => exact ⟨_, _, rfl, by decide, by decide⟩
  | arr items => exact ⟨_, _, by rw [chars], by decide, by decide⟩
  | obj fields => exact ⟨_, _, by rw [chars], by decide, by decide⟩
  | num n =>
      obtain ⟨c, more, hchars, hc⟩ := Number.chars_head ((integral_num n).mp hv)
      refine ⟨c, more, by rw [chars, hchars], ?_, ?_⟩
      · rcases hc with rfl | hc
        · decide
        · simp only [isSpace, Bool.or_eq_false_iff, decide_eq_false_iff_not]
          refine ⟨⟨⟨?_, ?_⟩, ?_⟩, ?_⟩ <;> (rintro rfl; exact absurd hc (by decide))
      · rintro rfl
        rcases hc with hc | hc <;> exact absurd hc (by decide)

theorem itemChars_head (x : Json) (rest : List Json) (hx : x.Integral) :
    ∃ c more, itemChars (x :: rest) = c :: more ∧ isSpace c = false ∧ c ≠ ']' := by
  obtain ⟨c, more, hchars, hc⟩ := chars_head hx
  cases rest with
  | nil => exact ⟨c, more, by rw [itemChars, hchars], hc⟩
  | cons y rest => exact ⟨c, _, by rw [itemChars_cons, hchars, List.cons_append], hc⟩

theorem fieldChars_head (x : String × Json) (rest : List (String × Json)) :
    ∃ more, fieldChars (x :: rest) = '"' :: more := by
  obtain ⟨key, value⟩ := x
  cases rest with
  | nil => exact ⟨_, by rw [fieldChars, quote_append]⟩
  | cons y rest => exact ⟨_, by rw [fieldChars_cons, quote_append]⟩

theorem skip_cons {c : Char} (h : isSpace c = false) (s : List Char) : skip (c :: s) = c :: s := by
  simp [skip, h]

/-- A sign or a digit begins a number. -/
theorem value_number {c : Char} (hc : c = '-' ∨ c.isDigit = true) (fuel : Nat) (s : List Char) :
    value (fuel + 1) (c :: s)
      = (Number.numeral? (c :: s)).map fun (n, rest) => (.num n.value?, rest) := by
  have hne : ∀ d : Char, d ≠ '-' → d.isDigit = false → c ≠ d := by
    rintro d hminus hdigit rfl
    rcases hc with rfl | hc
    · exact hminus rfl
    · simp [hdigit] at hc
  have hspace : isSpace c = false := by
    simp [isSpace, hne ' ' (by decide) (by decide), hne '\t' (by decide) (by decide),
      hne '\n' (by decide) (by decide), hne '\r' (by decide) (by decide)]
  have hhead : ∀ {d : Char} {t : List Char}, c :: s = d :: t → d = '-' ∨ d.isDigit = true :=
    fun h => (List.cons.inj h).1 ▸ hc
  rw [value, skip_cons hspace]
  split
  -- No other value begins with a sign or a digit.
  iterate 6
    · rename_i h
      exact absurd (hhead h) (by decide)
  · rfl

theorem ends_of_separator {c : Char} (h : c = ',' ∨ c = ']' ∨ c = '\x7d') (rest : List Char) :
    Number.Ends (c :: rest) := by
  intro d hd
  obtain rfl : c = d := by simpa using hd
  rcases h with rfl | rfl | rfl <;> decide

/-- What reading is to do with the text of a value: give its spelling, and leave what follows. Fuel
for each character is enough. -/
def Reads (v : Json) : Prop :=
  v.Integral → ∀ fuel, v.chars.length ≤ fuel → ∀ rest, Number.Ends rest →
    value fuel (v.chars ++ rest) = some (ofJson v, rest)

/-- No text is empty, so there is fuel for a first step. -/
theorem Reads.of_step {v : Json}
    (h : v.Integral → ∀ fuel, v.chars.length ≤ fuel + 1 → ∀ rest, Number.Ends rest →
      value (fuel + 1) (v.chars ++ rest) = some (ofJson v, rest)) : Reads v := by
  intro hv fuel hfuel rest hrest
  obtain ⟨c, more, hchars, _⟩ := chars_head hv
  cases fuel with
  | zero => simp [hchars] at hfuel
  | succ fuel => exact h hv fuel hfuel rest hrest

/-- Items with the closing bracket after them are spelled as those items. -/
theorem items_chars {x : Json} {xs : List Json} (hread : ∀ v ∈ x :: xs, Reads v)
    (hint : ∀ v ∈ x :: xs, v.Integral) {fuel : Nat} (hfuel : (itemChars (x :: xs)).length ≤ fuel)
    (rest : List Char) :
    items (fuel + 1) (itemChars (x :: xs) ++ ']' :: rest) = some (ofItems (x :: xs), rest) := by
  induction xs generalizing x fuel with
  | nil =>
      have hx := hread x (by simp) (hint x (by simp)) fuel (by simpa [itemChars] using hfuel)
        (']' :: rest) (ends_of_separator (by simp) rest)
      simp [itemChars, items, hx, skip_cons (show isSpace ']' = false by decide), ofItems]
  | cons y more ih =>
      obtain ⟨c, t, hc, _⟩ := chars_head (hint x (by simp))
      rw [itemChars_cons, List.length_append, List.length_cons] at hfuel
      have hx := hread x (by simp) (hint x (by simp)) fuel (by omega)
        (',' :: (itemChars (y :: more) ++ ']' :: rest)) (ends_of_separator (by simp) _)
      -- Reading the rest of the items costs one more step, and the comma pays for it.
      obtain ⟨fuel, rfl⟩ : ∃ k, fuel = k + 1 := ⟨fuel - 1, by omega⟩
      have hmore := ih (fun v hv => hread v (List.mem_cons_of_mem _ hv))
        (fun v hv => hint v (List.mem_cons_of_mem _ hv))
        (show (itemChars (y :: more)).length ≤ fuel by omega)
      rw [itemChars_cons, List.append_assoc, List.cons_append, items, hx]
      simp [skip_cons (show isSpace ',' = false by decide), hmore, ofItems]

/-- Fields with the closing brace after them are spelled as those fields. -/
theorem fields_chars {x : String × Json} {xs : List (String × Json)}
    (hread : ∀ field ∈ x :: xs, Reads field.2) (hint : ∀ field ∈ x :: xs, field.2.Integral)
    {fuel : Nat} (hfuel : (fieldChars (x :: xs)).length ≤ fuel) (rest : List Char) :
    fields (fuel + 1) (fieldChars (x :: xs) ++ '\x7d' :: rest)
      = some (ofFields (x :: xs), rest) := by
  induction xs generalizing x fuel with
  | nil =>
      obtain ⟨key, v⟩ := x
      simp only [fieldChars, List.length_append, List.length_cons] at hfuel
      have hx := hread (key, v) (by simp) (hint _ (by simp)) fuel (by simp only; omega)
        ('\x7d' :: rest) (ends_of_separator (by simp) rest)
      rw [fieldChars, List.append_assoc, quote_append, fields, skip_cons (by decide)]
      simp [string?_quoted, skip_cons (show isSpace ':' = false by decide), hx,
        skip_cons (show isSpace '\x7d' = false by decide), ofFields]
  | cons y more ih =>
      obtain ⟨key, v⟩ := x
      simp only [fieldChars_cons, List.length_append, List.length_cons] at hfuel
      have hx := hread (key, v) (by simp) (hint _ (by simp)) fuel (by simp only; omega)
        (',' :: (fieldChars (y :: more) ++ '\x7d' :: rest)) (ends_of_separator (by simp) _)
      obtain ⟨fuel, rfl⟩ : ∃ k, fuel = k + 1 := ⟨fuel - 1, by omega⟩
      have hmore := ih (fun field hf => hread field (List.mem_cons_of_mem _ hf))
        (fun field hf => hint field (List.mem_cons_of_mem _ hf))
        (show (fieldChars (y :: more)).length ≤ fuel by omega)
      rw [fieldChars_cons, List.append_assoc, quote_append, fields, skip_cons (by decide)]
      simp [string?_quoted, skip_cons (show isSpace ':' = false by decide), hx,
        skip_cons (show isSpace ',' = false by decide), hmore, ofFields]

/-- The text of a value is spelled as that value. -/
theorem reads (v : Json) : Reads v := by
  induction v using nested with
  | null => exact .of_step fun _ fuel _ rest _ => by simp [chars, value, skip, isSpace, ofJson]
  | bool b =>
      refine .of_step fun _ fuel _ rest _ => ?_
      cases b <;> simp [chars, value, skip, isSpace, ofJson]
  | str s =>
      refine .of_step fun _ fuel _ rest _ => ?_
      rw [chars, quote_append, value, skip_cons (by decide)]
      simp [string?_quoted, ofJson]
  | num n =>
      refine .of_step fun hn fuel _ rest hrest => ?_
      have hfits : n.Fits := (integral_num n).mp hn
      obtain ⟨d, ds, hds, hd⟩ := Number.chars_head hfits
      obtain ⟨numeral, hread, hvalue⟩ := Number.numeral?_chars hfits hrest
      rw [hds, List.cons_append] at hread
      rw [chars, hds, List.cons_append, value_number hd, hread]
      simp [hvalue, ofJson]
  | arr list ih =>
      refine .of_step fun hlist fuel hfuel rest _ => ?_
      cases list with
      | nil => simp [chars, itemChars, value, skip, isSpace, ofJson, ofItems]
      | cons x xs =>
          rw [integral_arr] at hlist
          -- The first item must not look like the bracket that closes an empty array.
          obtain ⟨d, ds, hds, hspace, hclose⟩ := itemChars_head x xs (hlist x (by simp))
          simp only [chars, List.length_cons, List.length_append, List.length_nil] at hfuel
          obtain ⟨fuel, rfl⟩ : ∃ k, fuel = k + 1 := ⟨fuel - 1, by omega⟩
          have hread := items_chars ih hlist
            (show (itemChars (x :: xs)).length ≤ fuel by omega) rest
          rw [hds, List.cons_append] at hread
          rw [chars, List.cons_append, List.append_assoc, value, skip_cons (by decide)]
          simp [hds, skip_cons hspace, hclose, hread, ofJson]
  | obj list ih =>
      refine .of_step fun hlist fuel hfuel rest _ => ?_
      cases list with
      | nil => simp [chars, fieldChars, value, skip, isSpace, ofJson, ofFields]
      | cons x xs =>
          rw [integral_obj] at hlist
          obtain ⟨ds, hds⟩ := fieldChars_head x xs
          simp only [chars, List.length_cons, List.length_append, List.length_nil] at hfuel
          obtain ⟨fuel, rfl⟩ : ∃ k, fuel = k + 1 := ⟨fuel - 1, by omega⟩
          have hread := fields_chars ih hlist
            (show (fieldChars (x :: xs)).length ≤ fuel by omega) rest
          rw [hds, List.cons_append] at hread
          rw [chars, List.cons_append, List.append_assoc, value, skip_cons (by decide)]
          simp [hds, skip_cons (show isSpace '"' = false by decide), hread, ofJson]

/-- The whole text of a value is spelled as that value. -/
theorem read?_text {v : Json} (hv : v.Integral) : Spelling.read? v.text = some (ofJson v) := by
  have hread := reads v hv (v.text.length + 1) (by simp [text]) [] (by simp [Number.Ends])
  rw [List.append_nil] at hread
  have htext : v.text.toList = v.chars := by simp [text]
  simp [Spelling.read?, htext, hread, skip]

end Mdx.Json
