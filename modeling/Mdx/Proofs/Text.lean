import Mdx.Text.Blank
import Mdx.Text.Search

/-!
# Laws of texts

Reading a known start or a run of characters off a text, trimming white space around a text, and
cutting a text at separators or at the first or last occurrence of a mark.
-/

namespace Mdx.Text

theorem after?_append (start s : List Char) : after? start (start ++ s) = some s := by
  induction start with
  | nil => rfl
  | cons c start ih => simp [after?, ih]

theorem after?_append_append (start rest s : List Char) :
    after? (start ++ rest) (start ++ s) = after? rest s := by
  induction start with
  | nil => rfl
  | cons c start ih => simp [after?, ih]

theorem hasPrefix_append (start s : String) : hasPrefix start (start ++ s) = true := by
  simp [hasPrefix, begins, after?_append]

theorem hasPrefix_append_append (start rest s : String) :
    hasPrefix (start ++ rest) (start ++ s) = hasPrefix rest s := by
  simp [hasPrefix, begins, after?_append_append]

/-- What holds of the characters of a text can be computed. -/
theorem forall_of_all {p : Char → Bool} {value : Bool} {s : List Char}
    (h : s.all (fun c => p c == value) = true) : ∀ c ∈ s, p c = value := by
  simpa using h

theorem takeWhile_stop {p : Char → Bool} {name : List Char} {c : Char}
    (h : ∀ d ∈ name, p d = true) (hc : p c = false) (rest : List Char) :
    (name ++ c :: rest).takeWhile p = name ∧ (name ++ c :: rest).dropWhile p = c :: rest := by
  rw [List.takeWhile_append_of_pos h, List.dropWhile_append_of_pos h]
  simp [hc]

theorem mem_splitAt {p : Char → Bool} {c : Char} {s : List Char} (h : c ∈ s) :
    p c = true ∨ ∃ piece ∈ splitAt p s, c ∈ piece := by
  induction s with
  | nil => simp at h
  | cons d s ih =>
      rw [splitAt]
      by_cases hd : p d = true
      · rcases List.mem_cons.mp h with rfl | h
        · exact Or.inl hd
        · refine (ih h).imp_right fun ⟨piece, hpiece, hc⟩ => ⟨piece, ?_, hc⟩
          simp [hd, hpiece]
      · rw [if_neg hd]
        cases hsplit : splitAt p s with
        | nil =>
            rcases List.mem_cons.mp h with rfl | h
            · exact Or.inr ⟨[c], by simp, by simp⟩
            · exact Or.inl (by simpa [hsplit] using ih h)
        | cons first more =>
            rcases List.mem_cons.mp h with rfl | h
            · exact Or.inr ⟨c :: first, by simp, by simp⟩
            · refine (ih h).imp_right fun ⟨piece, hpiece, hc⟩ => ?_
              rw [hsplit] at hpiece
              rcases List.mem_cons.mp hpiece with rfl | hpiece
              · exact ⟨d :: piece, by simp, by simp [hc]⟩
              · exact ⟨piece, by simp [hpiece], hc⟩

/-! ## Trimming -/

/-- Nothing but white space. -/
def Blank (s : List Char) : Prop :=
  ∀ c ∈ s, isBlank c = true

theorem Blank.nil : Blank [] := by
  simp [Blank]

theorem Blank.append {s t : List Char} (h : Blank s) (h' : Blank t) : Blank (s ++ t) := fun c hc =>
  (List.mem_append.mp hc).elim (h c) (h' c)

theorem Blank.singleton {c : Char} (h : isBlank c = true) : Blank [c] := by
  simpa [Blank] using h

/-- A text that begins and ends with something other than white space. -/
structure Solid (s : List Char) : Prop where
  head : ∃ c t, s = c :: t ∧ isBlank c = false
  last : ∃ t c, s = t ++ [c] ∧ isBlank c = false

namespace Solid

variable {s t : List Char}

theorem ne_nil (h : Solid s) : s ≠ [] := by
  obtain ⟨c, t, rfl, -⟩ := h.head
  exact List.cons_ne_nil c t

theorem of_forall (hne : s ≠ []) (h : ∀ c ∈ s, isBlank c = false) : Solid s := by
  refine ⟨?_, ?_⟩
  · obtain ⟨c, t, rfl⟩ := List.exists_cons_of_ne_nil hne
    exact ⟨c, t, rfl, h c (by simp)⟩
  · obtain ⟨t, c, rfl⟩ := List.eq_nil_or_concat s |>.resolve_left hne
    exact ⟨t, c, by simp, h c (by simp)⟩

/-- What stands between two solid texts does not matter. -/
theorem join (h : Solid s) (middle : List Char) (h' : Solid t) : Solid (s ++ (middle ++ t)) := by
  obtain ⟨c, rest, rfl, hc⟩ := h.head
  obtain ⟨before, d, rfl, hd⟩ := h'.last
  exact ⟨⟨c, _, rfl, hc⟩, ⟨c :: rest ++ (middle ++ before), d, by simp, hd⟩⟩

theorem append (h : Solid s) (h' : Solid t) : Solid (s ++ t) :=
  h.join [] h'

end Solid

theorem trimLeft_append {b : List Char} (hb : Blank b) (s : List Char) :
    trimLeft (b ++ s) = trimLeft s := by
  induction b with
  | nil => rfl
  | cons c b ih =>
      obtain ⟨hc, hb⟩ := List.forall_mem_cons.mp hb
      rw [List.cons_append, trimLeft, List.dropWhile_cons, if_pos hc]
      exact ih hb

theorem dropEndWhile_concat {p : Char → Bool} (s : List Char) {c : Char} (h : p c = false) :
    dropEndWhile p (s ++ [c]) = s ++ [c] := by
  simp [dropEndWhile, h]

theorem dropEndWhile_append {p : Char → Bool} (s : List Char) {t : List Char}
    (h : ∀ c ∈ t, p c = true) : dropEndWhile p (s ++ t) = dropEndWhile p s := by
  have hdrop : (t.reverse ++ s.reverse).dropWhile p = s.reverse.dropWhile p :=
    List.dropWhile_append_of_pos fun c hc => h c (List.mem_reverse.mp hc)
  rw [dropEndWhile, dropEndWhile, List.reverse_append, hdrop]

theorem dropEndWhile_of_forall {p : Char → Bool} {s : List Char} (h : ∀ c ∈ s, p c = false) :
    dropEndWhile p s = s := by
  rcases List.eq_nil_or_concat s with rfl | ⟨t, c, rfl⟩
  · rfl
  · rw [List.concat_eq_append]
    exact dropEndWhile_concat t (h c (by simp))

theorem dropEndWhile_of_notMem {c : Char} {s : List Char} (h : c ∉ s) :
    dropEndWhile (· = c) s = s := by
  refine dropEndWhile_of_forall fun d hd => ?_
  rw [decide_eq_false_iff_not]
  rintro rfl
  exact h hd

theorem trimRight_append (s : List Char) {b : List Char} (hb : Blank b) :
    trimRight (s ++ b) = trimRight s :=
  dropEndWhile_append s hb

theorem trimLeft_concat (s : List Char) {c : Char} (h : isBlank c = false) :
    trimLeft (s ++ [c]) = trimLeft s ++ [c] := by
  induction s with
  | nil => simp [trimLeft, h]
  | cons d s ih =>
      rw [trimLeft, trimLeft] at ih ⊢
      rw [List.cons_append, List.dropWhile_cons, List.dropWhile_cons]
      split
      · exact ih
      · rfl

theorem trimRight_trim (s : List Char) : trimRight (trim s) = trim s := by
  have htwice : ∀ t : List Char, (t.dropWhile isBlank).dropWhile isBlank = t.dropWhile isBlank := by
    intro t
    induction t with
    | nil => rfl
    | cons c t ih =>
        by_cases hc : isBlank c = true
        · rw [List.dropWhile_cons, if_pos hc]
          exact ih
        · rw [List.dropWhile_cons, if_neg hc, List.dropWhile_cons, if_neg hc]
  rw [trim, trimRight, dropEndWhile, trimRight, dropEndWhile, List.reverse_reverse, htwice]

theorem trimRight_solid {s : List Char} (h : Solid s) : trimRight s = s := by
  obtain ⟨t, c, rfl, hc⟩ := h.last
  exact dropEndWhile_concat t hc

/-- Only what follows a solid text is trimmed on the right. -/
theorem trimRight_solid_append {s : List Char} (h : Solid s) (t : List Char) :
    trimRight (s ++ t) = s ++ trimRight t := by
  have hs := trimRight_solid h
  rw [trimRight, dropEndWhile] at hs
  rw [trimRight, trimRight, dropEndWhile, dropEndWhile, List.reverse_append, List.dropWhile_append]
  split
  · rename_i hempty
    rw [hs, List.isEmpty_iff.mp hempty]
    simp
  · simp

theorem trim_solid_append {b s : List Char} (hb : Blank b) (hs : Solid s) (t : List Char) :
    trim (b ++ (s ++ t)) = s ++ trimRight t := by
  obtain ⟨c, rest, hhead, hc⟩ := hs.head
  have hleft : trimLeft (s ++ t) = s ++ t := by
    rw [hhead, trimLeft, List.cons_append, List.dropWhile_cons, if_neg (by simp [hc])]
  rw [trim, trimLeft_append hb, hleft, trimRight_solid_append hs]

theorem trimRight_isPrefix (s : List Char) : trimRight s <+: s := by
  rw [trimRight, dropEndWhile, ← List.reverse_suffix, List.reverse_reverse]
  exact List.dropWhile_suffix _

/-- White space around a solid text is trimmed. -/
theorem trim_solid {b s b' : List Char} (hb : Blank b) (hs : Solid s) (hb' : Blank b') :
    trim (b ++ (s ++ b')) = s := by
  have hright := trimRight_append [] hb'
  rw [List.nil_append] at hright
  rw [trim_solid_append hb hs, hright]
  simp [trimRight, dropEndWhile]

theorem trim_blank {b : List Char} (hb : Blank b) : trim b = [] := by
  have hleft := trimLeft_append hb []
  rw [List.append_nil] at hleft
  rw [trim, hleft]
  rfl

theorem Solid.trim {s : List Char} (h : Solid s) : trim s = s := by
  have htrim : Text.trim ([] ++ (s ++ [])) = s := trim_solid .nil h .nil
  rwa [List.nil_append, List.append_nil] at htrim

theorem trim_append (s : List Char) {b : List Char} (hb : Blank b) : trim (s ++ b) = trim s := by
  induction s with
  | nil => rw [List.nil_append, trim_blank hb]; rfl
  | cons c s ih =>
      by_cases hc : isBlank c = true
      · have hdrop : ∀ t : List Char, trim (c :: t) = trim t := by
          intro t
          rw [trim, trimLeft, List.dropWhile_cons, if_pos hc]
          rfl
        rw [List.cons_append, hdrop, hdrop, ih]
      · have hkeep : ∀ t : List Char, trimLeft (c :: t) = c :: t := by
          intro t
          rw [trimLeft, List.dropWhile_cons, if_neg hc]
        rw [List.cons_append, trim, trim, hkeep, hkeep, ← List.cons_append,
          trimRight_append _ hb]

/-- Trimming takes white space off both ends. -/
theorem exists_trim (s : List Char) :
    ∃ b b' : List Char, Blank b ∧ Blank b' ∧ s = b ++ (trim s ++ b') := by
  have hends : ∀ t : List Char, ∃ b, Blank b ∧ t = trimRight t ++ b := by
    intro t
    have hsplit := List.takeWhile_append_dropWhile (p := isBlank) (l := t.reverse)
    refine ⟨(t.reverse.takeWhile isBlank).reverse, fun c hc => ?_, ?_⟩
    · exact List.all_eq_true.mp List.all_takeWhile c (List.mem_reverse.mp hc)
    · rw [trimRight, dropEndWhile, ← List.reverse_append, hsplit, List.reverse_reverse]
  obtain ⟨b', hb', hright⟩ := hends (trimLeft s)
  refine ⟨s.takeWhile isBlank, b', List.all_eq_true.mp List.all_takeWhile, hb', ?_⟩
  rw [trim, ← hright]
  exact (List.takeWhile_append_dropWhile).symm

/-! ## Splitting -/

theorem splitAt_ne_nil (p : Char → Bool) (s : List Char) : splitAt p s ≠ [] := by
  cases s with
  | nil => simp [splitAt]
  | cons c s =>
      rw [splitAt]
      split
      · simp
      · split <;> simp

/-- A separator splits a text in two. -/
theorem splitAt_append {p : Char → Bool} {c : Char} (hc : p c = true) (s t : List Char) :
    splitAt p (s ++ c :: t) = splitAt p s ++ splitAt p t := by
  induction s with
  | nil => simp [splitAt, hc]
  | cons d s ih =>
      rw [List.cons_append, splitAt, splitAt]
      split
      · rw [ih, List.cons_append]
      · obtain ⟨piece, more, hpieces⟩ := List.exists_cons_of_ne_nil (splitAt_ne_nil p s)
        rw [ih, hpieces]
        rfl

theorem splitAt_of_forall {p : Char → Bool} {s : List Char} (h : ∀ c ∈ s, p c = false) :
    splitAt p s = [s] := by
  induction s with
  | nil => rfl
  | cons c s ih =>
      obtain ⟨hc, hs⟩ := List.forall_mem_cons.mp h
      rw [splitAt, if_neg (by simp [hc]), ih hs]

/-! ## Occurrences -/

theorem after?_eq_some {start s rest : List Char} (h : after? start s = some rest) :
    s = start ++ rest := by
  induction start generalizing s with
  | nil => simpa [after?] using h
  | cons c start ih =>
      cases s with
      | nil => simp [after?] at h
      | cons d s =>
          rw [after?] at h
          split at h
          · rename_i hcd
            rw [hcd, ih h, List.cons_append]
          · cases h

theorem after?_eq_none {start s : List Char} (h : ¬ start <+: s) : after? start s = none := by
  cases hafter : after? start s with
  | none => rfl
  | some rest => exact absurd ⟨rest, (after?_eq_some hafter).symm⟩ h

theorem after?_append_cons {mark s : List Char} {c : Char} (hc : c ∉ mark) (t : List Char) :
    after? mark (s ++ c :: t) = (after? mark s).map (· ++ c :: t) := by
  induction mark generalizing s with
  | nil => rfl
  | cons d mark ih =>
      have hd : d ≠ c := (List.ne_of_not_mem_cons hc).symm
      have hmark : c ∉ mark := List.not_mem_of_not_mem_cons hc
      cases s with
      | nil => simp [after?, hd]
      | cons e s =>
          rw [List.cons_append, after?, after?, ih hmark]
          split <;> rfl

/-- A text that is not the start of a mark tells whether the mark is there. -/
theorem after?_append_of_not_isPrefix {mark s : List Char} (h : ¬ s <+: mark) (t : List Char) :
    after? mark (s ++ t) = (after? mark s).map (· ++ t) := by
  induction mark generalizing s with
  | nil => rfl
  | cons d mark ih =>
      cases s with
      | nil => exact absurd List.nil_prefix h
      | cons e s =>
          rw [List.cons_append, after?, after?]
          split
          · rename_i hde
            exact ih fun hs => h (List.cons_prefix_cons.mpr ⟨hde.symm, hs⟩)
          · rfl

theorem begins_iff {start s : List Char} : begins start s = true ↔ start <+: s := by
  constructor
  · intro h
    obtain ⟨rest, hrest⟩ := Option.isSome_iff_exists.mp h
    exact ⟨rest, (after?_eq_some hrest).symm⟩
  · rintro ⟨rest, rfl⟩
    simp [begins, after?_append]

theorem hasSuffix_iff {tail s : String} : hasSuffix tail s = true ↔ ∃ front, s = front ++ tail := by
  rw [hasSuffix, begins_iff, List.reverse_prefix]
  constructor
  · rintro ⟨front, hfront⟩
    refine ⟨String.ofList front, String.toList_inj.mp ?_⟩
    rw [String.toList_append, String.toList_ofList, hfront]
  · rintro ⟨front, rfl⟩
    exact ⟨front.toList, String.toList_append.symm⟩

/-- A text is cut at the first occurrence of a mark. -/
theorem cut?_append {mark before rest : List Char} (hmark : mark ≠ [])
    (h : ∀ t, t <:+ before → t ≠ [] → ¬ mark <+: t ++ mark) :
    cut? mark (before ++ (mark ++ rest)) = some (before, rest) := by
  induction before with
  | nil =>
      obtain ⟨m, ms, rfl⟩ := List.exists_cons_of_ne_nil hmark
      rw [List.nil_append, List.cons_append, cut?, ← List.cons_append, after?_append]
  | cons c before ih =>
      have hhere : ¬ mark <+: c :: before ++ (mark ++ rest) := by
        intro hstart
        refine h (c :: before) List.suffix_rfl (by simp) ?_
        refine List.prefix_of_prefix_length_le hstart ?_ (by simp; omega)
        rw [← List.append_assoc]
        exact List.prefix_append _ _
      rw [List.cons_append, cut?, ← List.cons_append, after?_eq_none hhere,
        ih fun t ht => h t (ht.trans (List.suffix_cons c before))]
      rfl

/-- The first character of the mark tells where it occurs first. -/
theorem cut?_of_notMem {c : Char} {mark before : List Char} (hc : c ∉ before) (rest : List Char) :
    cut? (c :: mark) (before ++ (c :: mark ++ rest)) = some (before, rest) := by
  refine cut?_append (by simp) fun t ht hne hstart => ?_
  obtain ⟨d, t, rfl⟩ := List.exists_cons_of_ne_nil hne
  obtain ⟨rfl, -⟩ := List.cons_prefix_cons.mp hstart
  exact hc (ht.subset List.mem_cons_self)

theorem cut?_eq_none {mark s : List Char} (hmark : mark ≠ []) (h : ¬ mark <:+: s) :
    cut? mark s = none := by
  induction s with
  | nil => simp [cut?, hmark]
  | cons c s ih =>
      have hhere : ¬ mark <+: c :: s := fun hstart => h hstart.isInfix
      have hrest : ¬ mark <:+: s := fun hinside => h (hinside.trans (List.suffix_cons c s).isInfix)
      rw [cut?, after?_eq_none hhere, ih hrest]
      rfl

/-- Where a text is cut it has the mark, and before that it does not. -/
theorem cut?_eq_some {mark s before rest : List Char} (hmark : mark ≠ [])
    (h : cut? mark s = some (before, rest)) :
    s = before ++ (mark ++ rest) ∧ ∀ t, t <:+ before → t ≠ [] → ¬ mark <+: t ++ mark := by
  induction s generalizing before with
  | nil => simp [cut?, hmark] at h
  | cons c s ih =>
      rw [cut?] at h
      cases hafter : after? mark (c :: s) with
      | some tail =>
          rw [hafter] at h
          have hs := after?_eq_some hafter
          obtain ⟨rfl, rfl⟩ := Prod.mk.inj (Option.some.inj h)
          exact ⟨hs, fun t ht hne => absurd (List.suffix_nil.mp ht) hne⟩
      | none =>
          rw [hafter] at h
          obtain ⟨⟨before, rest⟩, hcut, heq⟩ := Option.map_eq_some_iff.mp h
          obtain ⟨rfl, rfl⟩ := Prod.mk.inj heq
          obtain ⟨hs, hfirst⟩ := ih hcut
          refine ⟨by rw [hs, List.cons_append], fun t ht hne hstart => ?_⟩
          rcases List.suffix_cons_iff.mp ht with rfl | ht
          · have hhere : mark <+: c :: s := by
              rw [hs]
              exact hstart.trans ⟨rest, by simp⟩
            obtain ⟨tail, htail⟩ := hhere
            rw [← htail, after?_append] at hafter
            cases hafter
          · exact hfirst t ht hne hstart

/-- A text that has the mark is cut. -/
theorem exists_cut? {mark s : List Char} (hmark : mark ≠ []) (h : mark <:+: s) :
    ∃ parts, cut? mark s = some parts := by
  induction s with
  | nil => exact absurd (List.infix_nil.mp h) hmark
  | cons c s ih =>
      rw [cut?]
      cases hafter : after? mark (c :: s) with
      | some tail => exact ⟨_, rfl⟩
      | none =>
          rcases List.infix_cons_iff.mp h with ⟨tail, htail⟩ | hinside
          · rw [← htail, after?_append] at hafter
            cases hafter
          · obtain ⟨parts, hparts⟩ := ih hinside
            exact ⟨_, by rw [hparts]; rfl⟩

/-- A text is cut at the last occurrence of a mark. -/
theorem cutLast?_append {mark before rest : List Char} (hmark : mark ≠ [])
    (h : ∀ t, t <+: rest → t ≠ [] → ¬ mark <:+ mark ++ t) :
    cutLast? mark (before ++ (mark ++ rest)) = some (before, rest) := by
  have hreverse : (before ++ (mark ++ rest)).reverse
      = rest.reverse ++ (mark.reverse ++ before.reverse) := by simp
  have hcut : cut? mark.reverse (rest.reverse ++ (mark.reverse ++ before.reverse))
      = some (rest.reverse, before.reverse) := by
    refine cut?_append (by simpa using hmark) fun t ht hne hstart => ?_
    refine h t.reverse ?_ (by simpa using hne) ?_
    · rw [← List.reverse_suffix, List.reverse_reverse]
      exact ht
    · rw [← List.reverse_prefix, List.reverse_append, List.reverse_reverse]
      exact hstart
  rw [cutLast?, hreverse, hcut]
  simp

/-- The last character of the mark tells where it occurs last. -/
theorem cutLast?_of_notMem (mark : List Char) {c : Char} {rest : List Char} (hc : c ∉ rest)
    (before : List Char) :
    cutLast? (mark ++ [c]) (before ++ (mark ++ [c] ++ rest)) = some (before, rest) := by
  refine cutLast?_append (by simp) fun t ht hne hend => ?_
  obtain ⟨s, d, rfl⟩ := (List.eq_nil_or_concat t).resolve_left hne
  obtain ⟨x, hx⟩ := hend
  have hx : (x ++ mark) ++ [c] = (mark ++ [c] ++ s) ++ [d] := by simpa using hx
  obtain rfl : c = d := by simpa using (List.append_inj' hx rfl).2
  exact hc (ht.subset (by simp))

theorem cutLast?_eq_none {mark s : List Char} (hmark : mark ≠ []) (h : ¬ mark <:+: s) :
    cutLast? mark s = none := by
  have hcut : cut? mark.reverse s.reverse = none :=
    cut?_eq_none (by simpa using hmark) fun hinside => h (List.reverse_infix.mp hinside)
  rw [cutLast?, hcut]
  rfl

/-- A mark does not reach over a character that it does not have. -/
theorem isInfix_append_cons {mark s t : List Char} {c : Char} (hc : c ∉ mark)
    (h : mark <:+: s ++ c :: t) : mark <:+: s ∨ mark <:+: t := by
  obtain ⟨a, b, heq⟩ := h
  rcases List.append_eq_append_iff.mp heq with ⟨x, hs, -⟩ | ⟨x, hmark, hrest⟩
  · exact .inl ⟨a, x, hs.symm⟩
  · cases x with
    | nil => exact .inl ⟨a, [], by simpa using hmark⟩
    | cons d x =>
        obtain ⟨rfl, rfl⟩ : c = d ∧ t = x ++ b := by simpa using hrest
        rcases List.append_eq_append_iff.mp hmark with ⟨y, -, hover⟩ | ⟨y, -, hinside⟩
        · exact absurd (by simp [hover]) hc
        · cases y with
          | nil => exact absurd (hinside ▸ List.mem_cons_self : c ∈ [] ++ mark) hc
          | cons d y =>
              obtain ⟨rfl, rfl⟩ : c = d ∧ x = y ++ mark := by simpa using hinside
              exact .inr ⟨y, b, rfl⟩

/-- A mark does not end in a text without its last character. -/
theorem isInfix_of_append (mark : List Char) {s t : List Char} {c : Char} (hc : c ∉ t)
    (h : mark ++ [c] <:+: s ++ t) : mark ++ [c] <:+: s := by
  obtain ⟨a, b, heq⟩ := h
  have heq : (a ++ mark) ++ (c :: b) = s ++ t := by simpa using heq
  rcases List.append_eq_append_iff.mp heq with ⟨x, hs, hrest⟩ | ⟨x, -, ht⟩
  · cases x with
    | nil => exact absurd (hrest ▸ List.mem_cons_self : c ∈ [] ++ t) hc
    | cons d x =>
        obtain ⟨rfl, -⟩ : c = d ∧ b = x ++ t := by simpa using hrest
        exact ⟨a, x, by simp [hs]⟩
  · exact absurd (by simp [ht]) hc

end Mdx.Text
