import Mdx.Text.Blank
import Mdx.Text.Search

/-!
# Words

The words of a text, and what becomes of them when white space is left out between pieces of text:
words run into each other exactly where the pieces touch (`words_kept_iff`).
-/

namespace Mdx.Text

/-! ## The words of a text -/

/-- The words of a text: its longest runs of characters that are not white space. -/
def words (s : List Char) : List (List Char) :=
  (splitAt isBlank s).filter (· ≠ [])

/-- The text begins with a character that is not white space. -/
def startsInk (s : List Char) : Bool :=
  s.head?.any fun c => !isBlank c

/-- The text ends with a character that is not white space. -/
def endsInk (s : List Char) : Bool :=
  s.getLast?.any fun c => !isBlank c

/-- The last word of the first text runs into the first word of the second. -/
def Touch (s t : List Char) : Prop :=
  endsInk s = true ∧ startsInk t = true

instance (s t : List Char) : Decidable (Touch s t) :=
  inferInstanceAs (Decidable (_ ∧ _))

theorem words_nil : words [] = [] := rfl

theorem words_cons_blank {c : Char} (h : isBlank c = true) (s : List Char) :
    words (c :: s) = words s := by
  simp [words, splitAt, h]

/-- The first piece of a text is empty unless the text begins with a word. -/
theorem splitAt_cons_eq (s : List Char) :
    ∃ first more, splitAt isBlank s = first :: more ∧ (first = [] ↔ startsInk s = false) := by
  cases s with
  | nil => exact ⟨[], [], rfl, by simp [startsInk]⟩
  | cons c s =>
      rw [splitAt]
      by_cases hc : isBlank c = true
      · rw [if_pos hc]
        exact ⟨[], splitAt isBlank s, rfl, by simp [startsInk, hc]⟩
      · rw [if_neg hc]
        cases splitAt isBlank s with
        | nil => exact ⟨[c], [], rfl, by simp [startsInk, hc]⟩
        | cons piece more => exact ⟨c :: piece, more, rfl, by simp [startsInk, hc]⟩

/-- A character in front of white space is a word of its own. -/
theorem words_cons_alone {c : Char} {s : List Char} (hc : isBlank c = false)
    (hs : startsInk s = false) : words (c :: s) = [c] :: words s := by
  obtain ⟨first, more, hsplit, hfirst⟩ := splitAt_cons_eq s
  have hempty : first = [] := hfirst.mpr hs
  simp [words, splitAt, hc, hsplit, hempty]

/-- A character in front of a word belongs to it. -/
theorem words_cons_word {c : Char} {s : List Char} (hc : isBlank c = false)
    (hs : startsInk s = true) :
    ∃ word more, words s = word :: more ∧ words (c :: s) = (c :: word) :: more := by
  obtain ⟨first, more, hsplit, hfirst⟩ := splitAt_cons_eq s
  have hword : first ≠ [] := by
    intro h
    rw [hfirst.mp h] at hs
    cases hs
  refine ⟨first, more.filter (· ≠ []), ?_, ?_⟩
  · simp [words, hsplit, hword]
  · simp [words, splitAt, hc, hsplit]

theorem words_of_blank {s : List Char} (h : ∀ c ∈ s, isBlank c = true) : words s = [] := by
  induction s with
  | nil => rfl
  | cons c s ih =>
      rw [words_cons_blank (h c (by simp)), ih fun d hd => h d (List.mem_cons_of_mem _ hd)]

/-! ## Texts in a row -/

theorem startsInk_append {s : List Char} (h : s ≠ []) (t : List Char) :
    startsInk (s ++ t) = startsInk s := by
  cases s with
  | nil => exact absurd rfl h
  | cons c s => rfl

theorem endsInk_append {t : List Char} (h : t ≠ []) (s : List Char) :
    endsInk (s ++ t) = endsInk t := by
  rw [endsInk, endsInk, List.getLast?_append, List.getLast?_eq_some_getLast h, Option.some_or]

theorem touch_cons {s : List Char} (h : s ≠ []) (c : Char) (t : List Char) :
    Touch (c :: s) t ↔ Touch s t := by
  rw [Touch, Touch, ← List.singleton_append, endsInk_append h]

/-- Texts that do not touch keep their words. -/
theorem words_append {s t : List Char} (h : ¬ Touch s t) : words (s ++ t) = words s ++ words t := by
  induction s with
  | nil => rfl
  | cons c s ih =>
      have hs : words (s ++ t) = words s ++ words t := by
        by_cases hnil : s = []
        · subst hnil
          rfl
        · exact ih fun htouch => h ((touch_cons hnil c t).mpr htouch)
      -- What the first character does depends on what follows it, which `t` changes only where `s`
      -- is empty.
      rw [List.cons_append]
      by_cases hc : isBlank c = true
      · rw [words_cons_blank hc, words_cons_blank hc, hs]
      · rw [Bool.not_eq_true] at hc
        by_cases hword : startsInk s = true
        · obtain ⟨word, more, hwords, hcons⟩ := words_cons_word hc hword
          have hnil : s ≠ [] := by
            rintro rfl
            cases hword
          obtain ⟨word', more', hwords', hcons'⟩ :=
            words_cons_word hc ((startsInk_append hnil t).trans hword)
          rw [hs, hwords, List.cons_append, List.cons.injEq] at hwords'
          rw [hcons', hcons, ← hwords'.1, ← hwords'.2, List.cons_append]
        · rw [Bool.not_eq_true] at hword
          have happend : startsInk (s ++ t) = false := by
            by_cases hnil : s = []
            · subst hnil
              have hends : endsInk [c] = true := by simp [endsInk, hc]
              exact Bool.eq_false_iff.mpr fun ht => h ⟨hends, ht⟩
            · rw [startsInk_append hnil, hword]
          rw [words_cons_alone hc hword, words_cons_alone hc happend, hs, List.cons_append]

/-- Texts that touch have one word less together. -/
theorem length_words_append {s t : List Char} (h : Touch s t) :
    (words (s ++ t)).length + 1 = (words s).length + (words t).length := by
  induction s with
  | nil => exact absurd h.1 (by decide)
  | cons c s ih =>
      rw [List.cons_append]
      by_cases hnil : s = []
      · subst hnil
        have hc : isBlank c = false := by simpa [Touch, endsInk] using h.1
        obtain ⟨word, more, hwords, hcons⟩ := words_cons_word hc h.2
        rw [List.nil_append, hcons, hwords, words_cons_alone hc rfl]
        simp [words_nil]
        omega
      · have hs := ih ((touch_cons hnil c t).mp h)
        by_cases hc : isBlank c = true
        · rw [words_cons_blank hc, words_cons_blank hc, hs]
        · rw [Bool.not_eq_true] at hc
          have happend := startsInk_append hnil t
          by_cases hword : startsInk s = true
          · obtain ⟨word, more, hwords, hcons⟩ := words_cons_word hc hword
            obtain ⟨word', more', hwords', hcons'⟩ := words_cons_word hc (happend.trans hword)
            rw [hwords, hwords'] at hs
            rw [hcons, hcons']
            simpa using hs
          · rw [Bool.not_eq_true] at hword
            rw [words_cons_alone hc hword, words_cons_alone hc (happend.trans hword)]
            simp only [List.length_cons]
            omega

/-- Two texts have no more words together than one by one. -/
theorem length_words_append_le (s t : List Char) :
    (words (s ++ t)).length ≤ (words s).length + (words t).length := by
  by_cases h : Touch s t
  · have hone := length_words_append h
    omega
  · exact Nat.le_of_eq (by rw [words_append h, List.length_append])

/-- White space keeps the words around it apart. -/
theorem words_append_blank {v : List Char} (hblank : ∀ c ∈ v, isBlank c = true) (hv : v ≠ [])
    (s t : List Char) : words (s ++ (v ++ t)) = words s ++ words t := by
  obtain ⟨c, v', rfl⟩ := List.exists_cons_of_ne_nil hv
  have hstarts : ¬ Touch s (c :: v' ++ t) := by
    intro h
    have hink := h.2
    simp [startsInk, hblank c (by simp)] at hink
  have hends : ¬ Touch (c :: v') t := by
    intro h
    have hlast := h.1
    rw [endsInk, List.getLast?_eq_some_getLast hv, Option.any_some,
      hblank _ (List.getLast_mem hv)] at hlast
    cases hlast
  rw [words_append hstarts, words_append hends, words_of_blank hblank, List.nil_append]

/-! ## Collapsing white space -/

/-- The text with every run of white space collapsed to one space, and none at its ends. -/
def collapse (s : String) : String :=
  String.ofList ([' '].intercalate (words s.toList))

/-- A text that is one word. -/
def IsWord (w : List Char) : Prop :=
  w ≠ [] ∧ ∀ c ∈ w, isBlank c = false

theorem notBlank_of_mem_splitAt {s piece : List Char} (h : piece ∈ splitAt isBlank s) :
    ∀ c ∈ piece, isBlank c = false := by
  induction s generalizing piece with
  | nil =>
      rw [splitAt, List.mem_singleton] at h
      simp [h]
  | cons c s ih =>
      rw [splitAt] at h
      by_cases hc : isBlank c = true
      · rw [if_pos hc, List.mem_cons] at h
        rcases h with rfl | h
        · simp
        · exact ih h
      · rw [if_neg hc] at h
        rw [Bool.not_eq_true] at hc
        cases hsplit : splitAt isBlank s with
        | nil =>
            rw [hsplit, List.mem_singleton] at h
            simp [h, hc]
        | cons first more =>
            rw [hsplit] at h ih
            rcases List.mem_cons.mp h with rfl | h
            · simpa [hc] using ih List.mem_cons_self
            · exact ih (List.mem_cons_of_mem _ h)

theorem isWord_of_mem_words {s w : List Char} (h : w ∈ words s) : IsWord w := by
  rw [words, List.mem_filter] at h
  exact ⟨by simpa using h.2, notBlank_of_mem_splitAt h.1⟩

theorem words_of_isWord {w : List Char} (h : IsWord w) : words w = [w] := by
  obtain ⟨hnil, hink⟩ := h
  induction w with
  | nil => exact absurd rfl hnil
  | cons c w ih =>
      have hc := hink c (by simp)
      by_cases hw : w = []
      · subst hw
        exact words_cons_alone hc rfl
      · have hwords := ih hw fun d hd => hink d (List.mem_cons_of_mem _ hd)
        have hstarts : startsInk w = true := by
          obtain ⟨d, w', rfl⟩ := List.exists_cons_of_ne_nil hw
          simp [startsInk, hink d (by simp)]
        obtain ⟨word, more, hword, hcons⟩ := words_cons_word hc hstarts
        rw [hwords, List.cons.injEq] at hword
        rw [hcons, ← hword.1, ← hword.2]

/-- Words with spaces between them are the words of that text. -/
theorem words_intercalate {ws : List (List Char)} (h : ∀ w ∈ ws, IsWord w) :
    words ([' '].intercalate ws) = ws := by
  have hspace : ∀ c ∈ [' '], isBlank c = true := by
    intro c hc
    rw [List.mem_singleton.mp hc]
    rfl
  induction ws with
  | nil => rfl
  | cons w ws ih =>
      have hw := words_of_isWord (h w (by simp))
      cases ws with
      | nil => simpa using hw
      | cons w' ws =>
          rw [List.intercalate_cons_cons, List.append_assoc,
            words_append_blank hspace (List.cons_ne_nil _ _), hw,
            ih fun v hv => h v (List.mem_cons_of_mem _ hv)]
          rfl

/-- Collapsing keeps the words of a text, and nothing else. -/
theorem collapse_eq_iff (s t : String) :
    collapse s = collapse t ↔ words s.toList = words t.toList := by
  constructor
  · intro h
    have hlist := congrArg (fun r : String => words r.toList) h
    simpa only [collapse, String.toList_ofList,
      words_intercalate fun w hw => isWord_of_mem_words hw] using hlist
  · intro h
    rw [collapse, collapse, h]

/-! ## Leaving white space out -/

section

variable {α : Type} (value : α → List Char) (drops : α → Bool)

/-- The text of the pieces that are kept. -/
def kept (pieces : List α) : List Char :=
  (pieces.filter fun a => !drops a).flatMap value

theorem kept_nil : kept value drops [] = [] := rfl

theorem kept_append (before after : List α) :
    kept value drops (before ++ after) = kept value drops before ++ kept value drops after := by
  simp [kept]

variable {value drops}

theorem kept_cons_of_keeps {a : α} (h : drops a = false) (rest : List α) :
    kept value drops (a :: rest) = value a ++ kept value drops rest := by
  simp [kept, h]

theorem kept_cons_of_drops {a : α} (h : drops a = true) (rest : List α) :
    kept value drops (a :: rest) = kept value drops rest := by
  simp [kept, h]

/-- A piece that is left out stood between words that run into each other now. -/
def Joins (value : α → List Char) (drops : α → Bool) (pieces : List α) : Prop :=
  ∃ before a after, pieces = before ++ a :: after ∧ drops a = true
    ∧ Touch (kept value drops before) (kept value drops after)

variable (hdrops : ∀ a, drops a = true → value a ≠ [] ∧ ∀ c ∈ value a, isBlank c = true)
include hdrops

-- All three are by induction on the pieces, after any text `s` that is there in both cases: a piece
-- that is kept goes over into that text.

theorem length_words_kept_le (pieces : List α) : ∀ s : List Char,
    (words (s ++ kept value drops pieces)).length
      ≤ (words (s ++ pieces.flatMap value)).length := by
  induction pieces with
  | nil => exact fun s => Nat.le_refl _
  | cons a rest ih =>
      intro s
      rw [List.flatMap_cons]
      cases ha : drops a with
      | false =>
          rw [kept_cons_of_keeps ha, ← List.append_assoc, ← List.append_assoc]
          exact ih (s ++ value a)
      | true =>
          rw [kept_cons_of_drops ha, words_append_blank (hdrops a ha).2 (hdrops a ha).1,
            List.length_append]
          have hrest := ih []
          have hle := length_words_append_le s (kept value drops rest)
          simp only [List.nil_append] at hrest
          omega

/-- Where a piece joins words, there are less of them. -/
theorem length_words_kept_lt {before after : List α} {a : α} (ha : drops a = true) :
    ∀ s : List Char, Touch (s ++ kept value drops before) (kept value drops after) →
      (words (s ++ kept value drops (before ++ a :: after))).length
        < (words (s ++ (before ++ a :: after).flatMap value)).length := by
  induction before with
  | nil =>
      intro s htouch
      rw [List.nil_append, List.flatMap_cons, kept_cons_of_drops ha,
        words_append_blank (hdrops a ha).2 (hdrops a ha).1, List.length_append]
      rw [kept_nil, List.append_nil] at htouch
      have hjoined := length_words_append htouch
      have hrest := length_words_kept_le hdrops after []
      simp only [List.nil_append] at hrest
      omega
  | cons b before ih =>
      intro s htouch
      rw [List.cons_append, List.flatMap_cons]
      cases hb : drops b with
      | false =>
          rw [kept_cons_of_keeps hb, ← List.append_assoc] at htouch
          rw [kept_cons_of_keeps hb, ← List.append_assoc, ← List.append_assoc]
          exact ih (s ++ value b) htouch
      | true =>
          rw [kept_cons_of_drops hb] at htouch
          rw [kept_cons_of_drops hb, words_append_blank (hdrops b hb).2 (hdrops b hb).1,
            List.length_append]
          exact Nat.lt_of_lt_of_le (ih s htouch) (length_words_append_le _ _)

/-- Where no piece joins words, they are kept. -/
theorem words_kept_of_apart (pieces : List α) : ∀ s : List Char,
    (∀ before a after, pieces = before ++ a :: after → drops a = true →
      ¬ Touch (s ++ kept value drops before) (kept value drops after)) →
    words (s ++ kept value drops pieces) = words (s ++ pieces.flatMap value) := by
  induction pieces with
  | nil => exact fun s _ => rfl
  | cons a rest ih =>
      intro s hapart
      rw [List.flatMap_cons]
      cases ha : drops a with
      | false =>
          rw [kept_cons_of_keeps ha, ← List.append_assoc, ← List.append_assoc]
          refine ih (s ++ value a) fun before b after hrest hb => ?_
          have hlater := hapart (a :: before) b after (by rw [hrest]; rfl) hb
          rwa [kept_cons_of_keeps ha, ← List.append_assoc] at hlater
      | true =>
          have hhere := hapart [] a rest rfl ha
          rw [kept_nil, List.append_nil] at hhere
          have hrest : words (kept value drops rest) = words (rest.flatMap value) := by
            refine ih [] fun before b after hrest hb htouch => ?_
            have hlater := hapart (a :: before) b after (by rw [hrest]; rfl) hb
            rw [kept_cons_of_drops ha] at hlater
            rw [List.nil_append] at htouch
            -- A text that touches another is not empty, so it ends the same with `s` before it.
            have hne : kept value drops before ≠ [] := by
              intro hnil
              rw [hnil] at htouch
              exact absurd htouch.1 (by decide)
            exact hlater ⟨(endsInk_append hne s).trans htouch.1, htouch.2⟩
          rw [kept_cons_of_drops ha, words_append_blank (hdrops a ha).2 (hdrops a ha).1,
            words_append hhere, hrest]

/-- Leaving out white space keeps the words of a text exactly if no two of them are joined. -/
theorem words_kept_iff (pieces : List α) :
    words (kept value drops pieces) = words (pieces.flatMap value)
      ↔ ¬ Joins value drops pieces := by
  constructor
  · rintro hwords ⟨before, a, after, rfl, ha, htouch⟩
    have hless := length_words_kept_lt hdrops ha [] htouch
    rw [List.nil_append, List.nil_append, hwords] at hless
    exact Nat.lt_irrefl _ hless
  · intro hjoins
    exact words_kept_of_apart hdrops pieces [] fun before a after hpieces ha htouch =>
      hjoins ⟨before, a, after, hpieces, ha, htouch⟩

end

end Mdx.Text
