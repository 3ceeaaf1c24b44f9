import Mdx.Dict

/-!
# Laws of dictionaries

Looking up after an insertion, and building a dictionary from entries that are in order already:
nothing is moved. Lookups need no order, so their laws hold of every association list. Dictionaries
in order are equal if their lookups are, and updating one with the entries of another can be told
key by key.
-/

namespace Mdx.Dict

variable {α : Type}

/-! ## Lookups -/

theorem get?_insert_self (key : String) (value : α) (d : Dict α) :
    get? key (insert key value d) = some value := by
  induction d with
  | nil => simp [insert, get?]
  | cons entry rest ih =>
      obtain ⟨k, v⟩ := entry
      by_cases hk : key = k
      · simp [insert, get?, hk]
      · by_cases hlt : key < k
        · simp [insert, get?, hk, hlt]
        · have hk' : ¬ k = key := fun h => hk h.symm
          simp [insert, get?, hk, hk', hlt, ih]

theorem get?_insert_ne {key other : String} (h : key ≠ other) (value : α) (d : Dict α) :
    get? other (insert key value d) = get? other d := by
  induction d with
  | nil => simp [insert, get?, h]
  | cons entry rest ih =>
      obtain ⟨k, v⟩ := entry
      by_cases hk : key = k
      · subst hk
        simp [insert, get?, h]
      · by_cases hlt : key < k
        · simp [insert, get?, hk, hlt, h]
        · simp [insert, get?, hk, hlt, ih]

theorem get?_insert (key other : String) (value : α) (d : Dict α) :
    get? other (insert key value d) = if key = other then some value else get? other d := by
  by_cases h : key = other
  · subst h
    simp [get?_insert_self]
  · simp [h, get?_insert_ne h]

/-- Entries made from their keys are found under them. -/
theorem get?_foldl_insert (f : String → α) (names : List String) (d : Dict α) (key : String) :
    get? key (names.foldl (fun d name => d.insert name (f name)) d)
      = if names.contains key then some (f key) else get? key d := by
  induction names generalizing d with
  | nil => simp
  | cons name rest ih =>
      rw [List.foldl_cons, ih, get?_insert]
      by_cases hrest : rest.contains key = true
      · simp_all
      · by_cases hname : name = key
        · simp_all
        · have hkey : ¬ key = name := fun h => hname h.symm
          simp_all

/-! ## Entries -/

theorem mem_of_get? {key : String} {value : α} {d : Dict α} (h : get? key d = some value) :
    (key, value) ∈ d := by
  induction d with
  | nil => cases h
  | cons entry rest ih =>
      rw [get?] at h
      split at h
      · rename_i hkey
        rw [← hkey, ← Option.some.inj h]
        exact List.mem_cons_self
      · exact List.mem_cons_of_mem _ (ih h)

theorem get?_eq_none_iff {key : String} {d : Dict α} : get? key d = none ↔ key ∉ d.keys := by
  induction d with
  | nil => simp [get?, keys]
  | cons entry rest ih =>
      obtain ⟨k, v⟩ := entry
      by_cases hk : k = key
      · simp [get?, keys, hk]
      · have hk' : ¬ key = k := fun h => hk h.symm
        simpa [get?, keys, hk, hk'] using ih

theorem mem_insert {key : String} {value : α} {d : Dict α} {entry : String × α}
    (h : entry ∈ insert key value d) : entry = (key, value) ∨ entry ∈ d := by
  induction d with
  | nil => simpa [insert] using h
  | cons first rest ih =>
      obtain ⟨k, v⟩ := first
      simp only [insert] at h
      split at h
      · simp only [List.mem_cons] at h ⊢
        rcases h with h | h
        · exact Or.inl h
        · exact Or.inr (Or.inr h)
      · split at h
        · simpa using h
        · rcases List.mem_cons.mp h with h | h
          · exact Or.inr (by simp [h])
          · exact (ih h).imp_right (List.mem_cons_of_mem _)

theorem mem_union {d e : Dict α} {entry : String × α} (h : entry ∈ d.union e) :
    entry ∈ d ∨ entry ∈ e := by
  induction e generalizing d with
  | nil => exact Or.inl h
  | cons first rest ih =>
      obtain ⟨k, v⟩ := first
      rcases ih (d := insert k v d) h with h | h
      · rcases mem_insert h with rfl | h
        · exact Or.inr (by simp)
        · exact Or.inl h
      · exact Or.inr (List.mem_cons_of_mem _ h)

theorem mem_ofList {entries : List (String × α)} {entry : String × α}
    (h : entry ∈ ofList entries) : entry ∈ entries := by
  rcases mem_union (d := []) h with h | h
  · simp at h
  · exact h

/-! ## Entries in order -/

instance (d : Dict α) : Decidable (Sorted d) :=
  inferInstanceAs (Decidable (d.keys.Pairwise (· < ·)))

/-- A key above all others goes to the end. -/
theorem insert_eq_append {key : String} {d : Dict α} (h : ∀ k ∈ d.keys, k < key) (value : α) :
    insert key value d = d ++ [(key, value)] := by
  induction d with
  | nil => rfl
  | cons entry rest ih =>
      obtain ⟨k, v⟩ := entry
      have hk : k < key := h k (by simp [keys])
      have hne : ¬ key = k := fun heq => String.lt_irrefl k (heq ▸ hk)
      have hlt : ¬ key < k := String.lt_asymm hk
      have hrest : ∀ k' ∈ keys rest, k' < key := fun k' hk' => h k' (by
        simp only [keys, List.map_cons, List.mem_cons] at hk' ⊢
        exact Or.inr hk')
      simp [insert, hne, hlt, ih hrest]

theorem Sorted.parts {k : String} {v : α} {rest : Dict α} (h : Sorted ((k, v) :: rest)) :
    (∀ k' ∈ keys rest, k < k') ∧ Sorted rest :=
  List.pairwise_cons.mp h

theorem Sorted.nodup_keys {d : Dict α} (h : Sorted d) : d.keys.Nodup := by
  refine List.Pairwise.imp ?_ h
  intro k k' hlt heq
  exact String.lt_irrefl k' (heq ▸ hlt)

theorem get?_eq_none_of_lt {key : String} {d : Dict α} (h : ∀ k ∈ d.keys, key < k) :
    get? key d = none :=
  get?_eq_none_iff.mpr fun hmem => String.lt_irrefl key (h key hmem)

/-- A value that is there is replaced in its place. -/
theorem keys_insert_of_get? {key : String} {d : Dict α} (hd : Sorted d) {old : α}
    (h : get? key d = some old) (value : α) : (insert key value d).keys = d.keys := by
  induction d with
  | nil => cases h
  | cons entry rest ih =>
      obtain ⟨k, v⟩ := entry
      have hparts := hd.parts
      rw [insert]
      by_cases hkey : key = k
      · rw [if_pos hkey, hkey]
        rfl
      · have hne : ¬ k = key := fun heq => hkey heq.symm
        rw [get?, if_neg hne] at h
        rw [if_neg hkey]
        split
        · -- The key would stand before all others, so it has no value.
          rename_i hlt
          have hnone : get? key rest = none :=
            get?_eq_none_of_lt fun k' hk' => String.lt_trans hlt (hparts.1 k' hk')
          rw [hnone] at h
          cases h
        · exact congrArg (k :: ·) (ih hparts.2 h)

/-- Entries that continue the order are added as they stand. -/
theorem union_eq_append {d e : Dict α} (h : Sorted (d ++ e)) : d.union e = d ++ e := by
  induction e generalizing d with
  | nil => simp [union]
  | cons entry rest ih =>
      obtain ⟨k, v⟩ := entry
      have hlast : ∀ k' ∈ d.keys, k' < k := by
        intro k' hk'
        simp only [Sorted, keys, List.map_append, List.map_cons, List.pairwise_append] at h
        exact h.2.2 k' hk' k (by simp)
      have hinsert : insert k v d = d ++ [(k, v)] := insert_eq_append hlast v
      have hsorted : Sorted ((d ++ [(k, v)]) ++ rest) := by simpa using h
      have hrest : union (d ++ [(k, v)]) rest = (d ++ [(k, v)]) ++ rest := ih hsorted
      simp only [union, List.foldl_cons] at hrest ⊢
      rw [hinsert, hrest, List.append_assoc]
      rfl

/-- A dictionary is built from its own entries unchanged. -/
theorem ofList_of_sorted {d : Dict α} (h : Sorted d) : ofList d = d := by
  have hunion : union ([] : Dict α) d = [] ++ d := union_eq_append (by simpa using h)
  simpa [union, ofList] using hunion

/-! ## Updates -/

theorem eq_of_not_lt {k k' : String} (h : ¬ k < k') (h' : ¬ k' < k) : k = k' :=
  String.le_antisymm (String.not_lt.mp h') (String.not_lt.mp h)

theorem mem_keys_insert {key k : String} {value : α} {d : Dict α}
    (h : k ∈ keys (insert key value d)) : k = key ∨ k ∈ keys d := by
  obtain ⟨entry, hentry, rfl⟩ := List.mem_map.mp h
  rcases mem_insert hentry with rfl | hentry
  · exact Or.inl rfl
  · exact Or.inr (List.mem_map_of_mem hentry)

theorem Sorted.insert {d : Dict α} (h : Sorted d) (key : String) (value : α) :
    Sorted (insert key value d) := by
  induction d with
  | nil => exact List.pairwise_singleton _ _
  | cons entry rest ih =>
      obtain ⟨k, v⟩ := entry
      have hparts := h.parts
      rw [Dict.insert]
      by_cases hkey : key = k
      · rw [if_pos hkey, hkey]
        exact h
      · rw [if_neg hkey]
        split
        · rename_i hlt
          refine List.pairwise_cons.mpr ⟨fun k' hk' => ?_, h⟩
          rcases List.mem_cons.mp hk' with rfl | hk'
          · exact hlt
          · exact String.lt_trans hlt (hparts.1 k' hk')
        · rename_i hlt
          have hk : k < key := Decidable.byContradiction fun hnot => hkey (eq_of_not_lt hlt hnot)
          refine List.pairwise_cons.mpr ⟨fun k' hk' => ?_, ih hparts.2⟩
          rcases mem_keys_insert hk' with rfl | hk'
          · exact hk
          · exact hparts.1 k' hk'

/-- A key below the first has no value. -/
theorem Sorted.get?_of_lt {k key : String} {v : α} {rest : Dict α} (h : Sorted ((k, v) :: rest))
    (hlt : key < k) : get? key ((k, v) :: rest) = none := by
  refine get?_eq_none_of_lt fun other hother => ?_
  rcases List.mem_cons.mp hother with rfl | hother
  · exact hlt
  · exact String.lt_trans hlt (h.parts.1 other hother)

/-- Dictionaries in order are told by their lookups. -/
theorem Sorted.ext {d e : Dict α} (hd : Sorted d) (he : Sorted e)
    (h : ∀ key, get? key d = get? key e) : d = e := by
  induction d generalizing e with
  | nil =>
      cases e with
      | nil => rfl
      | cons entry rest => simpa [get?] using h entry.1
  | cons entry rest ih =>
      obtain ⟨k, v⟩ := entry
      cases e with
      | nil => simpa [get?] using h k
      | cons entry' rest' =>
          obtain ⟨k', v'⟩ := entry'
          -- The smaller of the two first keys would have a value on one side alone.
          have hk : k = k' := by
            refine eq_of_not_lt (fun hlt => ?_) fun hlt => ?_
            · have hget := h k
              rw [he.get?_of_lt hlt] at hget
              simp [get?] at hget
            · have hget := h k'
              rw [hd.get?_of_lt hlt] at hget
              simp [get?] at hget
          subst hk
          have hv : v = v' := by simpa [get?] using h k
          subst hv
          refine congrArg _ (ih hd.parts.2 he.parts.2 fun key => ?_)
          by_cases hkey : k = key
          · subst hkey
            rw [get?_eq_none_of_lt hd.parts.1, get?_eq_none_of_lt he.parts.1]
          · simpa [get?, hkey] using h key

variable (f : Option α → α → α)

/-- The entries of `e`, each with what there was under its key before. -/
theorem get?_update {e : Dict α} (he : Sorted e) (d : Dict α) (key : String) :
    get? key (e.foldl (fun m (k, v) => m.insert k (f (m.get? k) v)) d)
      = ((get? key e).map (f (get? key d))).or (get? key d) := by
  induction e generalizing d with
  | nil => rfl
  | cons entry rest ih =>
      obtain ⟨k, v⟩ := entry
      have hparts := he.parts
      rw [List.foldl_cons, ih hparts.2, get?_insert, get?]
      by_cases hkey : k = key
      · subst hkey
        rw [get?_eq_none_of_lt hparts.1]
        simp
      · simp [hkey]

theorem Sorted.update {d : Dict α} (hd : Sorted d) (e : Dict α) :
    Sorted (e.foldl (fun m (k, v) => m.insert k (f (m.get? k) v)) d) := by
  induction e generalizing d with
  | nil => exact hd
  | cons entry rest ih => exact ih (hd.insert entry.1 _)

theorem get?_union {e : Dict α} (he : Sorted e) (d : Dict α) (key : String) :
    get? key (d.union e) = (get? key e).or (get? key d) := by
  have hunion := get?_update (fun _ v => v) he d key
  rw [Option.map_id'] at hunion
  exact hunion

theorem Sorted.union {d : Dict α} (hd : Sorted d) (e : Dict α) : Sorted (d.union e) :=
  hd.update (fun _ v => v) e

theorem sorted_ofList (entries : List (String × α)) : Sorted (ofList entries) :=
  Sorted.union (d := []) List.Pairwise.nil entries

end Mdx.Dict
