import Mdx.Proofs.Tree

/-!
# The positions of siblings

The position of a sibling is told by the entries of the row alone: by their number, and by the
nearest entry before it that has a name. Before the first named sibling the name of the root stands
for one, and a sibling may have that name too. A first sibling so named begins a run that its record
does not tell, and there is no other such run (`ofNames_startsRun_iff`).
-/

namespace Mdx.Order

variable {names : List (Option String)} {i : Nat} {name : String}

/-! ## The nearest name -/

/-- No entry before the position has a name. -/
def Unpreceded (names : List (Option String)) (i : Nat) : Prop :=
  ∀ j < i, names[j]? = some none

/-- The nearest entry with a name before the position has this name. -/
def Precedes (names : List (Option String)) (i : Nat) (name : String) : Prop :=
  ∃ j < i, names[j]? = some (some name) ∧ ∀ k < i, j < k → names[k]? = some none

/-- The name before the end of a row that follows `previous`. -/
def lastName (previous : String) (names : List (Option String)) : String :=
  names.foldl (fun previous name => name.getD previous) previous

theorem unpreceded_or_precedes (h : i ≤ names.length) :
    Unpreceded names i ∨ ∃ name, Precedes names i name := by
  induction i with
  | zero => exact .inl fun j hj => absurd hj (by omega)
  | succ i ih =>
      obtain ⟨entry, hentry⟩ : ∃ entry, names[i]? = some entry :=
        ⟨names[i], List.getElem?_eq_getElem (by omega)⟩
      cases entry with
      | some name => exact .inr ⟨name, i, by omega, hentry, fun k hk hik => by omega⟩
      | none =>
          -- A text at the last place leaves everything as it was before it.
          have hlast : ∀ {k}, k < i + 1 → (k < i → names[k]? = some none) →
              names[k]? = some none := by
            intro k hk hearlier
            by_cases hki : k = i
            · rw [hki, hentry]
            · exact hearlier (by omega)
          rcases ih (by omega) with hnone | ⟨name, j, hj, hname, hbetween⟩
          · exact .inl fun k hk => hlast hk (hnone k)
          · exact .inr ⟨name, j, by omega, hname,
              fun k hk hjk => hlast hk fun hki => hbetween k hki hjk⟩

theorem lastName_take_succ {entry : Option String} (h : names[i]? = some entry)
    (previous : String) :
    lastName previous (names.take (i + 1)) = entry.getD (lastName previous (names.take i)) := by
  rw [List.take_add_one, h, lastName, List.foldl_append]
  rfl

theorem Unpreceded.lastName_take (h : Unpreceded names i) (previous : String) :
    lastName previous (names.take i) = previous := by
  induction i with
  | zero => rfl
  | succ i ih =>
      rw [lastName_take_succ (h i (by omega)), Option.getD_none]
      exact ih fun j hj => h j (by omega)

theorem Precedes.lastName_take (h : Precedes names i name) (previous : String) :
    lastName previous (names.take i) = name := by
  obtain ⟨j, hj, hname, hbetween⟩ := h
  induction i with
  | zero => omega
  | succ i ih =>
      by_cases hji : j = i
      · rw [lastName_take_succ (hji ▸ hname), Option.getD_some]
      · rw [lastName_take_succ (hbetween i (by omega) (by omega)), Option.getD_none]
        exact ih (by omega) fun k hk hjk => hbetween k (by omega) hjk

theorem Precedes.unique {other : String} (h : Precedes names i name)
    (hother : Precedes names i other) : other = name :=
  (hother.lastName_take rootName).symm.trans (h.lastName_take rootName)

theorem Precedes.not_unpreceded (h : Precedes names i name) : ¬ Unpreceded names i := by
  obtain ⟨j, hj, hname, -⟩ := h
  intro hnone
  rw [hnone j hj] at hname
  cases hname

/-! ## One record -/

theorem count_getElem? (index : Nat) (previous : String) (names : List (Option String)) (i : Nat) :
    (count index previous names)[i]? = names[i]?.map fun name =>
      { index := index + i
        firstChild := index + i == 0
        lastChild := i + 1 == names.length
        firstOfType := name.any (· != lastName previous (names.take i))
        prevSiblingName := lastName previous (names.take i) } := by
  induction names generalizing index previous i with
  | nil => simp [count]
  | cons name rest ih =>
      cases i with
      | zero =>
          cases rest with
          | nil => simp [count, lastName]
          | cons next rest => simp [count, lastName]
      | succ i =>
          rw [count, List.getElem?_cons_succ, ih, List.getElem?_cons_succ]
          simp [lastName, Nat.add_assoc, Nat.add_comm 1]

/-- The record of the entry at a position, its run apart. -/
structure IsPosition (names : List (Option String)) (i : Nat) (order : Order) : Prop where
  index : order.index = i
  firstChild : order.firstChild = true ↔ i = 0
  lastChild : order.lastChild = true ↔ i + 1 = names.length
  previous : ∀ name, Precedes names i name → order.prevSiblingName = name
  root : Unpreceded names i → order.prevSiblingName = rootName

/-- The entry has a name, and the nearest one before it that has a name has another. -/
def StartsRun (names : List (Option String)) (i : Nat) : Prop :=
  ∃ name, names[i]? = some (some name) ∧ ∀ previous, Precedes names i previous → name ≠ previous

/-- The entry is the first with a name, and is named as the root. -/
def NamedRoot (names : List (Option String)) (i : Nat) : Prop :=
  Unpreceded names i ∧ names[i]? = some (some rootName)

theorem NamedRoot.startsRun (h : NamedRoot names i) : StartsRun names i :=
  ⟨rootName, h.2, fun _ hprevious => absurd h.1 hprevious.not_unpreceded⟩

theorem firstOfType_iff {order : Order} (h : (ofNames names)[i]? = some order) :
    order.firstOfType = true
      ↔ ∃ name, names[i]? = some (some name) ∧ name ≠ lastName rootName (names.take i) := by
  rw [ofNames, count_getElem?] at h
  obtain ⟨entry, hentry, rfl⟩ := Option.map_eq_some_iff.mp h
  cases entry with
  | none => simp [hentry]
  | some name => simp [hentry]

theorem isPosition_ofNames {order : Order} (h : (ofNames names)[i]? = some order) :
    IsPosition names i order := by
  rw [ofNames, count_getElem?] at h
  obtain ⟨entry, hentry, rfl⟩ := Option.map_eq_some_iff.mp h
  exact ⟨Nat.zero_add i, by simp, by simp, fun name hname => hname.lastName_take _,
    fun hnone => hnone.lastName_take _⟩

/-- A run begins where the record says so, and at a first name that is the root's. -/
theorem startsRun_iff {order : Order} (h : (ofNames names)[i]? = some order) :
    StartsRun names i ↔ order.firstOfType = true ∨ NamedRoot names i := by
  have hlength : i < names.length := by
    obtain ⟨hi, -⟩ := List.getElem?_eq_some_iff.mp h
    rwa [ofNames, length_count] at hi
  rw [firstOfType_iff h]
  rcases unpreceded_or_precedes (Nat.le_of_lt hlength) with hnone | ⟨previous, hprevious⟩
  · rw [hnone.lastName_take]
    constructor
    · rintro ⟨name, hname, -⟩
      by_cases hroot : name = rootName
      · exact .inr ⟨hnone, hroot ▸ hname⟩
      · exact .inl ⟨name, hname, hroot⟩
    · rintro (⟨name, hname, -⟩ | hroot)
      · exact ⟨name, hname, fun _ hprevious => absurd hnone hprevious.not_unpreceded⟩
      · exact hroot.startsRun
  · rw [hprevious.lastName_take]
    constructor
    · rintro ⟨name, hname, hdiffers⟩
      exact .inl ⟨name, hname, hdiffers previous hprevious⟩
    · rintro (⟨name, hname, hdiffers⟩ | hroot)
      · exact ⟨name, hname, fun other hother => hprevious.unique hother ▸ hdiffers⟩
      · exact hroot.startsRun

/-! ## All records -/

/-- Each entry of a row has one record, which gives its place in the row and the nearest name before
it. The record says that a run begins at the entry exactly if one does, unless the entry has the
first name of the row and this is the root's; so the runs of a row are all told exactly if its first
name is not the root's. -/
theorem ofNames_startsRun_iff (names : List (Option String)) :
    (ofNames names).length = names.length
      ∧ (∀ i order, (ofNames names)[i]? = some order → IsPosition names i order
        ∧ (order.firstOfType = true ↔ StartsRun names i ∧ ¬ NamedRoot names i))
      ∧ ((∀ i order, (ofNames names)[i]? = some order →
          (order.firstOfType = true ↔ StartsRun names i)) ↔ ∀ i, ¬ NamedRoot names i) := by
  have hexact : ∀ i order, (ofNames names)[i]? = some order →
      (order.firstOfType = true ↔ StartsRun names i ∧ ¬ NamedRoot names i) := by
    intro i order horder
    rw [startsRun_iff horder]
    refine ⟨fun hfirst => ⟨.inl hfirst, fun hroot => ?_⟩, fun h => h.1.resolve_right h.2⟩
    obtain ⟨name, hname, hdiffers⟩ := (firstOfType_iff horder).mp hfirst
    rw [hroot.1.lastName_take] at hdiffers
    exact hdiffers (by simpa using hname.symm.trans hroot.2)
  refine ⟨length_count 0 rootName names,
    fun i order horder => ⟨isPosition_ofNames horder, hexact i order horder⟩, ?_⟩
  constructor
  · intro hall i hroot
    obtain ⟨hlength, -⟩ := List.getElem?_eq_some_iff.mp hroot.2
    have hrecord : i < (ofNames names).length := by rwa [ofNames, length_count]
    have horder := List.getElem?_eq_getElem hrecord
    exact ((hexact i _ horder).mp ((hall i _ horder).mpr hroot.startsRun)).2 hroot
  · intro hnone i order horder
    rw [hexact i order horder]
    exact and_iff_left (hnone i)

/-- A row of one sibling that is named as the root: it begins a run, and its record says that it
does not. -/
theorem ofNames_root :
    ofNames [some "root"] = [⟨0, true, true, false, "root"⟩]
      ∧ StartsRun [some "root"] 0 ∧ ofNames [some "p"] = [⟨0, true, true, true, "root"⟩] :=
  ⟨rfl, NamedRoot.startsRun ⟨fun j hj => absurd hj (by omega), rfl⟩, rfl⟩

end Mdx.Order
