import Mathlib.Algebra.Group.Int.Defs
import Mathlib.Algebra.Group.Nat.Defs
import Mathlib.Data.List.Basic
import Mdx.Module.Expr
import Mdx.Proofs.Dict
import Mdx.Proofs.Json.Reading

/-!
# The host language

What a module relies on in the language that it is written in: which properties an object has, and
what a literal evaluates to. Of the fields of an object literal a later one replaces an earlier one,
and `__proto__` sets the prototype and defines no property; numbers are doubles. The text of a JSON
value is a literal of the language, but not always one for that value: `Value.ofLiteral_eq_iff` says
for which values it is.
-/

namespace Mdx.Module

/-! ## Properties -/

/-- The key that sets the prototype of an object and defines no property. -/
def prototypeKey : String := "__proto__"

/-- The distance between two doubles next to a natural number. -/
def spacing (n : Nat) : Nat :=
  2 ^ (n.log2 + 1 - 53)

/-- The double nearest to a natural number, and of two such the one with an even significand. -/
def nearestNat (n : Nat) : Nat :=
  let low := n / spacing n
  let rest := 2 * (n % spacing n)
  spacing n * (if rest < spacing n ∨ rest = spacing n ∧ low % 2 = 0 then low else low + 1)

/-- The double nearest to an integer. -/
def nearest (n : Int) : Int :=
  n.sign * nearestNat n.natAbs

/-- The integer is a double: its significand has at most 53 bits. -/
def IsDouble (n : Int) : Prop :=
  ∃ (m : Int) (k : Nat), m.natAbs < 2 ^ 53 ∧ n = m * 2 ^ k

theorem spacing_pos (n : Nat) : 0 < spacing n :=
  Nat.two_pow_pos _

theorem spacing_dvd_nearestNat (n : Nat) : spacing n ∣ nearestNat n :=
  Nat.dvd_mul_right _ _

/-- What is read is at most half the spacing away. -/
theorem nearestNat_close (n : Nat) :
    2 * n ≤ 2 * nearestNat n + spacing n ∧ 2 * nearestNat n ≤ 2 * n + spacing n := by
  have hsum : spacing n * (n / spacing n) + n % spacing n = n := Nat.div_add_mod n (spacing n)
  have hrest : n % spacing n < spacing n := Nat.mod_lt n (spacing_pos n)
  rw [nearestNat]
  split
  · omega
  · rw [Nat.mul_add, Nat.mul_one]
    omega

theorem nearestNat_eq_self_iff (n : Nat) : nearestNat n = n ↔ spacing n ∣ n := by
  constructor
  · intro h
    have hdvd := spacing_dvd_nearestNat n
    rwa [h] at hdvd
  · intro h
    have hrest : n % spacing n = 0 := Nat.mod_eq_zero_of_dvd h
    rw [nearestNat, hrest, if_pos (.inl (spacing_pos n)), Nat.mul_div_cancel' h]

/-- The multiples of the spacing are the doubles. -/
theorem spacing_dvd_iff (n : Nat) :
    spacing n ∣ n ↔ ∃ m k, m < 2 ^ 53 ∧ n = m * 2 ^ k := by
  constructor
  · intro h
    refine ⟨n / spacing n, n.log2 + 1 - 53, ?_, (Nat.div_mul_cancel h).symm⟩
    apply Nat.div_lt_of_lt_mul
    calc n < 2 ^ (n.log2 + 1) := Nat.lt_log2_self
      _ ≤ 2 ^ (n.log2 + 1 - 53 + 53) := Nat.pow_le_pow_right (by decide) (by omega)
      _ = spacing n * 2 ^ 53 := Nat.pow_add 2 _ _
  · rintro ⟨m, k, hm, hn⟩
    by_cases hzero : n = 0
    · rw [hzero]
      exact Nat.dvd_zero _
    · -- The number has at most `53 + k` bits.
      have hlog : n.log2 < 53 + k := by
        rw [Nat.log2_lt hzero, hn, Nat.pow_add]
        exact Nat.mul_lt_mul_of_pos_right hm (Nat.two_pow_pos k)
      have hpow : spacing n ∣ 2 ^ k := Nat.pow_dvd_pow 2 (by omega)
      exact Nat.dvd_trans hpow ⟨m, by rw [hn, Nat.mul_comm]⟩

/-- Exactly the doubles are read as they stand. -/
theorem nearest_eq_self_iff (n : Int) : nearest n = n ↔ IsDouble n := by
  have hnat : nearest n = n ↔ nearestNat n.natAbs = n.natAbs := by
    constructor
    · intro h
      by_cases hzero : n = 0
      · rw [hzero]
        rfl
      · have habs := congrArg Int.natAbs h
        rwa [nearest, Int.natAbs_mul, Int.natAbs_sign_of_ne_zero hzero, Nat.one_mul,
          Int.natAbs_natCast] at habs
    · intro h
      rw [nearest, h, Int.sign_mul_natAbs]
  rw [hnat, nearestNat_eq_self_iff, spacing_dvd_iff]
  constructor
  · rintro ⟨m, k, hm, hn⟩
    have hcast : (n.natAbs : Int) = m * 2 ^ k := by
      rw [hn, Int.natCast_mul, Int.natCast_pow]
      rfl
    rcases Int.natAbs_eq n with hsign | hsign
    · exact ⟨m, k, hm, hsign.trans hcast⟩
    · refine ⟨-m, k, by rwa [Int.natAbs_neg], ?_⟩
      rw [hsign, hcast, Int.neg_mul]
  · rintro ⟨m, k, hm, hn⟩
    refine ⟨m.natAbs, k, hm, ?_⟩
    rw [hn, Int.natAbs_mul, Int.natAbs_pow]
    rfl

example : nearest (2 ^ 53 + 1) = 2 ^ 53 ∧ nearest (-(2 ^ 53 + 3)) = -(2 ^ 53 + 4) := by decide

/-! ## Values -/

/-- A value of the language. -/
inductive Value where
  | null
  | bool (value : Bool)
  | num (value : Json.Number)
  | str (value : String)
  | arr (items : List Value)
  /-- An object, with the prototype that it was given, if any, and its own properties. -/
  | obj (prototype : Option Value) (properties : List (String × Value))
  /-- What is loaded from a file beside the document. -/
  | asset (path : String)
  /-- The components that the module was given. -/
  | components
  | children (row : List Expr)

/-- Of the values of literals, the objects and null can be prototypes. -/
def Value.isPrototype : Value → Bool
  | .null | .arr _ | .obj _ _ => true
  | _ => false

/-- Defines the property of a field, in place of an earlier one. -/
def define (object : Dict Value) (field : String × Value) : Dict Value :=
  if field.1 = prototypeKey then object else object.insert field.1 field.2

/-- The properties of the object that a literal with the given fields evaluates to. -/
def properties (fields : List (String × Value)) : Dict Value :=
  fields.foldl define []

/-- The object that a literal with the given fields evaluates to. -/
def Value.ofFields (fields : List (String × Value)) : Value :=
  .obj ((Dict.get? prototypeKey fields).filter isPrototype) (properties fields)

/-- The double that is read for a number. -/
def readNumber : Json.Number → Json.Number
  | .int n => .int (nearest n)
  | .float x => .float x

namespace Value

mutual

/-- Makes a value of JSON, given what is made of its numbers and of the fields of its objects. -/
def build (number : Json.Number → Json.Number) (object : List (String × Value) → Value) :
    Json → Value
  | .null => .null
  | .bool b => .bool b
  | .num n => .num (number n)
  | .str s => .str s
  | .arr items => .arr (buildItems number object items)
  | .obj fields => object (buildFields number object fields)

/-- Makes values of items. -/
def buildItems (number : Json.Number → Json.Number) (object : List (String × Value) → Value) :
    List Json → List Value
  | [] => []
  | item :: rest => build number object item :: buildItems number object rest

/-- Makes values of the values of fields. -/
def buildFields (number : Json.Number → Json.Number) (object : List (String × Value) → Value) :
    List (String × Json) → List (String × Value)
  | [] => []
  | (key, value) :: rest => (key, build number object value) :: buildFields number object rest

end

/-- What the text of a JSON value evaluates to. -/
def ofLiteral : Json → Value :=
  build readNumber ofFields

/-- A JSON value as it is: every number is itself, and every field is a property. -/
def ofJson : Json → Value :=
  build id (.obj none)

section

variable (number : Json.Number → Json.Number) (object : List (String × Value) → Value)

theorem build_arr (items : List Json) :
    build number object (.arr items) = .arr (items.map (build number object)) := by
  rw [build]
  congr 1
  induction items with
  | nil => rfl
  | cons item rest ih => rw [buildItems, ih, List.map_cons]

theorem build_obj (fields : List (String × Json)) :
    build number object (.obj fields)
      = object (fields.map fun field => (field.1, build number object field.2)) := by
  rw [build]
  congr 1
  induction fields with
  | nil => rfl
  | cons field rest ih => rw [buildFields, ih, List.map_cons]

end

end Value

/-! ## Fields -/

/-- A field with another key, or with that of the prototype, defines nothing under a key. -/
theorem get?_define_ne {object : Dict Value} {field : String × Value} {key : String}
    (h : field.1 ≠ key ∨ key = prototypeKey) :
    (define object field).get? key = object.get? key := by
  rw [define]
  split
  · rfl
  · rename_i hfield
    refine Dict.get?_insert_ne (fun hsame => ?_) _ _
    rcases h with h | h
    · exact h hsame
    · exact hfield (hsame.trans h)

theorem get?_foldl_define_ne {fields : List (String × Value)} {key : String}
    (h : ∀ field ∈ fields, field.1 ≠ key ∨ key = prototypeKey) (object : Dict Value) :
    (fields.foldl define object).get? key = object.get? key := by
  induction fields generalizing object with
  | nil => rfl
  | cons field rest ih =>
      obtain ⟨hfield, hrest⟩ := List.forall_mem_cons.mp h
      rw [List.foldl_cons, ih hrest, get?_define_ne hfield]

/-- A field that no later one replaces has its own value. -/
theorem get?_foldl_define {fields : List (String × Value)} {key : String} {value : Value}
    (hmem : (key, value) ∈ fields) (hkeys : (Dict.keys fields).Nodup) (hkey : key ≠ prototypeKey)
    (object : Dict Value) : (fields.foldl define object).get? key = some value := by
  induction fields generalizing object with
  | nil => cases hmem
  | cons first rest ih =>
      rw [Dict.keys, List.map_cons, List.nodup_cons] at hkeys
      rw [List.foldl_cons]
      rcases List.mem_cons.mp hmem with rfl | hmem
      · have hrest : ∀ other ∈ rest, other.1 ≠ key ∨ key = prototypeKey :=
          fun other hother => .inl fun hsame => hkeys.1 (List.mem_map.mpr ⟨other, hother, hsame⟩)
        rw [get?_foldl_define_ne hrest, define, if_neg hkey, Dict.get?_insert_self]
      · exact ih hmem hkeys.2 _

/-- No field defines a property with the key of the prototype. -/
theorem get?_properties_prototype (fields : List (String × Value)) :
    (properties fields).get? prototypeKey = none :=
  get?_foldl_define_ne (fun _ _ => .inr rfl) []

/-- Fields that set no prototype are the properties. -/
theorem properties_eq {fields : List (String × Value)} (hsorted : Dict.Sorted fields)
    (h : prototypeKey ∉ Dict.keys fields) : properties fields = fields := by
  have hdefine : properties fields = Dict.ofList fields := by
    refine List.foldl_ext _ _ _ fun object field hfield => ?_
    have hkey : field.1 ≠ prototypeKey := fun hsame => h (List.mem_map.mpr ⟨field, hfield, hsame⟩)
    rw [define, if_neg hkey]
  rw [hdefine, Dict.ofList_of_sorted hsorted]

/-! ## Literals for JSON values -/

/-- No object in the value has a field that sets its prototype, and its integers are doubles. -/
def Portable : Json → Prop :=
  Json.Everywhere fun
    | .num (.int n) => IsDouble n
    | .obj fields => prototypeKey ∉ Dict.keys fields
    | _ => True

theorem portable_num (n : Json.Number) : Portable (.num n) ↔ readNumber n = n := by
  cases n with
  | int value => simp [Portable, Json.Everywhere, readNumber, nearest_eq_self_iff]
  | float value => simp [Portable, Json.Everywhere, readNumber]

theorem portable_arr (items : List Json) : Portable (.arr items) ↔ ∀ v ∈ items, Portable v := by
  simp [Portable, Json.Everywhere, Json.everyItem_iff]

theorem portable_obj (fields : List (String × Json)) :
    Portable (.obj fields)
      ↔ prototypeKey ∉ Dict.keys fields ∧ ∀ field ∈ fields, Portable field.2 := by
  simp [Portable, Json.Everywhere, Json.everyField_iff]

/-- Fields that set no prototype evaluate to themselves if their values do, and other fields do
not. -/
theorem Value.ofLiteral_obj_eq_iff {fields : List (String × Json)} (hsorted : Dict.Sorted fields) :
    ofLiteral (.obj fields) = ofJson (.obj fields)
      ↔ prototypeKey ∉ Dict.keys fields ∧ ∀ field ∈ fields, ofLiteral field.2 = ofJson field.2 := by
  have hkeys : ∀ value : Json → Value,
      Dict.keys (fields.map fun field => (field.1, value field.2)) = Dict.keys fields := by
    simp [Dict.keys]
  have hliteral : ofLiteral (.obj fields)
      = .ofFields (fields.map fun field => (field.1, ofLiteral field.2)) := build_obj _ _ fields
  have hjson : ofJson (.obj fields)
      = .obj none (fields.map fun field => (field.1, ofJson field.2)) := build_obj _ _ fields
  rw [hliteral, hjson, ofFields]
  by_cases hprototype : prototypeKey ∈ Dict.keys fields
  · refine ⟨fun h => ?_, fun h => absurd hprototype h.1⟩
    -- As data there is a property under the key, and in the object there is none.
    have hnone := get?_properties_prototype (fields.map fun field => (field.1, ofLiteral field.2))
    rw [(Value.obj.inj h).2, Dict.get?_eq_none_iff, hkeys] at hnone
    exact absurd hprototype hnone
  · have habsent : prototypeKey
        ∉ Dict.keys (fields.map fun field => (field.1, ofLiteral field.2)) := by
      rw [hkeys]
      exact hprototype
    have hordered : Dict.Sorted (fields.map fun field => (field.1, ofLiteral field.2)) := by
      rw [Dict.Sorted, hkeys]
      exact hsorted
    rw [Dict.get?_eq_none_iff.mpr habsent, properties_eq hordered habsent]
    simp [hprototype]

/-- The text of a value evaluates to the value exactly if the value is portable. -/
theorem Value.ofLiteral_eq_iff {v : Json} (hv : v.Ordered) :
    ofLiteral v = ofJson v ↔ Portable v := by
  induction v using Json.nested with
  | null => exact ⟨fun _ => trivial, fun _ => rfl⟩
  | bool b => exact ⟨fun _ => trivial, fun _ => rfl⟩
  | num n => rw [ofLiteral, ofJson, build, build, portable_num, Value.num.injEq, id]
  | str s => exact ⟨fun _ => trivial, fun _ => rfl⟩
  | arr items ih =>
      rw [Json.ordered_arr] at hv
      rw [ofLiteral, ofJson, build_arr, build_arr, portable_arr, Value.arr.injEq, List.map_inj_left]
      exact forall₂_congr fun v hmem => ih v hmem (hv v hmem)
  | obj fields ih =>
      rw [Json.ordered_obj] at hv
      rw [ofLiteral_obj_eq_iff hv.1, portable_obj]
      exact and_congr_right fun _ =>
        forall₂_congr fun field hmem => ih field hmem (hv.2 field hmem)

end Mdx.Module
