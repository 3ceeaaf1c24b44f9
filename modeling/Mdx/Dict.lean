/-!
# Dictionaries

Maps from texts to values, kept as association lists in increasing order of their keys. The order
is that of code points, which is also the order in which keys are written out.
-/

namespace Mdx

/-- An association list; the operations below keep its keys distinct and in increasing order. -/
abbrev Dict (α : Type) := List (String × α)

namespace Dict

variable {α β : Type}

/-- The keys, in order. -/
def keys (d : Dict α) : List String :=
  d.map Prod.fst

/-- Distinct keys in increasing order. -/
def Sorted (d : Dict α) : Prop :=
  d.keys.Pairwise (· < ·)

/-- The value under a key. -/
def get? (key : String) : Dict α → Option α
  | [] => none
  | (k, v) :: rest => if k = key then some v else get? key rest

/-- The key has a value. -/
def has (key : String) (d : Dict α) : Bool :=
  (d.get? key).isSome

/-- Sets the value under a key, replacing an earlier one. -/
def insert (key : String) (value : α) : Dict α → Dict α
  | [] => [(key, value)]
  | (k, v) :: rest =>
    if key = k then (key, value) :: rest
    else if key < k then (key, value) :: (k, v) :: rest
    else (k, v) :: insert key value rest

/-- The dictionary of a list of entries in any order; of two entries with one key the later wins. -/
def ofList (entries : List (String × α)) : Dict α :=
  entries.foldl (fun d (k, v) => d.insert k v) []

/-- Adds the entries of `e`, which replace those of `d` with the same key. -/
def union (d e : Dict α) : Dict α :=
  e.foldl (fun acc (k, v) => acc.insert k v) d

end Dict

end Mdx
