/-!
# Maps that keep the order of insertion

A map is the list of its entries; a key keeps the place at which it was first put, whatever is put
under it later. Tables of numbers, objects of JSON files, files in a tree and documents are all
kept in such maps, because their order can be seen: in a saved file, in a list of nodes, in the
order in which attributes and fields are written.

* `OrderedMap.get?` looks a key up, and `OrderedMap.put` sets it, in its place or at the end
  (`get?_put_self`, `get?_put_of_ne`).
* `OrderedMap.keys` and `OrderedMap.has` tell the keys; `keys_put` says where a new key goes.
* `OrderedMap.ofList` puts entries one after the other, so that of two with one key the later
  value stands in the earlier place.

A list may have entries that no run of `put` would leave, two with one key for example. `get?`
finds the first of them then. Where this matters, lemmas ask that no key is repeated, and in the
maps that the programs make none is.
-/

set_option autoImplicit false

namespace GraphSketch

/-- Entries in the order in which their keys were first put. -/
abbrev OrderedMap (κ α : Type) := List (κ × α)

namespace OrderedMap

variable {κ α : Type} [DecidableEq κ]

/-- The value under a key. -/
def get? : OrderedMap κ α → κ → Option α
  | [], _ => none
  | (k', a) :: m, k => if k' = k then some a else get? m k

/-- The map with `a` under `k`: in place of the old value, or at the end. -/
def put : OrderedMap κ α → κ → α → OrderedMap κ α
  | [], k, a => [(k, a)]
  | (k', b) :: m, k, a => if k' = k then (k, a) :: m else (k', b) :: put m k a

/-- The keys in order. -/
def keys (m : OrderedMap κ α) : List κ := m.map (·.1)

/-- Whether something is under the key. -/
def has (m : OrderedMap κ α) (k : κ) : Bool := (get? m k).isSome

/-- The entries put one after the other into an empty map. -/
def ofList (entries : List (κ × α)) : OrderedMap κ α :=
  entries.foldl (fun m e => put m e.1 e.2) []

theorem get?_put_self (m : OrderedMap κ α) (k : κ) (a : α) : get? (put m k a) k = some a := by
  induction m with
  | nil => simp [put, get?]
  | cons e m ih =>
    by_cases h : e.1 = k
    · simp [put, get?, h]
    · simp [put, get?, h, ih]

theorem get?_put_of_ne (m : OrderedMap κ α) {k k' : κ} (a : α) (hk : k' ≠ k) :
    get? (put m k' a) k = get? m k := by
  induction m with
  | nil => simp [put, get?, hk]
  | cons e m ih =>
    by_cases h : e.1 = k'
    · simp [put, get?, h, hk]
    · simp only [put, if_neg h, get?, ih]

theorem get?_eq_none_iff (m : OrderedMap κ α) (k : κ) : get? m k = none ↔ k ∉ keys m := by
  induction m with
  | nil => simp [get?, keys]
  | cons e m ih =>
    by_cases h : e.1 = k
    · simp [get?, keys, h]
    · have h' : ¬ k = e.1 := fun he => h he.symm
      simpa [get?, keys, h, h'] using ih

theorem keys_put (m : OrderedMap κ α) (k : κ) (a : α) :
    keys (put m k a) = if k ∈ keys m then keys m else keys m ++ [k] := by
  induction m with
  | nil => simp [put, keys]
  | cons e m ih =>
    by_cases h : e.1 = k
    · simp [put, keys, h]
    · have h' : ¬ k = e.1 := fun he => h he.symm
      have hput : keys (put (e :: m) k a) = e.1 :: keys (put m k a) := by simp [put, h, keys]
      have hmem : k ∈ keys (e :: m) ↔ k ∈ keys m := by simp [keys, h']
      rw [hput, ih]
      simp only [hmem]
      split <;> simp [keys]

end OrderedMap

end GraphSketch
