import GraphSketch.OrderedMap
import Mathlib.Data.List.Nodup

/-!
# Entries of ordered maps

`OrderedMap.put` keeps the keys distinct (`nodup_keys_put`), and while they are distinct looking
up a key and finding its entry are the same (`get?_eq_some_iff`).  A new key goes to the end
(`put_of_notMem`).

`OrderedMap.putAll` puts several entries.  Under each key the last of them is what counts
(`get?_putAll`), so that putting the same entries again changes nothing, not even the order of the
keys (`putAll_putAll`).

* `OrderedMap.last?` — the last value that entries have under a key, with its lemmas on lists of
  entries that are joined or made from other lists.
* `putAll_ext` — where no key is new, maps with the same value under each key are the same map.
* `OrderedMap.erase` — a map without a key, for what is said of all fields of a document but one.
-/

set_option autoImplicit false

namespace GraphSketch

namespace OrderedMap

variable {κ α : Type} [DecidableEq κ]

theorem nodup_keys_put {m : OrderedMap κ α} (h : (keys m).Nodup) (k : κ) (a : α) :
    (keys (put m k a)).Nodup := by
  rw [keys_put]
  split
  · exact h
  · rename_i hk
    exact List.nodup_append.mpr ⟨h, by simp, fun x hx y hy => by
      rw [List.mem_singleton] at hy
      rintro rfl
      exact hk (hy ▸ hx)⟩

theorem mem_of_mem_put {m : OrderedMap κ α} {k : κ} {a : α} {e : κ × α} (h : e ∈ put m k a) :
    e = (k, a) ∨ e ∈ m := by
  induction m with
  | nil => exact Or.inl (List.mem_singleton.mp h)
  | cons x m ih =>
    by_cases hx : x.1 = k
    · simp only [put, if_pos hx] at h
      exact (List.mem_cons.mp h).imp_right (List.mem_cons_of_mem x)
    · simp only [put, if_neg hx] at h
      rcases List.mem_cons.mp h with rfl | h
      · exact Or.inr List.mem_cons_self
      · exact (ih h).imp_right (List.mem_cons_of_mem x)

theorem put_of_notMem {m : OrderedMap κ α} {k : κ} (h : k ∉ keys m) (a : α) :
    put m k a = m ++ [(k, a)] := by
  induction m with
  | nil => rfl
  | cons e m ih =>
    simp only [keys, List.map_cons, List.mem_cons, not_or] at h
    have hne : ¬ e.1 = k := fun he => h.1 he.symm
    simp only [put, if_neg hne, ih h.2, List.cons_append]

theorem mem_of_get?_eq_some {m : OrderedMap κ α} {k : κ} {a : α} (h : get? m k = some a) :
    (k, a) ∈ m := by
  induction m with
  | nil => cases h
  | cons e m ih =>
    by_cases he : e.1 = k
    · simp only [get?, if_pos he, Option.some.injEq] at h
      subst he h
      exact List.mem_cons_self
    · simp only [get?, if_neg he] at h
      exact List.mem_cons_of_mem _ (ih h)

theorem get?_eq_some_iff {m : OrderedMap κ α} (hm : (keys m).Nodup) {k : κ} {a : α} :
    get? m k = some a ↔ (k, a) ∈ m := by
  refine ⟨mem_of_get?_eq_some, fun h => ?_⟩
  induction m with
  | nil => cases h
  | cons e m ih =>
    obtain ⟨hnot, hrest⟩ := List.nodup_cons.mp hm
    rcases List.mem_cons.mp h with rfl | h
    · simp [get?]
    · have hne : ¬ e.1 = k := by
        rintro rfl
        exact hnot (List.mem_map.mpr ⟨_, h, rfl⟩)
      simpa only [get?, if_neg hne] using ih hrest h

omit [DecidableEq κ] in
theorem mem_keys_of_mem {m : OrderedMap κ α} {k : κ} {a : α} (h : (k, a) ∈ m) : k ∈ keys m :=
  List.mem_map.mpr ⟨(k, a), h, rfl⟩

theorem mem_keys_put {m : OrderedMap κ α} {k k' : κ} {a : α} :
    k' ∈ keys (put m k a) ↔ k' = k ∨ k' ∈ keys m := by
  rw [keys_put]
  split
  · rename_i hk
    refine ⟨Or.inr, fun h => h.elim (fun he => he ▸ hk) id⟩
  · rw [List.mem_append, List.mem_singleton, or_comm]

theorem put_of_get?_eq_some {m : OrderedMap κ α} {k : κ} {a : α} (h : get? m k = some a) :
    put m k a = m := by
  induction m with
  | nil => cases h
  | cons e m ih =>
    by_cases he : e.1 = k
    · simp only [get?, if_pos he, Option.some.injEq] at h
      rw [put, if_pos he, ← h, ← he]
    · simp only [get?, if_neg he] at h
      rw [put, if_neg he, ih h]

theorem get?_put (m : OrderedMap κ α) (k k' : κ) (a : α) :
    get? (put m k a) k' = if k = k' then some a else get? m k' := by
  split
  · rename_i h
    rw [← h, get?_put_self]
  · rename_i h
    exact get?_put_of_ne m a h

theorem get?_append (m m' : OrderedMap κ α) (k : κ) :
    get? (m ++ m') k = (get? m k).or (get? m' k) := by
  induction m with
  | nil => exact Option.none_or.symm
  | cons e m ih =>
    rw [List.cons_append, get?, get?, ih]
    split <;> rfl

/-! ## Several entries -/

/-- The map with entries put into it, one after the other. -/
def putAll (m : OrderedMap κ α) (entries : List (κ × α)) : OrderedMap κ α :=
  entries.foldl (fun m e => put m e.1 e.2) m

/-- The last value that entries have under a key. -/
def last? (entries : List (κ × α)) (k : κ) : Option α :=
  (entries.filterMap fun e => if e.1 = k then some e.2 else none).getLast?

theorem last?_append (entries more : List (κ × α)) (k : κ) :
    last? (entries ++ more) k = (last? more k).or (last? entries k) := by
  rw [last?, List.filterMap_append, List.getLast?_append]
  rfl

theorem last?_cons (e : κ × α) (entries : List (κ × α)) (k : κ) :
    last? (e :: entries) k = (last? entries k).or (if e.1 = k then some e.2 else none) := by
  rw [← List.singleton_append, last?_append]
  by_cases h : e.1 = k <;> simp [last?, h]

theorem last?_singleton (k k' : κ) (a : α) :
    last? [(k, a)] k' = if k = k' then some a else none := by
  rw [last?_cons]
  exact Option.none_or

theorem last?_eq_none_iff {entries : List (κ × α)} {k : κ} :
    last? entries k = none ↔ k ∉ keys entries := by
  simp only [last?, List.getLast?_eq_none_iff, List.filterMap_eq_nil_iff, ite_eq_right_iff,
    reduceCtorEq, imp_false, keys, List.mem_map, not_exists, not_and]

theorem mem_of_last?_eq_some {entries : List (κ × α)} {k : κ} {a : α}
    (h : last? entries k = some a) : (k, a) ∈ entries := by
  obtain ⟨e, hmem, he⟩ := List.mem_filterMap.mp (List.mem_of_getLast? h)
  split at he
  · rename_i hk
    cases he
    exact hk ▸ hmem
  · cases he

/-- Entries that come in groups have the last value of the last group that has one. -/
theorem last?_flatMap {β : Type} (f : β → List (κ × α)) (k : κ) : ∀ xs : List β,
    last? (xs.flatMap f) k = (xs.filterMap fun x => last? (f x) k).getLast?
  | [] => rfl
  | x :: xs => by
    rw [List.flatMap_cons, last?_append, last?_flatMap f k xs, List.filterMap_cons]
    cases last? (f x) k with
    | none => exact Option.or_none
    | some a => exact (List.getLast?_append (l := [a])).symm

/-- Where each key has one entry the last value is the only one. -/
theorem last?_of_nodup {entries : OrderedMap κ α} (h : (keys entries).Nodup) (k : κ) :
    last? entries k = get? entries k := by
  induction entries with
  | nil => rfl
  | cons e entries ih =>
    obtain ⟨hnot, hrest⟩ := List.nodup_cons.mp h
    rw [last?_cons, ih hrest, get?]
    by_cases he : e.1 = k
    · rw [if_pos he, if_pos he, (get?_eq_none_iff entries k).mpr (he ▸ hnot), Option.none_or]
    · rw [if_neg he, if_neg he, Option.or_none]

theorem putAll_append (m : OrderedMap κ α) (entries more : List (κ × α)) :
    putAll m (entries ++ more) = putAll (putAll m entries) more :=
  List.foldl_append

/-- **The last entry of a key counts**, and a key without entries keeps its value. -/
theorem get?_putAll (entries : List (κ × α)) (k : κ) : ∀ m : OrderedMap κ α,
    get? (putAll m entries) k = (last? entries k).or (get? m k) := by
  induction entries with
  | nil => exact fun m => rfl
  | cons e entries ih =>
    intro m
    rw [putAll, List.foldl_cons, ← putAll, ih, last?_cons, get?_put]
    by_cases h : e.1 = k
    · rw [if_pos h, if_pos h]
      cases last? entries k <;> rfl
    · rw [if_neg h, if_neg h, Option.or_none]

/-- The entries of the first key of a map go to its first place, and all others behind it. -/
theorem putAll_cons (e : κ × α) (entries : List (κ × α)) : ∀ m : OrderedMap κ α,
    ∃ a, putAll (e :: m) entries = (e.1, a) :: putAll m (entries.filter (·.1 ≠ e.1)) := by
  induction entries generalizing e with
  | nil => exact fun m => ⟨e.2, rfl⟩
  | cons first entries ih =>
    intro m
    by_cases h : e.1 = first.1
    · have hput : put (e :: m) first.1 first.2 = (e.1, first.2) :: m := by rw [put, if_pos h, h]
      obtain ⟨a, ha⟩ := ih (e.1, first.2) m
      refine ⟨a, ?_⟩
      rw [putAll, List.foldl_cons, ← putAll, hput, ha, List.filter_cons_of_neg (by simp [h])]
    · have hput : put (e :: m) first.1 first.2 = e :: put m first.1 first.2 := by rw [put, if_neg h]
      obtain ⟨a, ha⟩ := ih e (put m first.1 first.2)
      refine ⟨a, ?_⟩
      rw [putAll, List.foldl_cons, ← putAll, hput, ha,
        List.filter_cons_of_pos (by simpa using Ne.symm h)]
      rfl

/-- Entries for keys that are there leave no more than the values to tell maps apart. -/
theorem putAll_ext : ∀ {m : OrderedMap κ α} {entries more : List (κ × α)},
    (∀ k ∈ keys entries, k ∈ keys m) → (∀ k ∈ keys more, k ∈ keys m) →
    (∀ k, get? (putAll m entries) k = get? (putAll m more) k) →
      putAll m entries = putAll m more
  | [], entries, more, hentries, hmore, _ => by
    have hnil : ∀ {es : List (κ × α)}, (∀ k ∈ keys es, k ∈ keys ([] : OrderedMap κ α)) → es = [] :=
      fun h => List.map_eq_nil_iff.mp
        (List.eq_nil_iff_forall_not_mem.mpr fun k hk => nomatch h k hk)
    rw [hnil hentries, hnil hmore]
  | e :: m, entries, more, hentries, hmore, hget => by
    obtain ⟨a, ha⟩ := putAll_cons e entries m
    obtain ⟨b, hb⟩ := putAll_cons e more m
    have hkeys : ∀ {es : List (κ × α)}, (∀ k ∈ keys es, k ∈ keys (e :: m)) →
        ∀ k ∈ keys (es.filter (·.1 ≠ e.1)), k ∈ keys m := by
      intro es hes k hk
      obtain ⟨x, hx, rfl⟩ := List.mem_map.mp hk
      obtain ⟨hmem, hne⟩ := List.mem_filter.mp hx
      rcases List.mem_cons.mp (hes x.1 (mem_keys_of_mem hmem)) with h | h
      · exact absurd h (by simpa using hne)
      · exact h
    have hlast : ∀ es : List (κ × α), last? (es.filter (·.1 ≠ e.1)) e.1 = none := by
      intro es
      rw [last?_eq_none_iff]
      intro h
      obtain ⟨x, hx, hxe⟩ := List.mem_map.mp h
      simpa [hxe] using (List.mem_filter.mp hx).2
    rw [ha, hb] at hget ⊢
    have hab : a = b := by simpa [get?] using hget e.1
    rw [hab, putAll_ext (hkeys hentries) (hkeys hmore) fun k => ?_]
    by_cases hk : e.1 = k
    · rw [← hk, get?_putAll, get?_putAll, hlast, hlast]
    · simpa [get?, hk] using hget k

theorem mem_keys_putAll {m : OrderedMap κ α} {entries : List (κ × α)} {k : κ} :
    k ∈ keys (putAll m entries) ↔ k ∈ keys entries ∨ k ∈ keys m := by
  rw [← not_iff_not, ← get?_eq_none_iff, get?_putAll, Option.or_eq_none_iff, last?_eq_none_iff,
    get?_eq_none_iff, not_or]

/-- **Putting the same entries again changes nothing.** -/
theorem putAll_putAll (m : OrderedMap κ α) (entries : List (κ × α)) :
    putAll (putAll m entries) entries = putAll m entries := by
  show putAll (putAll m entries) entries = putAll (putAll m entries) []
  refine putAll_ext (fun k hk => mem_keys_putAll.mpr (Or.inl hk)) (fun k hk => nomatch hk)
    fun k => ?_
  show get? (putAll (putAll m entries) entries) k = get? (putAll m entries) k
  rw [get?_putAll, get?_putAll]
  cases last? entries k <;> rfl

/-! ## Taking a key away -/

/-- The map without a key. -/
def erase (m : OrderedMap κ α) (k : κ) : OrderedMap κ α := m.filter fun e => e.1 ≠ k

theorem get?_erase (m : OrderedMap κ α) (k k' : κ) :
    get? (erase m k) k' = if k = k' then none else get? m k' := by
  induction m with
  | nil => exact (ite_self none).symm
  | cons e m ih =>
    by_cases hk : e.1 = k
    · rw [erase, List.filter_cons_of_neg (by simpa using hk), ← erase, ih, get?, hk]
      split <;> rfl
    · rw [erase, List.filter_cons_of_pos (by simpa using hk), ← erase, get?, ih, get?]
      by_cases hk' : e.1 = k'
      · rw [if_pos hk', if_neg fun h => hk (hk'.trans h.symm), if_pos hk']
      · rw [if_neg hk', if_neg hk']

end OrderedMap

end GraphSketch
