import GraphSketch.Numbering
import GraphSketch.Proofs.OrderedMap
import Mathlib.Data.List.Induction

/-!
# Sound numberings

A numbering holds two tables and a counter that are updated side by side.  `Numbering.Sound` ties
them together: each label stands once, the second table is the inverse of the first, in which the
last label of a number wins, and the counter lies above every number.

* `ofJson_sound` — every numbering that is loaded from a mapping is sound, hand-edited mappings
  with repeated numbers included.
* `assign_sound` — giving out a number keeps a numbering sound.
* `ofJson_toJson` — a sound numbering that is saved and loaded again has the same tables, and its
  counter has not fallen; if the counter is positive it is the same (`ofJson_toJson_self`).
-/

set_option autoImplicit false

namespace GraphSketch

open OrderedMap

namespace Numbering

/-- The labels by their numbers; of two labels with one number the last is the one that counts. -/
def inverse (numberOf : OrderedMap Text Int) : OrderedMap Int Text :=
  numberOf.foldl (fun table e => put table e.2 e.1) []

/-- What holds of every numbering in use: no label is there twice, the second table is the inverse of
the first, and the counter lies above all numbers. -/
structure Sound (m : Numbering) : Prop where
  keys_nodup : (keys m.numberOf).Nodup
  labelOf_eq : m.labelOf = inverse m.numberOf
  lt_next : ∀ e ∈ m.numberOf, e.2 < m.next

/-- A saved value whose table of labels has each label once, as every mapping has. -/
def IsMapping (saved : Json) : Prop :=
  ∀ labels, savedLabels saved = .ok labels → (keys labels).Nodup

theorem isMapping_of_field? {saved : Json} {fields : List (Text × Json)}
    (h : saved.field? "labelToId" = some (.obj fields)) (hn : (keys fields).Nodup) :
    IsMapping saved := by
  intro labels hl
  rw [savedLabels, h] at hl
  cases hl
  exact hn

theorem empty_sound : Sound empty :=
  ⟨List.nodup_nil, rfl, fun _ h => by cases h⟩

/-! ## The inverse table -/

theorem inverse_append (table : OrderedMap Text Int) (label : Text) (n : Int) :
    inverse (table ++ [(label, n)]) = put (inverse table) n label := by
  rw [inverse, List.foldl_append]
  rfl

/-- The numbers that can be followed are the numbers of labels. -/
theorem mem_keys_inverse {table : OrderedMap Text Int} {n : Int} :
    n ∈ keys (inverse table) ↔ ∃ label, (label, n) ∈ table := by
  induction table using List.reverseRecOn with
  | nil => simp [inverse, keys]
  | append_singleton table e ih =>
    obtain ⟨label, k⟩ := e
    rw [inverse_append, mem_keys_put, ih]
    constructor
    · rintro (rfl | ⟨other, h⟩)
      · exact ⟨label, by simp⟩
      · exact ⟨other, List.mem_append_left _ h⟩
    · rintro ⟨other, h⟩
      rcases List.mem_append.mp h with h | h
      · exact Or.inr ⟨other, h⟩
      · rw [List.mem_singleton, Prod.mk.injEq] at h
        exact Or.inl h.2

theorem nodup_keys_inverse (table : OrderedMap Text Int) : (keys (inverse table)).Nodup := by
  induction table using List.reverseRecOn with
  | nil => exact List.nodup_nil
  | append_singleton table e ih =>
    rw [inverse_append]
    exact nodup_keys_put ih _ _

/-! ## Giving out a number -/

theorem Sound.number?_eq_some_iff {m : Numbering} (hm : m.Sound) {label : Text} {n : Int} :
    m.number? label = some n ↔ (label, n) ∈ m.numberOf :=
  get?_eq_some_iff hm.keys_nodup

theorem Sound.lt_of_labelOf {m : Numbering} (hm : m.Sound) {n : Int}
    (h : n ∈ keys m.labelOf) : n < m.next := by
  rw [hm.labelOf_eq, mem_keys_inverse] at h
  obtain ⟨label, hl⟩ := h
  exact hm.lt_next _ hl

/-- All that `assign` can do: the label has a number and nothing changes, or it gets the next. -/
theorem assign_cases (m : Numbering) (label : Text) :
    (∃ n, m.number? label = some n ∧ m.assign label = (m, n)) ∨
    (m.number? label = none ∧ m.assign label =
      (⟨m.numberOf ++ [(label, m.next)], put m.labelOf m.next label, m.next + 1⟩, m.next)) := by
  cases h : m.number? label with
  | some n => exact Or.inl ⟨n, rfl, by simp [assign, h]⟩
  | none =>
    have hk : label ∉ keys m.numberOf := (get?_eq_none_iff _ _).mp h
    exact Or.inr ⟨rfl, by simp [assign, h, put_of_notMem hk]⟩

theorem assign_of_number? {m : Numbering} {label : Text} {n : Int}
    (h : m.number? label = some n) : m.assign label = (m, n) := by
  rw [assign, h]

theorem assign_sound {m : Numbering} (hm : m.Sound) (label : Text) : (m.assign label).1.Sound := by
  rcases assign_cases m label with ⟨n, _, h⟩ | ⟨hnone, h⟩
  · rw [h]
    exact hm
  · have hk : label ∉ keys m.numberOf := (get?_eq_none_iff _ _).mp hnone
    rw [h]
    refine ⟨?_, ?_, ?_⟩
    · show (keys (m.numberOf ++ [(label, m.next)])).Nodup
      rw [← put_of_notMem hk]
      exact nodup_keys_put hm.keys_nodup _ _
    · show put m.labelOf m.next label = inverse (m.numberOf ++ [(label, m.next)])
      rw [inverse_append, hm.labelOf_eq]
    · intro e he
      rcases List.mem_append.mp he with he | he
      · have := hm.lt_next e he
        show e.2 < m.next + 1
        omega
      · rw [List.mem_singleton] at he
        subst he
        show m.next < m.next + 1
        omega

/-- The number that `assign` answers with is the label's number from then on. -/
theorem number?_assign_self (m : Numbering) (label : Text) :
    (m.assign label).1.number? label = some (m.assign label).2 := by
  rcases assign_cases m label with ⟨n, hn, h⟩ | ⟨hnone, h⟩
  · rw [h]
    exact hn
  · have hk : label ∉ keys m.numberOf := (get?_eq_none_iff _ _).mp hnone
    rw [h, number?, ← put_of_notMem hk]
    exact get?_put_self _ _ _

theorem number?_assign_of_ne {m : Numbering} {label other : Text} (hne : other ≠ label) :
    (m.assign label).1.number? other = m.number? other := by
  rcases assign_cases m label with ⟨n, _, h⟩ | ⟨hnone, h⟩
  · rw [h]
  · have hk : label ∉ keys m.numberOf := (get?_eq_none_iff _ _).mp hnone
    rw [h, number?, ← put_of_notMem hk]
    exact get?_put_of_ne _ _ (Ne.symm hne)

/-! ## Loading -/

theorem savedInteger_int (n : Int) : savedInteger (.int n) = .ok n := rfl

theorem enter_ok {m m' : Numbering} {label : Text} {v : Json} (hk : label ∉ keys m.numberOf)
    (h : enter m (label, v) = .ok m') :
    ∃ n, m' = ⟨m.numberOf ++ [(label, n)], put m.labelOf n label, m.next⟩ := by
  unfold enter at h
  cases hv : savedInteger v with
  | error fault => simp only [hv, Except.map] at h; cases h
  | ok n =>
    simp only [hv, Except.map, put_of_notMem hk, Except.ok.injEq] at h
    exact ⟨n, h.symm⟩

/-- Entering labels that are not there yet keeps each label once and the tables inverse. -/
theorem foldlM_enter_ok : ∀ (labels : List (Text × Json)) (m m' : Numbering),
    (keys labels).Nodup → (∀ k ∈ keys labels, k ∉ keys m.numberOf) →
    (keys m.numberOf).Nodup → m.labelOf = inverse m.numberOf →
    labels.foldlM enter m = .ok m' →
    (keys m'.numberOf).Nodup ∧ m'.labelOf = inverse m'.numberOf
  | [], m, m', _, _, hn, hi, h => by
    cases h
    exact ⟨hn, hi⟩
  | (label, v) :: labels, m, m', hnd, hdis, hn, hi, h => by
    obtain ⟨hnot, hrest⟩ := List.nodup_cons.mp hnd
    have hk : label ∉ keys m.numberOf := hdis label List.mem_cons_self
    rw [List.foldlM_cons] at h
    cases he : enter m (label, v) with
    | error fault => rw [he] at h; cases h
    | ok m₁ =>
      rw [he] at h
      obtain ⟨n, rfl⟩ := enter_ok hk he
      refine foldlM_enter_ok labels _ m' hrest ?_ ?_ ?_ h
      · intro k hkl hmem
        simp only [keys, List.map_append, List.mem_append, List.map_cons, List.map_nil,
          List.mem_singleton] at hmem
        rcases hmem with hmem | rfl
        · exact hdis k (List.mem_cons_of_mem _ hkl) hmem
        · exact hnot hkl
      · show (keys (m.numberOf ++ [(label, n)])).Nodup
        rw [← put_of_notMem hk]
        exact nodup_keys_put hn _ _
      · show put m.labelOf n label = inverse (m.numberOf ++ [(label, n)])
        rw [inverse_append, hi]

theorem foldlM_enter_ints : ∀ (table : OrderedMap Text Int) (m : Numbering),
    (keys table).Nodup → (∀ k ∈ keys table, k ∉ keys m.numberOf) →
    (table.map fun e => (e.1, Json.int e.2)).foldlM enter m =
      .ok ⟨m.numberOf ++ table, table.foldl (fun t e => put t e.2 e.1) m.labelOf, m.next⟩
  | [], m, _, _ => by
    rw [List.append_nil]
    rfl
  | (label, n) :: table, m, hnd, hdis => by
    obtain ⟨hnot, hrest⟩ := List.nodup_cons.mp hnd
    have hk : label ∉ keys m.numberOf := hdis label List.mem_cons_self
    have he : enter m (label, .int n) =
        .ok ⟨m.numberOf ++ [(label, n)], put m.labelOf n label, m.next⟩ := by
      simp only [enter, savedInteger_int, Except.map, put_of_notMem hk]
    rw [List.map_cons, List.foldlM_cons, he]
    show (table.map fun e => (e.1, Json.int e.2)).foldlM enter
      ⟨m.numberOf ++ [(label, n)], put m.labelOf n label, m.next⟩ = _
    rw [foldlM_enter_ints table _ hrest]
    · simp only [List.append_assoc, List.cons_append, List.nil_append, List.foldl_cons]
    · intro k hkt hmem
      simp only [keys, List.map_append, List.mem_append, List.map_cons, List.map_nil,
        List.mem_singleton] at hmem
      rcases hmem with hmem | rfl
      · exact hdis k (List.mem_cons_of_mem _ hkt) hmem
      · exact hnot hkt

theorem le_foldl_max : ∀ (ns : List Int) (a : Int),
    a ≤ ns.foldl max a ∧ ∀ n ∈ ns, n ≤ ns.foldl max a
  | [], a => ⟨Int.le_refl a, fun _ h => by cases h⟩
  | n :: ns, a => by
    obtain ⟨h₁, h₂⟩ := le_foldl_max ns (max a n)
    simp only [List.foldl_cons]
    refine ⟨by omega, fun k hk => ?_⟩
    rcases List.mem_cons.mp hk with rfl | hk
    · omega
    · exact h₂ k hk

theorem foldl_max_mem : ∀ (ns : List Int) (a : Int), ns.foldl max a ∈ a :: ns
  | [], a => List.mem_singleton.mpr rfl
  | n :: ns, a => by
    rcases List.mem_cons.mp (foldl_max_mem ns (max a n)) with h | h
    · rw [List.foldl_cons, h]
      rcases Int.le_total a n with hle | hle
      · rw [Int.max_eq_right hle]
        simp
      · rw [Int.max_eq_left hle]
        simp
    · exact List.mem_cons_of_mem _ (List.mem_cons_of_mem _ h)

theorem le_highest {m : Numbering} {n : Int} (h : n ∈ keys m.labelOf) : n ≤ m.highest := by
  unfold highest
  cases hk : keys m.labelOf with
  | nil => rw [hk] at h; cases h
  | cons k ks =>
    rw [hk] at h
    obtain ⟨h₁, h₂⟩ := le_foldl_max ks k
    rcases List.mem_cons.mp h with rfl | h
    · exact h₁
    · exact h₂ n h

/-- A loaded numbering is what its labels give, under a counter above their numbers. -/
theorem ofJson_ok {saved : Json} {m : Numbering} (h : ofJson saved = .ok m) :
    m = empty ∨ ∃ labels entered next, savedLabels saved = .ok labels ∧
      labels.foldlM enter empty = .ok entered ∧ savedNext saved = .ok next ∧
      m = { entered with next := max next (entered.highest + 1) } := by
  unfold ofJson at h
  split at h
  · exact Or.inl (Except.ok.inj h).symm
  · split at h
    · cases hl : savedLabels _ with
      | error fault => rw [hl] at h; cases h
      | ok labels =>
        rw [hl] at h
        change (labels.foldlM enter empty >>= _) = _ at h
        cases he : labels.foldlM enter empty with
        | error fault => rw [he] at h; cases h
        | ok entered =>
          rw [he] at h
          change (savedNext _ >>= _) = _ at h
          cases hn : savedNext _ with
          | error fault => rw [hn] at h; cases h
          | ok next =>
            rw [hn] at h
            exact Or.inr ⟨labels, entered, next, rfl, he, rfl, (Except.ok.inj h).symm⟩
    · cases h

/-- **Every loaded numbering is sound**, whatever numbers and whatever counter were saved. -/
theorem ofJson_sound {saved : Json} {m : Numbering} (hs : IsMapping saved)
    (h : ofJson saved = .ok m) : m.Sound := by
  rcases ofJson_ok h with rfl | ⟨labels, entered, next, hl, he, -, rfl⟩
  · exact empty_sound
  · obtain ⟨hnd, hinv⟩ := foldlM_enter_ok labels empty entered (hs labels hl)
      (fun _ _ hmem => by cases hmem) List.nodup_nil rfl he
    refine ⟨hnd, hinv, fun e hmem => ?_⟩
    have hkey : e.2 ∈ keys entered.labelOf := by
      rw [hinv, mem_keys_inverse]
      exact ⟨e.1, hmem⟩
    have := le_highest hkey
    show e.2 < max next (entered.highest + 1)
    omega

/-! ## Saving and loading again -/

theorem savedLabels_toJson (m : Numbering) :
    savedLabels m.toJson = .ok (m.numberOf.map fun e => (e.1, Json.int e.2)) := by
  simp [savedLabels, toJson, Json.field?, get?]

theorem savedNext_toJson (m : Numbering) :
    savedNext m.toJson = .ok (if m.next = 0 then 1 else m.next) := by
  have hf : Json.field? "nextId" m.toJson = some (.int m.next) := by
    simp [toJson, Json.field?, get?]
  unfold savedNext
  rw [hf]
  by_cases h : m.next = 0 <;> simp [Json.isAbsent, h, savedInteger_int]

theorem ofJson_toJson_eq {m : Numbering} (hm : m.Sound) :
    ofJson m.toJson =
      .ok { m with next := max (if m.next = 0 then 1 else m.next) (m.highest + 1) } := by
  have htables := foldlM_enter_ints m.numberOf empty hm.keys_nodup (fun _ _ hmem => by cases hmem)
  have hinv : m.numberOf.foldl (fun t e => put t e.2 e.1) empty.labelOf = m.labelOf :=
    hm.labelOf_eq.symm
  rw [hinv] at htables
  have hobj : m.toJson.isAbsent = false := rfl
  unfold ofJson
  rw [hobj, savedLabels_toJson, savedNext_toJson]
  simp only [toJson, bind, Except.bind, pure, Except.pure]
  rw [htables]
  rfl

/-- **A sound numbering comes back from its saved form** with the same tables and a counter that
has not fallen. -/
theorem ofJson_toJson {m : Numbering} (hm : m.Sound) :
    ∃ next, ofJson m.toJson = .ok { m with next := next } ∧ m.next ≤ next :=
  ⟨_, ofJson_toJson_eq hm, by split <;> omega⟩

theorem Sound.highest_lt {m : Numbering} (hm : m.Sound) (h : 0 < m.next) : m.highest < m.next := by
  unfold highest
  split
  · exact h
  · rename_i n ns hkeys
    have hmem : ns.foldl max n ∈ keys m.labelOf := by
      rw [hkeys]
      exact foldl_max_mem ns n
    exact hm.lt_of_labelOf hmem

/-- **Saving loses nothing**, not even the counter, once that is positive. -/
theorem ofJson_toJson_self {m : Numbering} (hm : m.Sound) (h : 0 < m.next) :
    ofJson m.toJson = .ok m := by
  have hhighest := hm.highest_lt h
  have hnext : max (if m.next = 0 then 1 else m.next) (m.highest + 1) = m.next := by
    rw [if_neg (by omega)]
    omega
  rw [ofJson_toJson_eq hm, hnext]

end Numbering

end GraphSketch
