import GraphSketch.Proofs.Numbering.Growth

/-!
# Numbers in a row

Numbers are given out one at a time, and only to labels that have none.  Giving several labels their
numbers has a closed form all the same: the labels without a number, each where it is first
mentioned, get numbers in a row from the counter on, behind everything that is in the tables.

* `Numbering.newOf` — the labels among others that have no number yet.
* `Numbering.extend` — the tables with a row of labels added to them.
* `assignAll_eq_extend` — giving several labels their numbers adds the row of those that are new.
* `number?_extend_of_getElem?`, `number?_extend_of_notMem` — the numbers of labels then.
-/

set_option autoImplicit false

namespace GraphSketch

open OrderedMap

/-! ## First mentions -/

section FirstMentions

variable {α : Type} [BEq α] [LawfulBEq α]

/-- The first mentions of some items are among the first mentions of all. -/
theorem filter_eraseDups (p : α → Bool) : ∀ as : List α,
    as.eraseDups.filter p = (as.filter p).eraseDups
  | [] => rfl
  | a :: as => by
    have ih := filter_eraseDups p (as.filter fun b => !b == a)
    rw [List.filter_filter] at ih
    rw [List.eraseDups_cons]
    cases hp : p a with
    | true =>
      rw [List.filter_cons_of_pos hp, List.filter_cons_of_pos hp, List.eraseDups_cons, ih,
        List.filter_filter]
      simp only [Bool.and_comm]
    | false =>
      have hne : ∀ b ∈ as, (p b && !b == a) = p b := fun b _ => by
        by_cases hb : b = a
        · rw [hb, hp, Bool.false_and]
        · simp [hb]
      rw [List.filter_cons_of_neg (by simp [hp]), List.filter_cons_of_neg (by simp [hp]), ih,
        List.filter_congr hne]
  termination_by as => as.length
  decreasing_by exact Nat.lt_succ_of_le (List.length_filter_le _ _)

theorem nodup_eraseDups : ∀ as : List α, as.eraseDups.Nodup
  | [] => List.nodup_nil
  | a :: as => by
    rw [List.eraseDups_cons, List.nodup_cons]
    exact ⟨by simp, nodup_eraseDups (as.filter fun b => !b == a)⟩
  termination_by as => as.length
  decreasing_by exact Nat.lt_succ_of_le (List.length_filter_le _ _)

end FirstMentions

/-! ## Rows -/

/-- Labels with numbers in a row, of which `n` is the first. -/
def numberedFrom : Int → List Text → OrderedMap Text Int
  | _, [] => []
  | n, label :: labels => (label, n) :: numberedFrom (n + 1) labels

theorem keys_numberedFrom : ∀ (n : Int) (labels : List Text),
    keys (numberedFrom n labels) = labels
  | _, [] => rfl
  | n, label :: labels => congrArg (label :: ·) (keys_numberedFrom (n + 1) labels)

theorem length_numberedFrom (n : Int) (labels : List Text) :
    (numberedFrom n labels).length = labels.length := by
  rw [← List.length_map (f := Prod.fst), ← keys, keys_numberedFrom]

theorem getElem?_numberedFrom : ∀ (n : Int) (labels : List Text) (i : Nat),
    (numberedFrom n labels)[i]? = labels[i]?.map fun label => (label, n + i)
  | _, [], _ => rfl
  | n, label :: labels, 0 => by simp [numberedFrom]
  | n, label :: labels, i + 1 => by
    rw [numberedFrom, List.getElem?_cons_succ, getElem?_numberedFrom, List.getElem?_cons_succ]
    congr
    funext label
    rw [Prod.mk.injEq]
    exact ⟨rfl, by omega⟩

theorem mem_numberedFrom_iff {n k : Int} {labels : List Text} {label : Text} :
    (label, k) ∈ numberedFrom n labels ↔ ∃ i : Nat, labels[i]? = some label ∧ k = n + i := by
  simp only [List.mem_iff_getElem?, getElem?_numberedFrom, Option.map_eq_some_iff, Prod.mk.injEq]
  constructor
  · rintro ⟨i, other, hi, rfl, rfl⟩
    exact ⟨i, hi, rfl⟩
  · rintro ⟨i, hi, rfl⟩
    exact ⟨i, label, hi, rfl, rfl⟩

theorem pairwise_numberedFrom : ∀ (n : Int) (labels : List Text),
    (numberedFrom n labels).Pairwise fun e f => e.2 < f.2
  | _, [] => List.Pairwise.nil
  | n, label :: labels => by
    rw [numberedFrom, List.pairwise_cons]
    refine ⟨fun e he => ?_, pairwise_numberedFrom (n + 1) labels⟩
    obtain ⟨i, -, hi⟩ := mem_numberedFrom_iff.mp he
    show n < e.2
    omega

theorem get?_numberedFrom_eq_some_iff (n : Int) {k : Int} {labels : List Text} (h : labels.Nodup)
    {label : Text} : (numberedFrom n labels).get? label = some k ↔
      ∃ i : Nat, labels[i]? = some label ∧ k = n + i := by
  rw [get?_eq_some_iff (by rwa [keys_numberedFrom]), mem_numberedFrom_iff]

theorem get?_swap_numberedFrom_eq_some_iff (n : Int) {k : Int} {labels : List Text} {label : Text} :
    OrderedMap.get? ((numberedFrom n labels).map Prod.swap) k = some label ↔
      ∃ i : Nat, labels[i]? = some label ∧ k = n + i := by
  have hkeys : (keys ((numberedFrom n labels).map Prod.swap)).Nodup := by
    rw [keys, List.map_map, List.Nodup, List.pairwise_map]
    exact (pairwise_numberedFrom n labels).imp fun hlt => Int.ne_of_lt hlt
  rw [get?_eq_some_iff hkeys, ← mem_numberedFrom_iff]
  simp

namespace Numbering

/-- The labels among others that have no number, each where it is first mentioned. -/
def newOf (m : Numbering) (labels : List Text) : List Text :=
  (labels.filter fun label => !m.has label).eraseDups

/-- The numbering with more labels, numbered in a row from the counter on. -/
def extend (m : Numbering) (labels : List Text) : Numbering :=
  ⟨m.numberOf ++ numberedFrom m.next labels,
    m.labelOf ++ (numberedFrom m.next labels).map Prod.swap, m.next + labels.length⟩

/-- The counter lies above every number that can be followed. -/
def IsAhead (m : Numbering) : Prop := ∀ n ∈ keys m.labelOf, n < m.next

variable {m : Numbering} {label : Text} {labels : List Text}

theorem Sound.isAhead (hm : m.Sound) : m.IsAhead := fun _ => hm.lt_of_labelOf

theorem has_eq_isSome (m : Numbering) (label : Text) : m.has label = (m.number? label).isSome := rfl

theorem mem_newOf_iff : label ∈ m.newOf labels ↔ label ∈ labels ∧ m.number? label = none := by
  rw [newOf, List.mem_eraseDups, List.mem_filter, Bool.not_eq_true', has_eq_isSome,
    Option.isSome_eq_false_iff, Option.isNone_iff_eq_none]

theorem nodup_newOf (m : Numbering) (labels : List Text) : (m.newOf labels).Nodup :=
  nodup_eraseDups _

theorem newOf_cons_of_none (hnone : m.number? label = none) :
    m.newOf (label :: labels) = label :: (m.assign label).1.newOf labels := by
  have hfilter : ∀ other ∈ labels, ((!other == label) && !m.has other) =
      !(m.assign label).1.has other := by
    intro other _
    by_cases he : other = label
    · subst he
      simp [has_eq_isSome, number?_assign_self]
    · simp [has_eq_isSome, number?_assign_of_ne he, he]
  rw [newOf, List.filter_cons_of_pos (by simp [has_eq_isSome, hnone]), List.eraseDups_cons,
    List.filter_filter, List.filter_congr hfilter, newOf]

theorem newOf_cons_of_some {n : Int} (hsome : m.number? label = some n) :
    m.newOf (label :: labels) = m.newOf labels := by
  rw [newOf, List.filter_cons_of_neg (by simp [has_eq_isSome, hsome]), newOf]

/-! ## Giving out a row -/

theorem assign_eq_extend (hm : m.IsAhead) (hnone : m.number? label = none) :
    m.assign label = (m.extend [label], m.next) := by
  have hnext : m.next ∉ keys m.labelOf := fun hmem => by
    have := hm m.next hmem
    omega
  rcases assign_cases m label with ⟨n, hn, -⟩ | ⟨-, h⟩
  · rw [hnone] at hn
    cases hn
  · rw [h, put_of_notMem hnext]
    rfl

theorem isAhead_extend_singleton (hm : m.IsAhead) (label : Text) : (m.extend [label]).IsAhead := by
  intro n hn
  simp only [extend, keys, List.map_append, List.mem_append, numberedFrom, List.map_cons,
    List.map_nil, List.mem_singleton, Prod.fst_swap] at hn
  show n < m.next + 1
  rcases hn with hn | rfl
  · have := hm n hn
    omega
  · omega

theorem extend_cons (m : Numbering) (label : Text) (labels : List Text) :
    m.extend (label :: labels) = (m.extend [label]).extend labels := by
  simp only [extend, numberedFrom, List.map_cons, List.map_nil, List.length_cons, List.length_nil,
    List.append_assoc, List.cons_append, List.nil_append, mk.injEq, Nat.zero_add]
  refine ⟨rfl, rfl, ?_⟩
  omega

theorem extend_nil (m : Numbering) : m.extend [] = m := by
  simp [extend, numberedFrom]

/-- **Several labels get their numbers in a row**: those that are new, in the order in which they
are first mentioned. -/
theorem assignAll_eq_extend : ∀ (labels : List Text) {m : Numbering}, m.IsAhead →
    m.assignAll labels = m.extend (m.newOf labels)
  | [], m, _ => (extend_nil m).symm
  | label :: labels, m, hm => by
    rw [assignAll, List.foldl_cons, ← assignAll]
    cases hnumber : m.number? label with
    | some n =>
      rw [assign_of_number? hnumber, assignAll_eq_extend labels hm, newOf_cons_of_some hnumber]
    | none =>
      have hassign := congrArg Prod.fst (assign_eq_extend hm hnumber)
      have ih := assignAll_eq_extend labels (isAhead_extend_singleton hm label)
      rw [newOf_cons_of_none hnumber, hassign, ih, ← extend_cons]

/-! ## The tables with a row -/

theorem number?_extend_of_getElem? {i : Nat} (hnew : m.number? label = none)
    (hnodup : labels.Nodup) (hi : labels[i]? = some label) :
    (m.extend labels).number? label = some (m.next + i) := by
  have hrow := (get?_numberedFrom_eq_some_iff m.next hnodup).mpr ⟨i, hi, rfl⟩
  rw [number?, extend, get?_append, ← number?, hnew, Option.none_or, hrow]

theorem number?_extend_of_notMem (h : label ∉ labels) :
    (m.extend labels).number? label = m.number? label := by
  have hrow : (numberedFrom m.next labels).get? label = none := by
    rwa [get?_eq_none_iff, keys_numberedFrom]
  rw [number?, extend, get?_append, hrow, Option.or_none, number?]

end Numbering

end GraphSketch
