import GraphSketch.Proofs.Numbering.Sound

/-!
# Growth of numberings

`Numbering.Grows` compares a numbering with one at a later moment: labels keep their numbers,
numbers keep being followed to the same label, and a number that is new lies at or above the
counter of the earlier moment and is followed to the label that got it.  The relation is a
preorder, so it is enough to know that every single step grows.

* `assign_grows` and `assignAll_grows` — giving out numbers, one or several.
* `reload_grows` — saving and loading again.
-/

set_option autoImplicit false

namespace GraphSketch

open OrderedMap

namespace Numbering

/-- The later numbering `m'` continues `m`. -/
structure Grows (m m' : Numbering) : Prop where
  kept : ∀ label n, m.number? label = some n → m'.number? label = some n
  followed : ∀ n label, m.labelOf.get? n = some label → m'.labelOf.get? n = some label
  fresh : ∀ label n, m.number? label = none → m'.number? label = some n →
    m.next ≤ n ∧ m'.labelOf.get? n = some label
  next_le : m.next ≤ m'.next

theorem Grows.refl (m : Numbering) : m.Grows m :=
  ⟨fun _ _ h => h, fun _ _ h => h, fun _ _ h h' => absurd (h.symm.trans h') nofun, Int.le_refl _⟩

theorem Grows.trans {a b c : Numbering} (h₁ : a.Grows b) (h₂ : b.Grows c) : a.Grows c := by
  refine ⟨fun l n h => h₂.kept l n (h₁.kept l n h), fun n l h => h₂.followed n l (h₁.followed n l h),
    fun label n hnone hsome => ?_, Int.le_trans h₁.next_le h₂.next_le⟩
  cases hb : b.number? label with
  | none =>
    obtain ⟨hle, hl⟩ := h₂.fresh label n hb hsome
    exact ⟨Int.le_trans h₁.next_le hle, hl⟩
  | some k =>
    have hk := h₂.kept label k hb
    rw [hsome, Option.some.injEq] at hk
    subst hk
    obtain ⟨hle, hl⟩ := h₁.fresh label n hnone hb
    exact ⟨hle, h₂.followed n label hl⟩

/-! ## Giving out numbers -/

theorem assign_grows {m : Numbering} (hm : m.Sound) (label : Text) :
    m.Grows (m.assign label).1 := by
  rcases assign_cases m label with ⟨n, _, h⟩ | ⟨hnone, h⟩
  · rw [h]
    exact Grows.refl m
  · have hnext : m.next ∉ keys m.labelOf := fun hmem => by
      have := hm.lt_of_labelOf hmem
      omega
    have hlabelOf : (m.assign label).1.labelOf = put m.labelOf m.next label := by rw [h]
    refine ⟨fun other n hn => ?_, fun n other hn => ?_, fun other n hother hn => ?_, ?_⟩
    · have hne : other ≠ label := by
        rintro rfl
        rw [hnone] at hn
        cases hn
      rw [number?_assign_of_ne hne]
      exact hn
    · have hne : m.next ≠ n := by
        rintro rfl
        exact hnext (mem_keys_of_mem (mem_of_get?_eq_some hn))
      rw [hlabelOf, get?_put_of_ne _ _ hne]
      exact hn
    · by_cases he : other = label
      · subst he
        rw [number?_assign_self, h, Option.some.injEq] at hn
        subst hn
        rw [hlabelOf]
        exact ⟨Int.le_refl _, get?_put_self _ _ _⟩
      · rw [number?_assign_of_ne he, hother] at hn
        cases hn
    · rw [h]
      show m.next ≤ m.next + 1
      omega

/-- Gives several labels their numbers, in order. -/
def assignAll (m : Numbering) (labels : List Text) : Numbering :=
  labels.foldl (fun m label => (m.assign label).1) m

theorem assignAll_append (m : Numbering) (labels more : List Text) :
    m.assignAll (labels ++ more) = (m.assignAll labels).assignAll more :=
  List.foldl_append

theorem assignAll_sound : ∀ (labels : List Text) {m : Numbering}, m.Sound →
    (m.assignAll labels).Sound
  | [], _, hm => hm
  | label :: labels, _, hm => assignAll_sound labels (assign_sound hm label)

theorem assignAll_grows : ∀ (labels : List Text) {m : Numbering}, m.Sound →
    m.Grows (m.assignAll labels)
  | [], m, _ => Grows.refl m
  | label :: labels, _, hm =>
    (assign_grows hm label).trans (assignAll_grows labels (assign_sound hm label))

/-! ## Loading what was saved -/

/-- The numbering saved and loaded again.  If a number is too long to be written nothing
happens. -/
def reload (m : Numbering) : Numbering :=
  if m.isWritable then (ofJson m.toJson).toOption.getD m else m

theorem reload_cases {m : Numbering} (hm : m.Sound) :
    ∃ next, m.reload = { m with next := next } ∧ m.next ≤ next := by
  unfold reload
  split
  · obtain ⟨next, h, hle⟩ := ofJson_toJson hm
    exact ⟨next, by rw [h]; rfl, hle⟩
  · exact ⟨m.next, rfl, Int.le_refl _⟩

theorem reload_sound {m : Numbering} (hm : m.Sound) : m.reload.Sound := by
  obtain ⟨next, h, hle⟩ := reload_cases hm
  rw [h]
  exact ⟨hm.keys_nodup, hm.labelOf_eq, fun e he => by
    have := hm.lt_next e he
    show e.2 < next
    omega⟩

theorem reload_grows {m : Numbering} (hm : m.Sound) : m.Grows m.reload := by
  obtain ⟨next, h, hle⟩ := reload_cases hm
  rw [h]
  refine ⟨fun _ _ h => h, fun _ _ h => h, fun label n hnone hsome => ?_, hle⟩
  have hsome : m.number? label = some n := hsome
  rw [hnone] at hsome
  cases hsome

end Numbering

end GraphSketch
