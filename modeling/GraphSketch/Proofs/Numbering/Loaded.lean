import GraphSketch.Proofs.Numbering.Row
import GraphSketch.Proofs.Sketch.References
import Mathlib.Data.Fintype.EquivFin

/-!
# Numbers given out after loading

A numbering may be loaded from a mapping that was edited by hand, with numbers and a counter of any
kind.  What it gives out then are numbers in a row from its counter on, above everything that is in
the tables.  They can be followed unless they have a sign or too many digits, and the counter that
the row begins with is positive unless all the loaded numbers and the saved counter are against it
(`HandsOut`).

* `zero_le_highest_iff` — the largest number is negative only where every number is.
* `next_pos_iff` — whether a loaded counter is positive, in terms of what was saved.
* `handsOut_loaded` — what is given out after loading, for every mapping that can be loaded.
* `assign_of_negative_numbers` — a mapping after which labels get negative numbers.
-/

set_option autoImplicit false

namespace GraphSketch

open OrderedMap

namespace Numbering

variable {m : Numbering} {saved : Json} {loaded : Numbering}

/-- The number that a label is answered with after others have been given theirs. -/
def numberAfter (m : Numbering) (labels : List Text) (label : Text) : Int :=
  ((m.assignAll labels).assign label).2

/-- What becomes of the labels that a loaded numbering does not know. -/
structure HandsOut (saved : Json) (loaded : Numbering) : Prop where
  /-- Their numbers are in a row that begins with the counter. -/
  number_eq : ∀ labels label, (loaded.assignAll labels).number? label = none →
    loaded.numberAfter labels label = loaded.next + (loaded.newOf labels).length
  /-- Whatever has been loaded or given out stays in the tables. -/
  kept : ∀ labels more n, (loaded.assignAll labels).Holds n →
    (loaded.assignAll (labels ++ more)).Holds n
  /-- A new number lies above all of that. -/
  fresh : ∀ labels label, (loaded.assignAll labels).number? label = none →
    ∀ n, (loaded.assignAll labels).Holds n → n < loaded.numberAfter labels label
  /-- The number that a label is answered with is its number from then on. -/
  number_stays : ∀ labels label more,
    (loaded.assignAll (labels ++ label :: more)).number? label =
      some (loaded.numberAfter labels label)
  /-- The reference to a new number is followed to its label, from then on, exactly if it can be
  read. -/
  resolve_iff : ∀ labels label more, (loaded.assignAll labels).number? label = none →
    ((loaded.assignAll (labels ++ label :: more)).resolve
        (':' :: Text.ofInt (loaded.numberAfter labels label)) = .ok label ↔
      0 ≤ loaded.numberAfter labels label ∧ loaded.numberAfter labels label < Numeral.bound)
  /-- All new numbers are positive exactly if no number was loaded, or one that is not negative, or
  the saved counter is positive. -/
  positive_iff : (∀ labels label, (loaded.assignAll labels).number? label = none →
      0 < loaded.numberAfter labels label) ↔
    (∀ n, ¬ loaded.Holds n) ∨ (∃ n, loaded.Holds n ∧ 0 ≤ n) ∨
      ∃ next, savedNext saved = .ok next ∧ 0 < next

/-! ## The loaded counter -/

theorem Sound.holds_iff (hm : m.Sound) {n : Int} : m.Holds n ↔ n ∈ keys m.labelOf := by
  refine ⟨?_, Or.inr⟩
  rintro (⟨label, h⟩ | h)
  · rw [hm.labelOf_eq, mem_keys_inverse]
    exact ⟨label, hm.number?_eq_some_iff.mp h⟩
  · exact h

theorem zero_le_highest_iff (m : Numbering) :
    0 ≤ m.highest ↔ keys m.labelOf = [] ∨ ∃ n ∈ keys m.labelOf, 0 ≤ n := by
  constructor
  · intro h
    unfold highest at h
    split at h
    · exact Or.inl ‹_›
    · rename_i n ns hkeys
      exact Or.inr ⟨_, hkeys ▸ foldl_max_mem ns n, h⟩
  · rintro (h | ⟨n, hmem, hn⟩)
    · rw [highest, h]
    · exact Int.le_trans hn (le_highest hmem)

theorem next_pos_iff (hs : IsMapping saved) (h : ofJson saved = .ok loaded) :
    0 < loaded.next ↔ (∀ n, ¬ loaded.Holds n) ∨ (∃ n, loaded.Holds n ∧ 0 ≤ n) ∨
      ∃ next, savedNext saved = .ok next ∧ 0 < next := by
  simp only [(ofJson_sound hs h).holds_iff, ← List.eq_nil_iff_forall_not_mem, ← or_assoc]
  rw [← zero_le_highest_iff]
  rcases ofJson_ok h with rfl | ⟨labels, entered, next, -, -, hnext, rfl⟩
  · exact iff_of_true Int.one_pos (Or.inl (Int.le_refl 0))
  · simp only [hnext, Except.ok.injEq, exists_eq_left']
    show 0 < max next (entered.highest + 1) ↔ 0 ≤ entered.highest ∨ 0 < next
    omega

/-! ## New numbers -/

theorem exists_number?_eq_none (m : Numbering) : ∃ label, m.number? label = none := by
  obtain ⟨label, h⟩ := Infinite.exists_notMem_finset (keys m.numberOf).toFinset
  exact ⟨label, (get?_eq_none_iff _ _).mpr fun hmem => h (List.mem_toFinset.mpr hmem)⟩

theorem Grows.holds {m' : Numbering} (h : m.Grows m') {n : Int} (hn : m.Holds n) : m'.Holds n := by
  rcases hn with ⟨label, hn⟩ | hn
  · exact Or.inl ⟨label, h.kept label n hn⟩
  · obtain ⟨label, hlabel⟩ := Option.ne_none_iff_exists'.mp fun hnone =>
      (get?_eq_none_iff _ _).mp hnone hn
    exact Or.inr (mem_keys_of_mem (mem_of_get?_eq_some (h.followed n label hlabel)))

theorem Sound.numberAfter_eq_next (hm : m.Sound) {labels : List Text} {label : Text}
    (hnone : (m.assignAll labels).number? label = none) :
    m.numberAfter labels label = (m.assignAll labels).next :=
  congrArg Prod.snd (assign_eq_extend (assignAll_sound labels hm).isAhead hnone)

theorem Sound.next_assignAll (hm : m.Sound) (labels : List Text) :
    (m.assignAll labels).next = m.next + (m.newOf labels).length :=
  congrArg next (assignAll_eq_extend labels hm.isAhead)

/-- After a label has got its number, others that follow leave it as it is. -/
theorem Sound.grows_assignAll_cons (hm : m.Sound) (labels : List Text) (label : Text)
    (more : List Text) :
    ((m.assignAll labels).assign label).1.Grows (m.assignAll (labels ++ label :: more)) := by
  rw [assignAll_append]
  exact assignAll_grows more (assign_sound (assignAll_sound labels hm) label)

theorem Sound.get?_labelOf_numberAfter (hm : m.Sound) {labels : List Text} {label : Text}
    (hnone : (m.assignAll labels).number? label = none) (more : List Text) :
    (m.assignAll (labels ++ label :: more)).labelOf.get? (m.numberAfter labels label) =
      some label := by
  have hgrows := assign_grows (assignAll_sound labels hm) label
  have hfirst := (hgrows.fresh label _ hnone (number?_assign_self _ _)).2
  exact (hm.grows_assignAll_cons labels label more).followed _ _ hfirst

theorem Sound.forall_numberAfter_pos_iff (hm : m.Sound) :
    (∀ labels label, (m.assignAll labels).number? label = none → 0 < m.numberAfter labels label) ↔
      0 < m.next := by
  constructor
  · intro hpos
    obtain ⟨label, hnone⟩ := exists_number?_eq_none m
    have hnone : (m.assignAll []).number? label = none := hnone
    have hfirst := hpos [] label hnone
    rwa [hm.numberAfter_eq_next hnone] at hfirst
  · intro hpos labels label hnone
    rw [hm.numberAfter_eq_next hnone, hm.next_assignAll]
    omega

/-- **What is given out after loading**, for every mapping that can be loaded. -/
theorem handsOut_loaded (hs : IsMapping saved) (h : ofJson saved = .ok loaded) :
    HandsOut saved loaded := by
  have hsound : loaded.Sound := ofJson_sound hs h
  constructor
  case number_eq =>
    intro labels label hnone
    rw [hsound.numberAfter_eq_next hnone, hsound.next_assignAll]
  case kept =>
    intro labels more n hn
    rw [assignAll_append]
    exact (assignAll_grows more (assignAll_sound labels hsound)).holds hn
  case fresh =>
    intro labels label hnone n hn
    rw [hsound.numberAfter_eq_next hnone]
    exact (assignAll_sound labels hsound).lt_of_holds hn
  case number_stays =>
    intro labels label more
    exact (hsound.grows_assignAll_cons labels label more).kept _ _ (number?_assign_self _ _)
  case resolve_iff =>
    intro labels label more hnone
    have hfollowed := hsound.get?_labelOf_numberAfter hnone more
    rw [resolve_ofInt_eq_ok_iff]
    exact ⟨fun hok => ⟨hok.1, hok.2.1⟩, fun hn => ⟨hn.1, hn.2, hfollowed⟩⟩
  case positive_iff => rw [hsound.forall_numberAfter_pos_iff, next_pos_iff hs h]

/-- A mapping edited by hand: a negative number, one number for two labels and a counter that has
fallen behind.  The first new label gets the number above the largest one. -/
theorem handsOut_loaded_of_edited :
    let saved : Json := .obj [("labelToId", .obj [("A", .int (-5)), ("B", .int 3), ("C", .int 3)]),
      ("nextId", .int (-2))]
    let start : Numbering := ⟨[("A", -5), ("B", 3), ("C", 3)], [(-5, "A"), (3, "C")], 4⟩
    IsMapping saved ∧ ofJson saved = .ok start ∧
      (∀ labels label, (start.assignAll labels).number? label = none →
        0 < start.numberAfter labels label) ∧
      (start.assignAll ["A", "D", "E"]).resolve ":4" = .ok "D".toList := by
  intro saved start
  have hs : IsMapping saved := isMapping_of_field? rfl (by decide)
  have hl : ofJson saved = .ok start := rfl
  have hout : HandsOut saved start := handsOut_loaded hs hl
  have hbound : 4 < Numeral.bound := Text.length_ofNat_le_iff.mp (by decide)
  exact ⟨hs, hl, hout.positive_iff.mpr (Or.inr (Or.inl ⟨3, Or.inl ⟨"B", rfl⟩, by decide⟩)),
    (hout.resolve_iff ["A"] "D" ["E"] rfl).mpr ⟨by decide, Int.ofNat_lt.mpr hbound⟩⟩

/-- Where the loaded number and the saved counter are both negative the counter is not raised to
one, and a new label gets a negative number, whose reference is not even read as one. -/
theorem assign_of_negative_numbers :
    let saved : Json := .obj [("labelToId", .obj [("A", .int (-5))]), ("nextId", .int (-3))]
    let start : Numbering := ⟨[("A", -5)], [(-5, "A")], -3⟩
    ofJson saved = .ok start ∧ start.number? "B" = none ∧ (start.assign "B").2 = -3 ∧
      ¬ 0 < (start.assign "B").2 ∧
      (start.assign "B").1.resolve (':' :: Text.ofInt (start.assign "B").2) =
        .error (.unresolved ⟨":-3", none⟩) := by
  decide

end Numbering

end GraphSketch
