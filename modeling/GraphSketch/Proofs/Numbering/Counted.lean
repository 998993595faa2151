import GraphSketch.Proofs.Numbering.Row
import GraphSketch.Proofs.Sketch.References
import Mathlib.Data.List.DropRight

/-!
# Numberings that count from one

A numbering that was new, or cleared, once and has not been loaded from anything but itself counts
its labels: the numbers are those from one to the number of labels, in the order in which the labels
came.  Its two tables, its counter and what is loaded from its saved form agree on this
(`CountsThrough`).

* `run_edits_eq` — labels given numbers, clearing and reloading come to this: the labels mentioned
  since the last clearing are given their numbers.
* `countsThrough_extend` — an empty numbering with labels added to it counts through them.
* `countsThrough_edits` — so does a numbering after every sequence of edits.
-/

set_option autoImplicit false

namespace GraphSketch

open OrderedMap

namespace Numbering

/-- What can be done to a numbering by itself. -/
inductive Edit where
  /-- A label is given a number, if it has none. -/
  | assign (label : Text)
  /-- Everything is forgotten. -/
  | clear
  /-- The numbering is saved and loaded again. -/
  | reload
  deriving DecidableEq, Repr

namespace Edit

/-- The edit as an event of a history. -/
def event : Edit → Event
  | assign label => .assign label
  | clear => .clear
  | reload => .reload

/-- The label that is given a number. -/
def label? : Edit → Option Text
  | assign label => some label
  | _ => none

end Edit

/-- The labels that edits give numbers to since the last clearing, repetitions included. -/
def mentioned (edits : List Edit) : List Text :=
  (edits.rtakeWhile (· ≠ .clear)).filterMap Edit.label?

/-- A numbering whose labels are numbered from one on, in their order. -/
structure CountsThrough (m : Numbering) (labels : List Text) : Prop where
  /-- The labels come by their numbers, which are those from one on. -/
  entries_eq : m.entries = numberedFrom 1 labels
  size_eq : m.size = labels.length
  next_eq : m.next = m.size + 1
  /-- In neither table is there anything under one key twice. -/
  keys_nodup : (keys m.numberOf).Nodup ∧ (keys m.labelOf).Nodup
  /-- The tables are inverse to each other. -/
  labelOf_iff : ∀ n label, m.labelOf.get? n = some label ↔ m.number? label = some n
  /-- The numbers of labels are those from one to the number of labels. -/
  number_iff : ∀ n, (∃ label, m.number? label = some n) ↔ 1 ≤ n ∧ n ≤ m.size
  /-- A reference is followed to the label in its place. -/
  resolve_eq : ∀ k label, labels[k]? = some label → k + 1 < Numeral.bound →
    m.resolve (':' :: Text.ofNat (k + 1)) = .ok label
  /-- The saved form gives both tables and the counter back. -/
  ofJson_toJson : ofJson m.toJson = .ok m
  /-- It can be written down unless there are too many labels. -/
  isWritable : m.size < Numeral.bound → m.isWritable = true

/-! ## Edits -/

theorem mentioned_clear (edits : List Edit) : mentioned (edits ++ [.clear]) = [] := by
  rw [mentioned, List.rtakeWhile_concat_neg _ _ _ (by simp)]
  rfl

theorem mentioned_assign (edits : List Edit) (label : Text) :
    mentioned (edits ++ [.assign label]) = mentioned edits ++ [label] := by
  rw [mentioned, List.rtakeWhile_concat_pos _ _ _ (by simp), List.filterMap_append]
  rfl

theorem mentioned_reload (edits : List Edit) : mentioned (edits ++ [.reload]) = mentioned edits := by
  rw [mentioned, List.rtakeWhile_concat_pos _ _ _ (by simp), List.filterMap_append]
  exact List.append_nil _

/-- A sound numbering with a positive counter comes back whole from where it was saved. -/
theorem reload_of_pos {m : Numbering} (hm : m.Sound) (h : 0 < m.next) : m.reload = m := by
  rw [reload, ofJson_toJson_self hm h]
  exact ite_self m

theorem next_assignAll_empty (labels : List Text) : 0 < (empty.assignAll labels).next := by
  have h := (assignAll_grows labels empty_sound).next_le
  exact Int.lt_of_lt_of_le Int.one_pos h

/-- **Edits come to giving out numbers**, to the labels mentioned since the last clearing. -/
theorem run_edits_eq (edits : List Edit) :
    run empty (edits.map Edit.event) = empty.assignAll (mentioned edits) := by
  induction edits using List.reverseRecOn with
  | nil => rfl
  | append_singleton edits edit ih =>
    rw [List.map_append, run_append, ih]
    cases edit with
    | assign label =>
      rw [mentioned_assign, assignAll_append]
      rfl
    | clear =>
      rw [mentioned_clear]
      rfl
    | reload =>
      rw [mentioned_reload]
      exact reload_of_pos (assignAll_sound _ empty_sound) (next_assignAll_empty _)

theorem newOf_empty (labels : List Text) : empty.newOf labels = labels.eraseDups := by
  have hall : labels.filter (fun label => !empty.has label) = labels :=
    List.filter_eq_self.mpr fun _ _ => rfl
  rw [newOf, hall]

/-! ## Counting -/

/-- An empty numbering with labels added to it is what giving them their numbers makes of it. -/
theorem extend_empty_eq_assignAll {labels : List Text} (h : labels.Nodup) :
    empty.extend labels = empty.assignAll labels := by
  rw [assignAll_eq_extend labels empty_sound.isAhead, newOf_empty, Statement.eraseDups_of_nodup h]

/-- **Labels added to an empty numbering are counted through.** -/
theorem countsThrough_extend {labels : List Text} (h : labels.Nodup) :
    CountsThrough (empty.extend labels) labels := by
  have hsound : (empty.extend labels).Sound := by
    rw [extend_empty_eq_assignAll h]
    exact assignAll_sound labels empty_sound
  have hnumber : ∀ label n, (empty.extend labels).number? label = some n ↔
      ∃ i : Nat, labels[i]? = some label ∧ n = 1 + i := fun label n =>
    get?_numberedFrom_eq_some_iff 1 h
  have hlabel : ∀ n label, (empty.extend labels).labelOf.get? n = some label ↔
      ∃ i : Nat, labels[i]? = some label ∧ n = 1 + i := fun n label =>
    get?_swap_numberedFrom_eq_some_iff 1
  have hsize : (empty.extend labels).size = labels.length := length_numberedFrom 1 labels
  have hnext : (empty.extend labels).next = (empty.extend labels).size + 1 := by
    rw [hsize]
    exact Int.add_comm 1 _
  constructor
  case entries_eq =>
    refine List.mergeSort_of_pairwise ((pairwise_numberedFrom 1 labels).imp fun hlt => ?_)
    exact decide_eq_true (Int.le_of_lt hlt)
  case size_eq => exact hsize
  case next_eq => exact hnext
  case keys_nodup => exact ⟨hsound.keys_nodup, hsound.labelOf_eq ▸ nodup_keys_inverse _⟩
  case labelOf_iff =>
    intro n label
    rw [hnumber, hlabel]
  case number_iff =>
    intro n
    simp only [hnumber, hsize]
    constructor
    · rintro ⟨label, i, hi, rfl⟩
      obtain ⟨hlt, -⟩ := List.getElem?_eq_some_iff.mp hi
      omega
    · rintro ⟨hpos, hle⟩
      obtain ⟨i, hi⟩ : ∃ i : Nat, n = 1 + i := ⟨(n - 1).toNat, by omega⟩
      exact ⟨_, i, List.getElem?_eq_getElem (by omega), hi⟩
  case resolve_eq =>
    intro k label hk hbound
    refine (resolve_ofInt_eq_ok_iff _ ((k + 1 : Nat) : Int) label).mpr ⟨by omega, by omega, ?_⟩
    exact (hlabel _ label).mpr ⟨k, hk, by omega⟩
  case ofJson_toJson => exact ofJson_toJson_self hsound (by omega)
  case isWritable =>
    intro hbound
    rw [Numbering.isWritable, List.all_eq_true]
    intro n hn
    have hbelow := hsound.lt_of_labelOf hn
    rw [hsound.labelOf_eq, mem_keys_inverse] at hn
    obtain ⟨label, hmem⟩ := hn
    obtain ⟨i, -, hi⟩ := (hnumber label n).mp (hsound.number?_eq_some_iff.mpr hmem)
    rw [Numeral.isWritable, decide_eq_true_eq]
    omega

/-- **A numbering counts its labels**, whatever has been done to it since it was new: the labels
given numbers since the last clearing, each where it is first mentioned, are numbered from one on. -/
theorem countsThrough_edits (edits : List Edit) :
    CountsThrough (run empty (edits.map Edit.event)) (mentioned edits).eraseDups := by
  rw [run_edits_eq, assignAll_eq_extend _ empty_sound.isAhead, newOf_empty]
  exact countsThrough_extend (nodup_eraseDups _)

end Numbering

end GraphSketch
