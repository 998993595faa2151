import GraphSketch.Proofs.Json.RoundTrip
import GraphSketch.Proofs.Numbering.Sound

/-!
# Numberings in files

The text of a saved numbering is read back as the value that was saved: no label and no number
stands in it twice, because numerals of different integers differ (`Text.ofInt_injective`).

* `Numbering.toJson_fitsIn` — a saved numbering has no field twice and no number with a fraction,
  and it is two objects in a third.

The first table has labels as the names of its fields and the second one has numerals.  In a sound
numbering the first has no label twice, and the second is made from it, so it has no number twice.
What loading makes of the value is in `Proofs.Numbering.Growth`.
-/

set_option autoImplicit false

namespace GraphSketch

theorem Text.ofInt_injective {m n : Int} (h : Text.ofInt m = Text.ofInt n) : m = n := by
  cases m with
  | ofNat m =>
    cases n with
    | ofNat n => rw [Text.ofNat_injective h]
    | negSucc n =>
      have h : Text.ofNat m = '-' :: Text.ofNat (n + 1) := h
      exact absurd (h ▸ List.mem_cons_self) (Text.dash_notMem_ofNat m)
  | negSucc m =>
    cases n with
    | ofNat n =>
      have h : '-' :: Text.ofNat (m + 1) = Text.ofNat n := h
      exact absurd (h ▸ List.mem_cons_self) (Text.dash_notMem_ofNat n)
    | negSucc n =>
      have := Text.ofNat_injective (List.cons.inj h).2
      rw [Nat.succ.inj this]

namespace Numbering

theorem toJson_fitsIn {m : Numbering} (hm : m.Sound) : Json.FitsIn 2 m.toJson := by
  have hnames : (["labelToId", "idToLabel", "nextId"] : List Text).Nodup := by decide
  refine ⟨hnames, fun e he => ?_⟩
  simp only [List.mem_cons, List.not_mem_nil, or_false] at he
  rcases he with rfl | rfl | rfl
  · refine ⟨?_, fun e he => ?_⟩
    · rw [OrderedMap.keys, List.map_map]
      exact hm.keys_nodup
    · obtain ⟨entry, -, rfl⟩ := List.mem_map.mp he
      trivial
  · refine ⟨?_, fun e he => ?_⟩
    · rw [OrderedMap.keys, List.map_map, hm.labelOf_eq]
      have hnodup := nodup_keys_inverse m.numberOf
      rw [OrderedMap.keys] at hnodup
      have := hnodup.map (f := Text.ofInt) fun _ _ => Text.ofInt_injective
      rwa [List.map_map] at this
    · obtain ⟨entry, -, rfl⟩ := List.mem_map.mp he
      trivial
  · trivial

end Numbering

end GraphSketch
