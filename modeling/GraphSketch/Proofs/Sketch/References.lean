import GraphSketch.Execution
import GraphSketch.Proofs.Sketch.Returning
import GraphSketch.Proofs.Sketch.WellFormed
import Mathlib.Data.List.Find

/-!
# References on lines and in commands

A reference on a line is followed in the numbering, and one in a command is looked for among the
numbers that the nodes carry.  Both come to the same node, because in a numbering that goes back
to a new one no two labels share a number (`run_injective`), so that its two tables are inverse to
each other (`get?_labelOf_eq_some_iff`).

* `Numbering.resolve_eq_ok_iff` — what a reference names on a line.
* `findNode_of_number` — a reference in a command finds the node with its number, and nothing by
  its label.
* `SameNode` — how the two belong together.
* `findNode_reference` — what a reference means in a command, in terms of what it means on a line.
-/

set_option autoImplicit false

namespace GraphSketch

open OrderedMap

/-! ## The two tables of a numbering -/

namespace Numbering

/-- The second table has entries of the first, the other way round. -/
theorem mem_of_get?_inverse {table : OrderedMap Text Int} {n : Int} {label : Text}
    (h : (inverse table).get? n = some label) : (label, n) ∈ table := by
  induction table using List.reverseRecOn with
  | nil => cases h
  | append_singleton table e ih =>
    obtain ⟨other, k⟩ := e
    rw [inverse_append, get?_put] at h
    split at h
    · rename_i hk
      cases h
      rw [← hk]
      exact List.mem_append_right _ List.mem_cons_self
    · exact List.mem_append_left _ (ih h)

/-- **The two tables are inverse to each other** where no two labels share a number. -/
theorem get?_labelOf_eq_some_iff {m : Numbering} (hm : m.Sound) (hi : m.Injective) {n : Int}
    {label : Text} : m.labelOf.get? n = some label ↔ m.number? label = some n := by
  have hback : ∀ {other}, m.labelOf.get? n = some other → m.number? other = some n := by
    intro other h
    rw [hm.labelOf_eq] at h
    exact hm.number?_eq_some_iff.mpr (mem_of_get?_inverse h)
  refine ⟨hback, fun h => ?_⟩
  have hmem : n ∈ keys m.labelOf := by
    rw [hm.labelOf_eq, mem_keys_inverse]
    exact ⟨label, hm.number?_eq_some_iff.mp h⟩
  cases hfound : m.labelOf.get? n with
  | none => exact absurd hmem ((get?_eq_none_iff _ _).mp hfound)
  | some other => rw [hi other label n (hback hfound) h]

theorem apply_injective {m : Numbering} (hm : m.Sound) (hi : m.Injective) (event : Event) :
    (event.apply m).Injective := by
  by_cases hclear : event = .clear
  · rw [hclear]
    exact fun _ _ _ h => nomatch h
  · exact (apply_grows hm hclear).injective hm hi

/-- What has happened to a new numbering has not made labels share a number. -/
theorem run_injective : ∀ (events : List Event) {m : Numbering}, m.Sound → m.Injective →
    (run m events).Injective
  | [], _, _, hi => hi
  | event :: events, _, hm, hi =>
    run_injective events (apply_sound hm event) (apply_injective hm hi event)

theorem empty_injective : Injective empty := fun _ _ _ h => nomatch h

end Numbering

/-! ## References that can be read -/

namespace Reference

/-- The number of a reference that does not have too many digits. -/
theorem number_of_digits {digits : Text} (hne : digits ≠ [])
    (hdigits : ∀ c ∈ digits, isAsciiDigit c = true) (hshort : digits.length ≤ Numeral.limit) :
    number (':' :: digits) = .ok (some (Numeral.value (digits.filterMap asciiDigit?))) := by
  rw [number, digits?_eq_some_iff.mpr ⟨rfl, hne, hdigits⟩]
  simp only [Numeral.ofDigits, Text.length_filterMap_asciiDigit? hdigits, if_pos hshort]
  rfl

end Reference

theorem Numbering.resolve_eq_ok_iff (m : Numbering) (label : Text) {digits : Text} {n : Nat}
    (h : Reference.number (':' :: digits) = .ok (some n)) :
    m.resolve (':' :: digits) = .ok label ↔ m.labelOf.get? (n : Int) = some label := by
  have href : isReference (':' :: digits) = true := rfl
  simp only [resolve, href, if_true, h]
  cases m.labelOf.get? (n : Int) <;> simp

/-- The numeral of a number is followed, unless it has a sign or too many digits. -/
theorem Numbering.resolve_ofInt_eq_ok_iff (m : Numbering) (n : Int) (label : Text) :
    m.resolve (':' :: Text.ofInt n) = .ok label ↔
      0 ≤ n ∧ n < Numeral.bound ∧ m.labelOf.get? n = some label := by
  cases n with
  | negSucc n =>
    have href : isReference (':' :: Text.ofInt (.negSucc n)) = true := rfl
    have hnone : Reference.number (':' :: Text.ofInt (.negSucc n)) = .ok none := by
      rw [Reference.number, Reference.digits?, Text.ofInt, List.all_cons,
        show isAsciiDigit '-' = false from rfl, Bool.false_and, Bool.and_false,
        if_neg Bool.false_ne_true]
    simp only [resolve, href, if_true, hnone, reduceCtorEq, false_iff, not_and]
    omega
  | ofNat n =>
    rw [Text.ofInt]
    by_cases hn : n < Numeral.bound
    · have hnumber := Reference.number_of_digits (Text.ofNat_ne_nil n) (Text.digits_ofNat n)
        (Text.length_ofNat_le_iff.mpr hn)
      rw [Text.value_ofNat] at hnumber
      rw [m.resolve_eq_ok_iff label hnumber]
      exact ⟨fun h => ⟨Int.natCast_nonneg n, Int.ofNat_lt.mpr hn, h⟩, fun h => h.2.2⟩
    · have hover : Reference.IsOversized (':' :: Text.ofNat n) :=
        ⟨_, rfl, Text.digits_ofNat n, Nat.not_le.mp fun h => hn (Text.length_ofNat_le_iff.mp h)⟩
      rw [Numbering.resolve_eq_oversized_iff.mpr ⟨hover, rfl⟩]
      simp only [reduceCtorEq, false_iff, not_and]
      exact fun _ hlt => absurd (Int.ofNat_lt.mp hlt) hn

theorem findNode_of_number (nodes : List Node) {ref : Text} {n : Nat} (htrim : Text.trim ref = ref)
    (h : Reference.number ref = .ok (some n)) :
    findNode ref nodes = .ok (nodes.find? (·.number = (n : Int))) := by
  rw [findNode, htrim, h]
  rfl

namespace Sketch

/-! ## The nodes of a diagram -/

/-- Where a key is one item's only, to look for the key is to look for this item. -/
theorem find?_eq_some_iff_of_nodup {α β : Type} [DecidableEq β] {key : α → β} {xs : List α}
    (h : (xs.map key).Nodup) {k : β} {x : α} :
    xs.find? (fun y => key y = k) = some x ↔ x ∈ xs ∧ key x = k := by
  constructor
  · intro hfound
    exact ⟨List.mem_of_find?_eq_some hfound, by simpa using List.find?_some hfound⟩
  · rintro ⟨hmem, rfl⟩
    cases hfound : xs.find? (fun y => key y = key x) with
    | none => exact absurd (decide_eq_true rfl) (List.find?_eq_none.mp hfound x hmem)
    | some y =>
      have hy := List.mem_of_find?_eq_some hfound
      have hkey : key y = key x := by simpa using List.find?_some hfound
      rw [List.inj_on_of_nodup_map h hy hmem hkey]

/-- The nodes of a diagram carry the numbers of their labels, each its own. -/
theorem compile_numbers {settings : Settings} {numbering after : Numbering} {t : Text} {d : Diagram}
    (h : compile settings numbering t = (.ok d, after)) :
    (∀ node ∈ d.nodes, after.number? node.label = some node.number) ∧
      (after.Injective → (d.nodes.map (·.number)).Nodup) := by
  obtain ⟨canvas, hcanvas, rfl, hnodes, -⟩ := exists_sound_canvas h
  rw [hnodes]
  refine ⟨hcanvas.number_eq, fun hinjective => ?_⟩
  have hlabels : (canvas.nodes.map (·.label)).Nodup := hcanvas.labels_nodup
  refine List.Nodup.map_on (fun node hnode other hother hsame => ?_) hlabels.of_map
  have hlabel : node.label = other.label := hinjective _ _ node.number
    (hcanvas.number_eq node hnode) (hsame ▸ hcanvas.number_eq other hother)
  exact List.inj_on_of_nodup_map hlabels hnode hother hlabel

/-- What a reference means in a command: the node whose label it names on a line, if it names the
label of a node. -/
structure SameNode (d : Diagram) (after : Numbering) (ref : Text) : Prop where
  /-- A command finds the node that has the label. -/
  found_iff : ∀ node, findNode ref d.nodes = .ok (some node) ↔
    node ∈ d.nodes ∧ after.resolve ref = .ok node.label
  /-- It finds none if the reference names nothing, or a label that is not in the diagram. -/
  missing_iff : findNode ref d.nodes = .ok none ↔
    ∀ node ∈ d.nodes, after.resolve ref ≠ .ok node.label
  /-- So what is found is the node with the label that the numbering tells. -/
  eq : findNode ref d.nodes = .ok (match after.resolve ref with
    | .ok label => d.node? label
    | .error _ => none)

/-- **A reference means the same node on lines and in commands**, in every diagram that is compiled
with a numbering that goes back to a new one. -/
theorem findNode_reference {events : List Numbering.Event} {settings : Settings} {t : Text}
    {d : Diagram} {after : Numbering}
    (h : compile settings (Numbering.run Numbering.empty events) t = (.ok d, after))
    {digits : Text} (hne : digits ≠ []) (hdigits : ∀ c ∈ digits, isAsciiDigit c = true)
    (hshort : digits.length ≤ Numeral.limit) : SameNode d after (':' :: digits) := by
  have hafter : after = Numbering.run Numbering.empty (events ++ [.compile settings t]) := by
    rw [Numbering.run_append,
      show after = (compile settings (Numbering.run _ events) t).2 by rw [h]]
    rfl
  have hsound : after.Sound := hafter ▸ Numbering.run_sound _ Numbering.empty_sound
  have hinjective : after.Injective :=
    hafter ▸ Numbering.run_injective _ Numbering.empty_sound Numbering.empty_injective
  obtain ⟨hnumbers, hnodup⟩ := compile_numbers h
  have hnumber := Reference.number_of_digits hne hdigits hshort
  have hresolve := fun label => after.resolve_eq_ok_iff label hnumber
  have hfind := findNode_of_number d.nodes (Reference.trim_eq hdigits) hnumber
  generalize (Numeral.value (digits.filterMap asciiDigit?) : Int) = n at hresolve hfind
  -- a node carries the number of the reference exactly if the reference names its label
  have hnode : ∀ node ∈ d.nodes,
      (node.number = n ↔ after.resolve (':' :: digits) = .ok node.label) := by
    intro node hmem
    rw [hresolve, Numbering.get?_labelOf_eq_some_iff hsound hinjective, hnumbers node hmem,
      Option.some.injEq]
  have hmissing : findNode (':' :: digits) d.nodes = .ok none ↔
      ∀ node ∈ d.nodes, after.resolve (':' :: digits) ≠ .ok node.label := by
    rw [hfind, Except.ok.injEq, List.find?_eq_none]
    exact forall₂_congr fun node hmem => by rw [decide_eq_true_eq, hnode node hmem]
  refine ⟨fun node => ?_, hmissing, ?_⟩
  · rw [hfind, Except.ok.injEq, find?_eq_some_iff_of_nodup (hnodup hinjective)]
    exact and_congr_right (hnode node)
  · cases hnamed : after.resolve (':' :: digits) with
    | error fault =>
      refine hmissing.mpr fun node _ => ?_
      rw [hnamed]
      exact nofun
    | ok label =>
      have hsame : ∀ node ∈ d.nodes, (node.number = n ↔ node.label = label) := by
        intro node hmem
        rw [hnode node hmem, hnamed, Except.ok.injEq, eq_comm]
      rw [hfind, List.find?_congr fun node hmem => decide_eq_decide.mpr (hsame node hmem)]
      rfl

/-- Everything is forgotten after a first text, and one label gets a number before the second.  Its
first node is meant by a reference with a zero before the number, and a reference to the label that
is not in the text finds nothing. -/
theorem findNode_reference_cleared :
    let events : List Numbering.Event :=
      [.compile ⟨true, false⟩ "X -> Y\n:9", .clear, .assign "Z", .reload]
    let after : Numbering := ⟨[("Z", 1), ("A", 2), ("B", 3)], [(1, "Z"), (2, "A"), (3, "B")], 4⟩
    let d : Diagram := ⟨[⟨"A", 2, .rectangle, 0⟩, ⟨"B", 3, .rectangle, 1⟩],
      [⟨0, "A", "B", none⟩], [], [], []⟩
    compile ⟨true, false⟩ (Numbering.run Numbering.empty events) "A -> B" = (.ok d, after) ∧
      SameNode d after ":02" ∧ SameNode d after ":1" ∧
      findNode ":02" d.nodes = .ok (some ⟨"A", 2, .rectangle, 0⟩) ∧
      after.resolve ":1" = .ok "Z".toList ∧ findNode ":1" d.nodes = .ok none := by
  intro events after d
  have hc : compile ⟨true, false⟩ (Numbering.run Numbering.empty events) "A -> B" =
      (.ok d, after) := by
    decide +kernel
  have hfirst : SameNode d after (':' :: ['0', '2']) :=
    findNode_reference hc (by decide) (List.all_eq_true.mp rfl) (by decide)
  have hsecond : SameNode d after (':' :: ['1']) :=
    findNode_reference hc (by decide) (List.all_eq_true.mp rfl) (by decide)
  exact ⟨hc, hfirst, hsecond, hfirst.eq, rfl, hsecond.eq⟩

end Sketch

end GraphSketch
