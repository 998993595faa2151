import GraphSketch.Proofs.Connector
import GraphSketch.Proofs.Mask.Arrow
import GraphSketch.Proofs.Text.Cut

/-!
# Chains in marked text

A line is cut at its arrows after its spans have been masked.  `exists_markedChain` carries the cut
back to the source: there is one cut of the marked line, at a `MarkedArrow` for each arrow, from
which the cut of the masked line is read, whatever the width of the fences is.

* `readsAlike_at?` — the arrow at the beginning of masked text is one of the marked text.
* `exists_markedChain` — the same for all arrows of a line.
-/

set_option autoImplicit false

namespace GraphSketch

/-! ## Arrows -/

namespace MarkedArrow

open Marked

/-- Reading an arrow at the beginning of masked text finds an arrow of the marked text, or none,
whatever the width of the fences is. -/
def ReadsAlike (read? : Text → Option Arrow) (s : Marked) : Prop :=
  ∃ a? : Option MarkedArrow, (∀ a, a? = some a → a.symbols <+: s) ∧
    ∀ width, read? (masked width s) = a?.map (read (masked width))

theorem ReadsAlike.orElse {read? next? : Text → Option Arrow} {s : Marked}
    (h : ReadsAlike read? s) (hnext : ReadsAlike next? s) :
    ReadsAlike (fun t => read? t <|> next? t) s := by
  obtain ⟨a?, hprefix, hread⟩ := h
  cases a? with
  | some a => exact ⟨some a, hprefix, fun width => by simp [hread width]⟩
  | none =>
    obtain ⟨b?, hprefix, hnext⟩ := hnext
    exact ⟨b?, hprefix, fun width => by simp [hread width, hnext width]⟩

theorem readsAlike_plain {direction : Direction} {raw : Text} (a : MarkedArrow)
    (hraw : raw.any isPlaceholderChar = false) (ha : a.symbols = raw.map .char)
    (hread : ∀ width, a.read (masked width) = ⟨direction, none, raw⟩) (s : Marked) :
    ReadsAlike (Arrow.plain? direction raw) s := by
  by_cases hs : raw.map .char <+: s
  · refine ⟨some a, fun b hb => ?_, fun width => ?_⟩
    · cases hb
      rw [ha]
      exact hs
    · have hprefix : raw <+: masked width s := (isPrefix_masked_iff hraw).mpr hs
      rw [Arrow.plain?, if_pos (List.isPrefixOf_iff_prefix.mpr hprefix), Option.map_some, hread]
  · refine ⟨none, fun _ hnone => absurd hnone.symm (Option.some_ne_none _), fun width => ?_⟩
    rw [Arrow.plain?, if_neg]
    · rfl
    · rw [List.isPrefixOf_iff_prefix, isPrefix_masked_iff hraw]
      exact hs

theorem passes_iff {p : Char → Bool} (hp : Uniform p true) {width : Nat} {label : Marked} :
    (∀ c ∈ masked width label, p c = true) ↔ ∀ x ∈ label, x.passes p true = true := by
  constructor
  · intro h x hx
    cases x with
    | char c => exact h c (List.mem_flatMap.mpr ⟨_, hx, List.mem_singleton_self c⟩)
    | span n content => rfl
  · intro h c hc
    obtain ⟨x, hx, hc⟩ := List.mem_flatMap.mp hc
    cases x with
    | char d =>
      rw [List.mem_singleton.mp hc]
      exact h _ hx
    | span n content => exact hp c (isPlaceholderChar_of_mem hc)

/-- Masked text begins with a labelled arrow exactly if the marked text does. -/
theorem isLabelled_masked_iff {direction : Direction} {start : Text} {p : Char → Bool}
    (hstart : start.any isPlaceholderChar = false) (hp : Uniform p true) {width : Nat} {s : Marked}
    {arrow : Arrow} :
    Arrow.IsLabelled direction start p (masked width s) arrow ↔ ∃ label rest : Marked,
      s = start.map .char ++ (label ++ (['-', '>'].map .char ++ rest)) ∧ label ≠ [] ∧
        (∀ x ∈ label, x.passes p true = true) ∧
        arrow = ⟨direction, Arrow.cleanLabel (masked width label),
          start ++ masked width label ++ ['-', '>']⟩ := by
  have hclose : ['-', '>'].any isPlaceholderChar = false := by decide
  constructor
  · rintro ⟨l, rest, h, hne, hl, harrow⟩
    obtain ⟨behind, rfl, hbehind⟩ := (masked_eq_append_iff hstart).mp h
    obtain ⟨label, closed, rfl, rfl, hclosed⟩ := exists_split hbehind fun c _ d hd => Or.inr (by
      cases hd
      decide)
    obtain ⟨rest, rfl, -⟩ := (masked_eq_append_iff hclose).mp hclosed
    exact ⟨label, rest, rfl, mt masked_eq_nil_iff.mpr hne, (passes_iff hp).mp hl, harrow⟩
  · rintro ⟨label, rest, rfl, hne, hl, harrow⟩
    refine ⟨masked width label, masked width rest, ?_, mt masked_eq_nil_iff.mp hne,
      (passes_iff hp).mpr hl, harrow⟩
    simp only [masked_append, masked_map_char]

theorem readsAlike_labelled {read? : Text → Option Arrow} {direction : Direction} {start : Text}
    {p : Char → Bool} (make : Marked → MarkedArrow)
    (hiff : ∀ t arrow, read? t = some arrow ↔ Arrow.IsLabelled direction start p t arrow)
    (hstart : start.any isPlaceholderChar = false) (hp : Uniform p true)
    (hsymbols : ∀ label, (make label).symbols = start.map .char ++ (label ++ ['-', '>'].map .char))
    (hdirection : ∀ label, (make label).direction = direction)
    (hlabel : ∀ label, (make label).label? = some label) (s : Marked) : ReadsAlike read? s := by
  by_cases h : ∃ label rest : Marked, s = start.map .char ++ (label ++ (['-', '>'].map .char ++ rest)) ∧
      label ≠ [] ∧ ∀ x ∈ label, x.passes p true = true
  · obtain ⟨label, rest, hs, hne, hl⟩ := h
    refine ⟨some (make label), fun a ha => ?_, fun width => ?_⟩
    · cases ha
      rw [hsymbols, hs]
      exact ⟨rest, by simp⟩
    · rw [Option.map_some, hiff, isLabelled_masked_iff hstart hp]
      refine ⟨label, rest, hs, hne, hl, ?_⟩
      simp only [read, hdirection, hlabel, hsymbols, Option.bind_some, cleanLabel_masked, masked_append,
        masked_map_char, List.append_assoc]
  · refine ⟨none, fun _ hnone => absurd hnone.symm (Option.some_ne_none _), fun width => ?_⟩
    rw [Option.map_none, Option.eq_none_iff_forall_ne_some]
    intro arrow harrow
    rw [hiff, isLabelled_masked_iff hstart hp] at harrow
    obtain ⟨label, rest, hs, hne, hl, -⟩ := harrow
    exact h ⟨label, rest, hs, hne, hl⟩

/-- Whatever may not stand in a label is a sign of an arrow, and no placeholder holds one. -/
theorem uniform_of_signs {p : Char → Bool} (hp : ∀ c, p c = false → c ∈ ['-', '<', '>']) :
    Uniform p true := fun c hc => by
  by_contra hnot
  have hsigns : ['-', '<', '>'].any isPlaceholderChar = false := by decide
  rw [isPlaceholderChar_eq_false_of_mem hsigns (hp c (Bool.eq_false_iff.mpr hnot))] at hc
  cases hc

/-- **The arrow at the beginning of masked text** is one of the marked text. -/
theorem readsAlike_at? (s : Marked) : ReadsAlike Arrow.at? s := by
  have hbothChar : Uniform Arrow.isBothLabelChar true := uniform_of_signs fun c hc => by
    simp only [Arrow.isBothLabelChar, ne_eq, Bool.and_eq_false_iff, decide_eq_false_iff_not,
      not_not] at hc
    simp [hc]
  have hforwardChar : Uniform Arrow.isForwardLabelChar true := uniform_of_signs fun c hc => by
    simp only [Arrow.isForwardLabelChar, ne_eq, Bool.and_eq_false_iff, decide_eq_false_iff_not,
      not_not] at hc
    simpa [or_assoc] using hc
  have hboth := readsAlike_labelled both (fun _ _ => Arrow.labelledBoth?_eq_some_iff) (by decide)
    hbothChar (fun _ => rfl) (fun _ => rfl) (fun _ => rfl) s
  have hforward := readsAlike_labelled forward (fun _ _ => Arrow.labelledForward?_eq_some_iff)
    (by decide) hforwardChar (fun _ => rfl) (fun _ => rfl) (fun _ => rfl) s
  exact hboth.orElse ((readsAlike_plain plainBoth (by decide) rfl (fun _ => rfl) s).orElse
    (hforward.orElse ((readsAlike_plain plainForward (by decide) rfl (fun _ => rfl) s).orElse
      (readsAlike_plain plainBackward (by decide) rfl (fun _ => rfl) s))))

end MarkedArrow

/-! ## Chains -/

theorem Connector.isGap_placeholder (width n : Nat) : IsGap (Mask.placeholder width n) :=
  fun c hc hsign => by
    have hsigns : ['-', '<', '>'].any Marked.isPlaceholderChar = false := by decide
    have hnot := Marked.isPlaceholderChar_eq_false_of_mem hsigns hsign
    rw [Marked.isPlaceholderChar_of_mem hc] at hnot
    cases hnot

/-- A marked text cut at its arrows: the gap before the first, and every arrow with the gap after
it. -/
structure MarkedChain where
  first : Marked
  rest : List (MarkedArrow × Marked)

namespace MarkedChain

open Marked

/-- The marked text that was cut. -/
def symbols (chain : MarkedChain) : Marked :=
  chain.first ++ chain.rest.flatMap fun e => e.1.symbols ++ e.2

/-- The arrows in order. -/
def arrows (chain : MarkedChain) : List MarkedArrow := chain.rest.map (·.1)

/-- The chain with all texts read by `f`. -/
def read (f : Marked → Text) (chain : MarkedChain) : Chain :=
  ⟨f chain.first, chain.rest.map fun e => (e.1.read f, f e.2)⟩

theorem arrows_read (f : Marked → Text) (chain : MarkedChain) :
    (chain.read f).arrows = chain.arrows.map (MarkedArrow.read f) := by
  simp [Chain.arrows, Cut.tokens, read, arrows]

theorem symbols_infix_of_mem_arrows {chain : MarkedChain} {a : MarkedArrow}
    (h : a ∈ chain.arrows) : a.symbols <:+: chain.symbols := by
  obtain ⟨e, he, rfl⟩ := List.mem_map.mp h
  obtain ⟨before, after, hrest⟩ := List.append_of_mem he
  refine ⟨chain.first ++ before.flatMap (fun e => e.1.symbols ++ e.2),
    e.2 ++ after.flatMap fun e => e.1.symbols ++ e.2, ?_⟩
  rw [symbols, hrest]
  simp

/-- **The arrows of a masked line** are arrows of the line, whatever the width of the fences is. -/
theorem exists_markedChain : ∀ s : Marked, ∃ chain : MarkedChain, chain.symbols = s ∧
    ∀ width, Chain.ofLine (masked width s) = chain.read (masked width)
  | [] => ⟨⟨[], []⟩, rfl, fun _ => rfl⟩
  | x :: s => by
    obtain ⟨a?, hprefix, hread⟩ := MarkedArrow.readsAlike_at? (x :: s)
    cases a? with
    | none =>
      -- no arrow begins here, and the gap is one symbol longer
      obtain ⟨chain, hsymbols, hchain⟩ := exists_markedChain s
      refine ⟨⟨x :: chain.first, chain.rest⟩, by simp [symbols, ← hsymbols], fun width => ?_⟩
      have hcut := hchain width
      rw [Chain.ofLine] at hcut ⊢
      have hnone := hread width
      cases x with
      | char c =>
        rw [masked_cons, Symbol.masked, List.singleton_append] at hnone ⊢
        rw [Text.cut_of_none (by rw [Arrow.token?, hnone]; rfl), hcut]
        rfl
      | span n content =>
        rw [masked_cons, Symbol.masked,
          Text.cut_append_of_none (Connector.token?_of_isGap (Connector.isGap_placeholder width n)), hcut]
        rfl
    | some a =>
      obtain ⟨rest, hrest⟩ := hprefix a rfl
      have hne : a.symbols ≠ [] := by
        cases a <;> exact List.cons_ne_nil _ _
      have hshort : rest.length < (x :: s).length := by
        rw [← hrest, List.length_append]
        have := List.length_pos_iff.mpr hne
        omega
      obtain ⟨chain, hsymbols, hchain⟩ := exists_markedChain rest
      refine ⟨⟨[], (a, chain.first) :: chain.rest⟩, ?_, fun width => ?_⟩
      · rw [← hrest, ← hsymbols]
        simp [symbols]
      · have hcut := hchain width
        have htoken := hread width
        rw [← hrest, masked_append] at htoken ⊢
        rw [Chain.ofLine] at hcut ⊢
        rw [Text.cut_of_token (mt masked_eq_nil_iff.mp hne) (by rw [Arrow.token?, htoken]; rfl), hcut]
        rfl
  termination_by s => s.length
  decreasing_by
    · exact Nat.lt_succ_self _
    · exact hshort

end MarkedChain

end GraphSketch
