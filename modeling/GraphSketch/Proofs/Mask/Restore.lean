import GraphSketch.Proofs.Mask.Fence
import GraphSketch.Proofs.OrderedMap
import GraphSketch.Proofs.Text.Cut

/-!
# Restoring masked text

`restore_masked` is what masking is for: in every piece of a marked text, putting contents back
for placeholders gives the piece with the contents of its spans.  Where a piece is shown masked
instead, this can be seen exactly if there is a span in it (`masked_eq_filled_iff`,
`exists_key_infix_masked_iff`).

* `get?_entries_of_span` — the entry of a placeholder is the content of its span, because no two
  spans have one placeholder.
* `fill_cut_masked` — the placeholders that are found in masked text are those that were put
  there. The fences are safe for the text (`opening_notInfix_source`), so neither a character nor
  the content of a span makes another one.
* `spanless_of_masked_eq_filled` — a content would have to hold the placeholder of its own span
  for the two readings to be the same.
-/

set_option autoImplicit false

namespace GraphSketch

namespace Mask

theorem get?_entriesFrom (width : Nat) : ∀ (n : Nat) (contents : List Text) (i : Nat),
    (entriesFrom width n contents).get? (placeholder width (n + i)) = contents[i]?
  | _, [], _ => rfl
  | n, content :: contents, 0 => by
    rw [entriesFrom, OrderedMap.get?, Nat.add_zero, if_pos rfl]
    rfl
  | n, content :: contents, i + 1 => by
    have hne : placeholder width n ≠ placeholder width (n + (i + 1)) := fun h => by
      have := placeholder_injective h
      omega
    rw [entriesFrom, OrderedMap.get?, if_neg hne, show n + (i + 1) = n + 1 + i by omega,
      get?_entriesFrom width (n + 1) contents i, List.getElem?_cons_succ]

/-- Everything that masking puts into a text begins with an opening. -/
theorem exists_of_mem_keys_entriesFrom {width : Nat} {key : Text} : ∀ {n : Nat}
    {contents : List Text}, key ∈ (entriesFrom width n contents).keys →
      ∃ i, key = placeholder width i
  | _, [], h => by cases h
  | n, content :: contents, h => by
    rcases List.mem_cons.mp h with rfl | h
    · exact ⟨n, rfl⟩
    · exact exists_of_mem_keys_entriesFrom h

theorem exists_of_isPlaceholder {mask : Mask} {t : Text} (h : mask.isPlaceholder t = true) :
    ∃ i, Text.trim t = placeholder mask.width i := by
  obtain ⟨content, hget⟩ := Option.isSome_iff_exists.mp h
  exact exists_of_mem_keys_entriesFrom
    (OrderedMap.mem_keys_of_mem (OrderedMap.mem_of_get?_eq_some hget))

end Mask

namespace Marked

variable {t : Text} {s : Marked}

/-! ## Pieces of a marked text -/

theorem isInfix_source (h : s <:+: ofText t) : s.source <:+: t := by
  obtain ⟨a, b, hab⟩ := h
  refine ⟨source a, source b, ?_⟩
  rw [← source_append, ← source_append, hab, source_ofText]

theorem opening_notInfix_source (h : s <:+: ofText t) :
    ¬ Mask.opening (fenceWidth t) <:+: s.source := fun hi =>
  Mask.opening_notInfix t (hi.trans (isInfix_source h))

theorem opening_notInfix_content {n : Nat} {content : Text} (h : .span n content ∈ ofText t) :
    ¬ Mask.opening (fenceWidth t) <:+: unescapeQuotes content := by
  intro hi
  obtain ⟨a, b, hab⟩ := List.append_of_mem h
  have hs : [.span n content] <:+: ofText t := ⟨a, b, by rw [hab]; simp⟩
  refine opening_notInfix_source hs ?_
  rw [source_cons, source_nil, List.append_nil]
  exact (infix_of_infix_unescapeQuotes (Mask.quote_notMem_opening _) hi).trans
    ⟨['"'], ['"'], rfl⟩

theorem get?_entries_of_span {n : Nat} {content : Text} (h : .span n content ∈ ofText t) :
    (Mask.ofText t).entries.get? (Mask.placeholder (fenceWidth t) n) =
      some (unescapeQuotes content) := by
  have hget := Mask.get?_entriesFrom (fenceWidth t) 0 (Mask.ofText t).contents n
  rw [Nat.zero_add, contents_of_span_mem h] at hget
  exact hget

/-! ## Restoring -/

/-- Reading masked text at its placeholders, as long as no opening occurs in it as written. -/
theorem fill_cut_masked {width : Nat} (hw : 2 ≤ width) {f : Text → Text} : ∀ {s : Marked},
    ¬ Mask.opening width <:+: s.source →
    (∀ n content, .span n content ∈ s → f (Mask.placeholder width n) = unescapeQuotes content) →
      ((s.masked width).cut (Mask.placeholder? width)).fill f = s.filled
  | [], _, _ => rfl
  | .char c :: s, hsafe, hf => by
    have ih := fill_cut_masked hw (s := s)
      (fun hi => hsafe (hi.trans (List.suffix_cons c (source s)).isInfix))
      fun n content h => hf n content (List.mem_cons_of_mem _ h)
    have hnone := placeholder?_of_char hw hsafe
    rw [masked_cons, Symbol.masked, List.singleton_append] at hnone ⊢
    rw [Text.cut_of_none hnone, filled_cons, ← ih]
    rfl
  | .span n content :: s, hsafe, hf => by
    have hspan : f (Mask.placeholder width n) = unescapeQuotes content :=
      hf n content List.mem_cons_self
    have ih := fill_cut_masked hw (s := s)
      (fun hi => hsafe (hi.trans (List.suffix_append _ (source s)).isInfix))
      fun n content h => hf n content (List.mem_cons_of_mem _ h)
    have hne : Mask.placeholder width n ≠ [] := by
      intro h
      have hlen := congrArg List.length h
      rw [Mask.placeholder_eq, List.length_append, Mask.opening_length, List.length_nil] at hlen
      omega
    rw [masked_cons, Symbol.masked,
      Text.cut_of_token hne (Mask.placeholder?_of_placeholder hw n _), filled_cons, ← ih,
      Symbol.filled, ← hspan]
    simp [Cut.fill]

/-- **Restoring a piece of masked text** puts the content of each span in its place. -/
theorem restore_masked (h : s <:+: ofText t) :
    (Mask.ofText t).restore (s.masked (fenceWidth t)) = s.filled := by
  refine fill_cut_masked (Mask.two_le_fenceWidth t) (opening_notInfix_source h) fun n content hs => ?_
  rw [get?_entries_of_span (h.subset hs)]
  rfl

/-! ## Masked text that is not restored -/

/-- No text that begins no later with the contents of spans than with their placeholders reads
the same both ways: a content would have to hold the placeholder of its own span. -/
theorem spanless_of_masked_eq_filled {width : Nat} : ∀ {s : Marked} {u v : Text},
    (∀ n content, .span n content ∈ s → ¬ Mask.opening width <:+: unescapeQuotes content) →
    v.length ≤ u.length → u ++ s.masked width = v ++ s.filled →
      v.length = u.length ∧ s.spanless = true
  | [], u, v, _, _, heq => by
    rw [masked_nil, filled_nil, List.append_nil, List.append_nil] at heq
    exact ⟨by rw [heq], rfl⟩
  | .char c :: s, u, v, hsafe, hle, heq => by
    rw [masked_cons, filled_cons, ← List.append_assoc, ← List.append_assoc] at heq
    obtain ⟨hlen, hs⟩ := spanless_of_masked_eq_filled
      (fun n content h => hsafe n content (List.mem_cons_of_mem _ h))
      (by simpa [Symbol.masked, Symbol.filled] using hle) heq
    exact ⟨by simpa [Symbol.masked, Symbol.filled] using hlen, hs⟩
  | .span n content :: s, u, v, hsafe, hle, heq => by
    exfalso
    have hcontent := hsafe n content List.mem_cons_self
    rw [masked_cons, filled_cons, ← List.append_assoc, ← List.append_assoc] at heq
    have hlt : (v ++ unescapeQuotes content).length < (u ++ Mask.placeholder width n).length := by
      by_contra hge
      have hp : u ++ Mask.placeholder width n <+: v ++ unescapeQuotes content :=
        List.prefix_of_prefix_length_le ⟨_, heq⟩ (List.prefix_append _ _) (by omega)
      obtain ⟨w, rfl⟩ : v <+: u := List.prefix_of_prefix_length_le (List.prefix_append _ _)
        ((List.prefix_append _ _).trans hp) hle
      rw [List.append_assoc, List.prefix_append_right_inj] at hp
      refine hcontent (List.IsInfix.trans ⟨w, Text.ofNat n ++ fence width, ?_⟩ hp.isInfix)
      rw [Mask.placeholder_eq, List.append_assoc]
    have hlen := (spanless_of_masked_eq_filled
      (fun n content h => hsafe n content (List.mem_cons_of_mem _ h)) (Nat.le_of_lt hlt) heq).1
    exact absurd hlen (Nat.ne_of_lt hlt)

/-- **A piece that is shown masked** reads as if it were restored exactly if it has no span. -/
theorem masked_eq_filled_iff (h : s <:+: ofText t) :
    s.masked (fenceWidth t) = s.filled ↔ s.spanless = true := by
  refine ⟨fun heq => ?_, fun hs => (filled_of_spanless hs _).symm⟩
  exact (spanless_of_masked_eq_filled (u := []) (v := [])
    (fun n content hmem => opening_notInfix_content (h.subset hmem)) (Nat.le_refl _) heq).2

/-- A placeholder occurs in a piece that is shown masked exactly if it has a span. -/
theorem exists_key_infix_masked_iff (h : s <:+: ofText t) :
    (∃ key ∈ (Mask.ofText t).entries.keys, key <:+: s.masked (fenceWidth t)) ↔
      s.spanless = false := by
  constructor
  · rintro ⟨key, hkey, hi⟩
    rw [← Bool.not_eq_true]
    intro hs
    obtain ⟨u, rfl⟩ := exists_map_char_of_spanless hs
    obtain ⟨i, rfl⟩ := Mask.exists_of_mem_keys_entriesFrom hkey
    refine opening_notInfix_source h ?_
    rw [source_map_char]
    rw [masked_map_char, show (Mask.ofText t).width = fenceWidth t from rfl,
      Mask.placeholder_eq] at hi
    exact (List.prefix_append _ _).isInfix.trans hi
  · intro hs
    obtain ⟨x, hx, hspan⟩ := List.all_eq_false.mp hs
    cases x with
    | char c => simp [Symbol.isSpan] at hspan
    | span n content =>
      refine ⟨Mask.placeholder (fenceWidth t) n, ?_, ?_⟩
      · by_contra hnot
        have hnone := (OrderedMap.get?_eq_none_iff _ _).mpr hnot
        rw [get?_entries_of_span (h.subset hx)] at hnone
        cases hnone
      · obtain ⟨a, b, rfl⟩ := List.append_of_mem hx
        refine ⟨masked (fenceWidth t) a, masked (fenceWidth t) b, ?_⟩
        rw [masked_append, masked_cons, Symbol.masked, List.append_assoc]

end Marked

end GraphSketch
