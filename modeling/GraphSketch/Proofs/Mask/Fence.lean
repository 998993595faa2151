import GraphSketch.Proofs.Mask.Marked

/-!
# Fences

The width that is chosen for a text is safe for it: `Mask.opening`, with which every placeholder
begins, does not occur in the text (`opening_notInfix`).  A placeholder is read where one stands
(`placeholder?_of_placeholder`), and nowhere else in masked text, however the characters before it
look: `placeholder?_of_char` excludes that an opening is put together from characters and the
beginning of a placeholder.

* `two_le_fenceWidth` — a fence is two underscores wide at least.
* `placeholder_injective` — placeholders with different numbers are different.
* `exists_chars_append`, `not_opening_of_chars` — an opening that began among characters and went
  on in a placeholder would have the fence of that placeholder in its own word, which has no
  underscore but its last character.
-/

set_option autoImplicit false

namespace GraphSketch

namespace Text

theorem contains_iff_isInfix {needle t : Text} : contains needle t = true ↔ needle <:+: t := by
  induction t with
  | nil => rw [contains, List.isEmpty_iff, List.infix_nil]
  | cons c cs ih =>
    rw [contains, Bool.or_eq_true, ih, List.isPrefixOf_iff_prefix, List.infix_cons_iff]

theorem after?_append (start rest : Text) : after? start (start ++ rest) = some rest := by
  rw [after?, if_pos (List.isPrefixOf_iff_prefix.mpr (List.prefix_append _ _)), List.drop_left]

theorem after?_eq_some {start t rest : Text} (h : after? start t = some rest) :
    t = start ++ rest := by
  unfold after? at h
  split at h
  · rename_i hp
    obtain ⟨tail, rfl⟩ := List.isPrefixOf_iff_prefix.mp hp
    rw [List.drop_left, Option.some.injEq] at h
    rw [h]
  · cases h

end Text

namespace Mask

/-- How every placeholder with fences of the given width begins. -/
def opening (width : Nat) : Text := fence width ++ placeholderWord

theorem opening_length (width : Nat) : (opening width).length = width + 7 := by
  rw [opening, fence, List.length_append, List.length_replicate]
  rfl

theorem quote_notMem_opening (width : Nat) : '"' ∉ opening width := by
  rw [opening, fence, List.mem_append, List.mem_replicate]
  rintro (⟨_, h⟩ | h)
  · exact absurd h (by decide)
  · exact absurd h (by decide)

theorem placeholder_eq (width n : Nat) :
    placeholder width n = opening width ++ (Text.ofNat n ++ fence width) := by
  simp [placeholder, opening]

theorem placeholder_injective {width m n : Nat} (h : placeholder width m = placeholder width n) :
    m = n := by
  rw [placeholder_eq, placeholder_eq, List.append_cancel_left_eq,
    List.append_cancel_right_eq] at h
  exact Text.ofNat_injective h

/-! ## The width of a fence -/

theorem two_le_fenceWidth (t : Text) : 2 ≤ fenceWidth t := by
  rw [fenceWidth]
  cases h : (List.range' 2 (t.length + 1)).find? fun width => fenceIsSafe width t with
  | none => exact Nat.le_add_left 2 t.length
  | some width => exact (List.mem_range'_1.mp (List.mem_of_find?_eq_some h)).1

/-- **The fences are safe**: no placeholder begins in the text that they are chosen for. -/
theorem opening_notInfix (t : Text) : ¬ opening (fenceWidth t) <:+: t := by
  intro hi
  rw [fenceWidth] at hi
  cases h : (List.range' 2 (t.length + 1)).find? fun width => fenceIsSafe width t with
  | none =>
    rw [h] at hi
    have hlen := hi.length_le
    rw [opening_length, Option.getD_none] at hlen
    omega
  | some width =>
    rw [h] at hi
    have hsafe := List.find?_some h
    rw [fenceIsSafe, Bool.not_eq_true', ← Bool.not_eq_true, Text.contains_iff_isInfix] at hsafe
    exact hsafe hi

/-! ## Reading placeholders -/

theorem placeholder?_of_placeholder {width : Nat} (hw : 2 ≤ width) (n : Nat) (rest : Text) :
    placeholder? width (placeholder width n ++ rest) =
      some (placeholder width n, (placeholder width n).length) := by
  have hafter : placeholder width n ++ rest =
      opening width ++ (Text.ofNat n ++ (fence width ++ rest)) := by
    rw [placeholder_eq, List.append_assoc, List.append_assoc]
  obtain ⟨width, rfl⟩ : ∃ w, width = w + 1 := ⟨width - 1, by omega⟩
  have hfence : fence (width + 1) = '_' :: fence width := List.replicate_succ
  -- the digits end where the fence begins
  have hnot : isDecimalDigit '_' = false := by decide
  have hdigits : (Text.ofNat n ++ (fence (width + 1) ++ rest)).takeWhile isDecimalDigit =
      Text.ofNat n := by
    rw [List.takeWhile_append_of_pos fun c hc =>
      Text.isDecimalDigit_of_isDigit (Text.isDigit_of_mem_ofNat hc), hfence]
    rw [List.cons_append, List.takeWhile_cons, hnot]
    exact List.append_nil _
  have hlen : (placeholder (width + 1) n).length =
      2 * (width + 1) + placeholderWord.length + (Text.ofNat n).length := by
    simp only [placeholder, fence, List.length_append, List.length_replicate]
    omega
  have hne : (Text.ofNat n).isEmpty = false :=
    Bool.eq_false_iff.mpr fun h => Text.ofNat_ne_nil n (List.isEmpty_iff.mp h)
  rw [placeholder?, hafter]
  simp only [show fence (width + 1) ++ placeholderWord = opening (width + 1) from rfl,
    Text.after?_append, Option.bind_eq_bind, Option.bind_some, hdigits, hne, Bool.false_eq_true,
    if_false, List.drop_left, Option.pure_def]
  rw [← hafter, ← hlen, List.take_left]

/-- What can be read as a placeholder begins with an opening, and digits follow. -/
theorem placeholder?_eq_some {width : Nat} {t : Text} {word : Text × Nat}
    (h : placeholder? width t = some word) :
    ∃ c rest, t = opening width ++ c :: rest ∧ isDecimalDigit c = true := by
  rw [placeholder?] at h
  obtain ⟨afterWord, hafter, h⟩ := Option.bind_eq_some_iff.mp h
  rw [Text.after?_eq_some hafter]
  cases afterWord with
  | nil => simp at h
  | cons c rest =>
    refine ⟨c, rest, rfl, ?_⟩
    by_contra hc
    simp [hc] at h

end Mask

/-! ## Masked text -/

namespace Marked

theorem exists_chars_append : ∀ s : Marked, ∃ (t : Text) (tail : Marked), s = t.map .char ++ tail ∧
    (tail = [] ∨ ∃ n content rest, tail = .span n content :: rest)
  | [] => ⟨[], [], rfl, Or.inl rfl⟩
  | .char c :: s => by
    obtain ⟨t, tail, rfl, h⟩ := exists_chars_append s
    exact ⟨c :: t, tail, rfl, h⟩
  | .span n content :: s => ⟨[], .span n content :: s, rfl, Or.inr ⟨n, content, s, rfl⟩⟩

theorem eq_six_of_getElem?_placeholderWord :
    ∀ j, j < 7 → placeholderWord[j]? = some '_' → j = 6 := by
  decide

/-- Characters followed by a placeholder make no opening that a digit follows. -/
theorem not_opening_of_chars {width : Nat} (hw : 2 ≤ width) {t rest y : Text} {c : Char} {n : Nat}
    (hpos : 0 < t.length) (hlen : t.length < width + 7)
    (h : t ++ (Mask.placeholder width n ++ y) = Mask.opening width ++ c :: rest) : c = '_' := by
  -- behind the characters stand the underscores of the fence
  have hfence : ∀ i, t.length ≤ i → i < t.length + width →
      (Mask.opening width ++ c :: rest)[i]? = some '_' := by
    intro i hi hlt
    rw [← h, List.getElem?_append_right hi, Mask.placeholder_eq, Mask.opening, List.append_assoc,
      List.append_assoc, List.append_assoc, fence,
      List.getElem?_append_left (by rw [List.length_replicate]; omega), List.getElem?_replicate,
      if_pos (by omega)]
  have hword : ∀ j, j < 7 →
      (Mask.opening width ++ c :: rest)[width + j]? = placeholderWord[j]? := by
    intro j hj
    rw [List.getElem?_append_left (by rw [Mask.opening_length]; omega), Mask.opening, fence,
      List.getElem?_append_right (by rw [List.length_replicate]; omega), List.length_replicate,
      Nat.add_sub_cancel_left]
  rcases Nat.lt_or_ge width t.length with hlt | hle
  · -- the fence begins in the word of the opening, so at its last character
    obtain ⟨j, hj⟩ : ∃ j, t.length = width + j := ⟨t.length - width, by omega⟩
    have hj7 : j < 7 := by omega
    have hat := (hword j hj7).symm.trans (hfence (width + j) (by omega) (by omega))
    have hsix := eq_six_of_getElem?_placeholderWord j hj7 hat
    have hnext := hfence (width + 7) (by omega) (by omega)
    rw [← Mask.opening_length width, List.getElem?_append_right (Nat.le_refl _),
      Nat.sub_self] at hnext
    exact Option.some.inj hnext
  · have hat := (hword 0 (by omega)).symm.trans (hfence width hle (by omega))
    exact absurd (eq_six_of_getElem?_placeholderWord 0 (by omega) hat) (by omega)

/-- **No placeholder begins at a character**, if the opening does not occur in the text. -/
theorem placeholder?_of_char {width : Nat} (hw : 2 ≤ width) {c : Char} {s : Marked}
    (h : ¬ Mask.opening width <:+: source (.char c :: s)) :
    Mask.placeholder? width (masked width (.char c :: s)) = none := by
  cases hread : Mask.placeholder? width (masked width (.char c :: s)) with
  | none => rfl
  | some word =>
    exfalso
    obtain ⟨d, rest, heq, hd⟩ := Mask.placeholder?_eq_some hread
    obtain ⟨t, tail, hs, htail⟩ := exists_chars_append s
    have hcs : (.char c :: s : Marked) = (c :: t).map .char ++ tail := by rw [hs]; rfl
    rw [hcs] at h heq
    rw [source_append, source_map_char] at h
    rw [masked_append, masked_map_char] at heq
    -- the opening cannot lie in the characters before the first span
    have hshort : (c :: t).length < width + 7 := by
      by_contra hge
      have hp : Mask.opening width <+: c :: t :=
        List.prefix_of_prefix_length_le ⟨d :: rest, heq.symm⟩ (List.prefix_append _ _)
          (by rw [Mask.opening_length]; omega)
      exact h (hp.isInfix.trans (List.prefix_append _ _).isInfix)
    rcases htail with rfl | ⟨n, content, tail, rfl⟩
    · have hlen := congrArg List.length heq
      rw [List.length_append, List.length_append, Mask.opening_length, masked_nil] at hlen
      simp at hlen hshort
      omega
    · rw [masked_cons, Symbol.masked] at heq
      rw [not_opening_of_chars hw (by simp) hshort heq] at hd
      exact absurd hd (by decide)

end Marked

end GraphSketch
