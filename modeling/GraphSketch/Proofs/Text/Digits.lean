import GraphSketch.Numeral

/-!
# Decimal numerals

The digits of `Text.ofNat` are the ten digits of ASCII (`isDigit_of_mem_ofNat`), so that no
numeral holds a dash, and a numeral stands for one number only (`ofNat_injective`).  Their value
is that number (`value_ofNat`), none but zero begins with a zero (`eq_zero_of_ofNat`), and the
numbers that can be written are those whose numerals can be read (`length_ofNat_le_iff`).

* `isDigit_of_isAsciiDigit`, `digitValue?_of_isAsciiDigit` — the two notions of a digit agree on
  ASCII, whatever other scripts there are.
* `eq_of_append_dash` — texts that are the same are the same behind their last dash; ids of edges,
  which end with a dash and a number, are told apart by it.
-/

set_option autoImplicit false

namespace GraphSketch

namespace Text

theorem isDigit_of_mem_ofNat {n : Nat} {c : Char} (h : c ∈ ofNat n) : c.isDigit = true :=
  Nat.isDigit_of_mem_toDigits (by decide) (by decide) h

theorem ofNat_ne_nil (n : Nat) : ofNat n ≠ [] := Nat.toDigits_ne_nil

theorem ofNat_injective {m n : Nat} (h : ofNat m = ofNat n) : m = n := by
  have hm : Nat.ofDigitChars 10 (ofNat m) 0 = m := Nat.ofDigitChars_ten_toDigits
  have hn : Nat.ofDigitChars 10 (ofNat n) 0 = n := Nat.ofDigitChars_ten_toDigits
  rw [← hm, h, hn]

theorem toNat_of_isDigit {c : Char} (h : c.isDigit = true) : 48 ≤ c.toNat ∧ c.toNat ≤ 57 := by
  have h : '0'.val.toNat ≤ c.val.toNat ∧ c.val.toNat ≤ '9'.val.toNat := by
    simpa only [Char.isDigit, Bool.and_eq_true, decide_eq_true_eq, ge_iff_le,
      UInt32.le_iff_toNat_le] using h
  exact h

theorem isDecimalDigit_of_isDigit {c : Char} (h : c.isDigit = true) : isDecimalDigit c = true := by
  obtain ⟨h₁, h₂⟩ := toNat_of_isDigit h
  rw [isDecimalDigit, digitValue?, Option.isSome_map, List.find?_isSome]
  refine ⟨0x30, List.mem_cons_self, ?_⟩
  simp only [Bool.and_eq_true, decide_eq_true_eq]
  omega

theorem isDigit_of_isAsciiDigit {c : Char} (h : isAsciiDigit c = true) : c.isDigit = true := by
  simp only [isAsciiDigit, asciiDigit?] at h
  split at h
  · rename_i hrange
    simp only [Char.isDigit, Bool.and_eq_true, decide_eq_true_eq]
    exact hrange
  · cases h

theorem isAsciiDigit_of_isDigit {c : Char} (h : c.isDigit = true) : isAsciiDigit c = true := by
  have hrange : '0' ≤ c ∧ c ≤ '9' := by
    simp only [Char.isDigit, Bool.and_eq_true, decide_eq_true_eq] at h
    exact h
  rw [isAsciiDigit, asciiDigit?, if_pos hrange, Option.isSome_some]

theorem digitValue?_of_isAsciiDigit {c : Char} (h : isAsciiDigit c = true) :
    digitValue? c = asciiDigit? c := by
  obtain ⟨hlow, hhigh⟩ := toNat_of_isDigit (isDigit_of_isAsciiDigit h)
  have hfirst : digitZeros.find? (fun first => first ≤ c.toNat && c.toNat < first + 10) =
      some 0x30 := by
    refine List.find?_cons_of_pos ?_
    simp only [Bool.and_eq_true, decide_eq_true_eq]
    omega
  rw [digitValue?, hfirst]
  simp only [isAsciiDigit, asciiDigit?] at h ⊢
  split at h
  · rename_i hrange
    rw [if_pos hrange]
    rfl
  · cases h

theorem value_of_isAsciiDigit : ∀ (t : Text) (n : Nat), (∀ c ∈ t, isAsciiDigit c = true) →
    (t.filterMap asciiDigit?).foldl (fun n d => 10 * n + d) n = Nat.ofDigitChars 10 t n
  | [], _, _ => rfl
  | c :: t, n, h => by
    have hc := h c List.mem_cons_self
    have hvalue : asciiDigit? c = some (c.toNat - '0'.toNat) := by
      rw [isAsciiDigit, asciiDigit?] at hc
      rw [asciiDigit?]
      split at hc
      · rename_i hrange
        rw [if_pos hrange]
      · cases hc
    rw [List.filterMap_cons_some hvalue, List.foldl_cons,
      value_of_isAsciiDigit t _ fun d hd => h d (List.mem_cons_of_mem _ hd)]
    rfl

theorem digits_ofNat (n : Nat) : ∀ c ∈ ofNat n, isAsciiDigit c = true := fun _ hc =>
  isAsciiDigit_of_isDigit (isDigit_of_mem_ofNat hc)

theorem length_filterMap_asciiDigit? {digits : Text} (h : ∀ c ∈ digits, isAsciiDigit c = true) :
    (digits.filterMap asciiDigit?).length = digits.length := by
  rw [List.length_filterMap_eq_countP, List.countP_eq_length]
  exact h

theorem value_ofNat (n : Nat) : Numeral.value ((ofNat n).filterMap asciiDigit?) = n := by
  rw [Numeral.value, value_of_isAsciiDigit _ _ (digits_ofNat n), ofNat,
    Nat.ofDigitChars_ten_toDigits]

theorem length_ofNat_le_iff {n : Nat} :
    (ofNat n).length ≤ Numeral.limit ↔ n < Numeral.bound := by
  delta Numeral.bound
  generalize hk : Numeral.limit = k
  exact Nat.length_toDigits_le_iff (by decide) (hk ▸ by decide)

theorem digitChar_eq_zero : ∀ d < 10, d.digitChar = '0' → d = 0 := by decide

theorem eq_zero_of_ofNat (n : Nat) {rest : Text} (h : ofNat n = '0' :: rest) : n = 0 := by
  rw [ofNat, Nat.toDigits_eq_if (by decide)] at h
  split at h
  · rename_i hn
    exact digitChar_eq_zero n hn (List.cons.inj h).1
  · rename_i hn
    cases hhead : Nat.toDigits 10 (n / 10) with
    | nil => exact absurd hhead Nat.toDigits_ne_nil
    | cons d ds =>
      rw [hhead, List.cons_append] at h
      obtain ⟨rfl, -⟩ := List.cons.inj h
      have := eq_zero_of_ofNat (n / 10) hhead
      omega
  termination_by n
  decreasing_by omega

theorem dash_notMem_ofNat (n : Nat) : '-' ∉ ofNat n := fun h => by
  have := isDigit_of_mem_ofNat h
  revert this
  decide

end Text

/-- Two texts that end in a dash and something without dashes agree in what follows the last
dash. -/
theorem eq_of_append_dash {x y u v : Text} (hu : '-' ∉ u) (hv : '-' ∉ v)
    (h : x ++ '-' :: u = y ++ '-' :: v) : u = v := by
  rcases List.append_eq_append_iff.mp h with ⟨z, _, hz⟩ | ⟨z, _, hz⟩
  · cases z with
    | nil => exact (List.cons.inj hz).2
    | cons c z =>
      obtain ⟨_, rfl⟩ := List.cons.inj hz
      exact absurd (by simp) hu
  · cases z with
    | nil => exact (List.cons.inj hz).2.symm
    | cons c z =>
      obtain ⟨_, rfl⟩ := List.cons.inj hz
      exact absurd (by simp) hv

end GraphSketch
