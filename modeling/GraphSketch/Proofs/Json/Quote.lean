import GraphSketch.Json.Reader
import GraphSketch.Json.Writer

/-!
# Strings in JSON

Each character of a string is written by itself, as it stands or as an escape, so that reading
goes character by character too (`readString_escapeChar`): a written string is read back up to its
closing quote (`readString_escaped`).  What is written holds no control character
(`printable_of_mem_quote`).

* `readChar_plain` — a character that stands as it is, which is any but a quote, a backslash and
  the controls.
* `readChar_control` — a control that is written by its number, with `hexDigit?_hexDigit` for its
  digits.

There is one case for each escape with a letter; all of them are read back by the table from which
they are written.
-/

set_option autoImplicit false

namespace GraphSketch

namespace Json

/-! ## Reading a written string -/

theorem hexDigit?_hexDigit : ∀ d < 16, hexDigit? (hexDigit d) = some d := by decide

theorem readChar_control {c : Char} (hc : c.toNat < 0x20) (opening : Nat) {more : Text}
    (hmore : more ≠ []) :
    readChar opening
      ('\\' :: 'u' :: '0' :: '0' :: hexDigit (c.toNat / 16) :: hexDigit (c.toNat % 16) :: more) =
        .ok (c, 6) := by
  obtain ⟨next, more, rfl⟩ := List.exists_cons_of_ne_nil hmore
  have hzero : hexDigit? '0' = some 0 := rfl
  have hunit : hexUnit? '0' '0' (hexDigit (c.toNat / 16)) (hexDigit (c.toNat % 16)) =
      some c.toNat := by
    simp only [hexUnit?, hzero, hexDigit?_hexDigit (c.toNat / 16) (by omega),
      hexDigit?_hexDigit (c.toNat % 16) (by omega), bind, Option.bind, pure, Option.some.injEq]
    omega
  have hhigh : isHighSurrogate c.toNat = false := by
    simp only [isHighSurrogate, Bool.and_eq_false_iff, decide_eq_false_iff_not]
    omega
  have hlow : isLowSurrogate c.toNat = false := by
    simp only [isLowSurrogate, Bool.and_eq_false_iff, decide_eq_false_iff_not]
    omega
  simp only [readChar, hunit, readUnit, hhigh, unitChar, hlow, Bool.or_self, Bool.false_eq_true,
    if_false, Char.ofNat_toNat]

theorem readChar_plain {c : Char} (hslash : c ≠ '\\') (hc : ¬ c.toNat < 0x20) (opening : Nat)
    (more : Text) : readChar opening (c :: more) = .ok (c, 1) := by
  unfold readChar
  split
  case h_5 heq =>
    obtain ⟨rfl, rfl⟩ := List.cons.inj heq
    rw [if_neg hc]
  case h_6 heq => cases heq
  -- the forms that begin with a backslash
  all_goals
    rename_i heq
    exact absurd (List.cons.inj heq).1 hslash

/-- **Reading goes one character of the string at a time.** -/
theorem readString_escapeChar (opening : Nat) (c : Char) {more : Text} (hmore : more ≠ []) :
    readString opening 0 (escapeChar c ++ more) =
      (readString opening 0 more).map (prepend c) := by
  by_cases hquote : c = '"'
  · subst hquote
    rfl
  by_cases hslash : c = '\\'
  · subst hslash
    rfl
  unfold escapeChar
  rw [if_neg hquote, if_neg hslash]
  split
  · subst c; rfl
  split
  · subst c; rfl
  split
  · subst c; rfl
  split
  · subst c; rfl
  split
  · subst c; rfl
  split
  · rename_i hc
    rw [List.cons_append, readString, if_neg (by decide)]
    simp only [List.cons_append, List.nil_append, readChar_control hc opening hmore]
    rfl
  · rename_i hc
    rw [List.singleton_append, readString, if_neg hquote, readChar_plain hslash hc]

/-- **A written string is read back** up to its closing quote. -/
theorem readString_escaped (opening : Nat) (t rest : Text) :
    readString opening 0 (t.flatMap escapeChar ++ '"' :: rest) = .ok (t, rest) := by
  induction t with
  | nil => rfl
  | cons c t ih =>
    rw [List.flatMap_cons, List.append_assoc,
      readString_escapeChar opening c (List.append_ne_nil_of_right_ne_nil _ (List.cons_ne_nil _ _)),
      ih]
    rfl

/-! ## What a written string consists of -/

theorem hexDigit_printable : ∀ d < 16, 0x20 ≤ (hexDigit d).toNat := by decide

theorem printable_of_mem_escapeChar {c d : Char} (h : d ∈ escapeChar c) : 0x20 ≤ d.toNat := by
  have hfixed : ∀ {t : Text}, (t.all fun d => 0x20 ≤ d.toNat) = true → d ∈ t → 0x20 ≤ d.toNat :=
    fun ht hd => of_decide_eq_true (List.all_eq_true.mp ht d hd)
  unfold escapeChar at h
  split at h
  · exact hfixed (by decide) h
  split at h
  · exact hfixed (by decide) h
  split at h
  · exact hfixed (by decide) h
  split at h
  · exact hfixed (by decide) h
  split at h
  · exact hfixed (by decide) h
  split at h
  · exact hfixed (by decide) h
  split at h
  · exact hfixed (by decide) h
  split at h
  · rcases List.mem_append.mp (show d ∈ ['\\', 'u', '0', '0'] ++ _ from h) with h | h
    · exact hfixed (by decide) h
    · simp only [List.mem_cons, List.not_mem_nil, or_false] at h
      rcases h with rfl | rfl <;> exact hexDigit_printable _ (by omega)
  · rw [List.mem_singleton] at h
    subst h
    omega

theorem printable_of_mem_quote {t : Text} {c : Char} (h : c ∈ quote t) : 0x20 ≤ c.toNat := by
  rw [quote, List.mem_cons, List.mem_append, List.mem_singleton, List.mem_flatMap] at h
  rcases h with rfl | ⟨d, -, h⟩ | rfl
  · decide
  · exact printable_of_mem_escapeChar h
  · decide

end Json

end GraphSketch
