import GraphSketch.Json.Reader
import GraphSketch.Json.Writer
import GraphSketch.Proofs.Text.Digits

/-!
# Integers in JSON

A reader of numbers takes as many characters as it can.  Behind an integer in a written value
there is a comma, a new line or nothing at all (`Json.EndsValue`), so that it takes the integer
and no more: `readNumber_ofInt`.

* `spanWhole_ofNat` — the digits of a number are all read, since what follows is no digit.
* `fraction?_eq_none`, `exponent?_eq_none` — and neither a point nor an exponent follows, so the
  number is an integer.

The sign is read first, and then the numeral of a natural number, which does not begin with a zero
unless it is zero.  A numeral with too many digits is refused, so the integer has to be one that
can be written.
-/

set_option autoImplicit false

namespace GraphSketch

namespace Json

/-- What may follow a value among the items or fields of another: a comma or a new line. -/
def EndsValue : Text → Prop
  | [] => True
  | c :: _ => c = ',' ∨ c = '\n'

theorem spanDigits_append {digits rest : Text} (hdigits : ∀ c ∈ digits, isAsciiDigit c = true)
    (hrest : EndsValue rest) :
    spanDigits (digits ++ rest) = (digits.filterMap asciiDigit?, rest) := by
  have hstop : rest.takeWhile isAsciiDigit = [] ∧ rest.dropWhile isAsciiDigit = rest := by
    cases rest with
    | nil => exact ⟨rfl, rfl⟩
    | cons c rest =>
      have hc : isAsciiDigit c = false := by
        rcases hrest with rfl | rfl <;> rfl
      simp [hc]
  rw [spanDigits, List.takeWhile_append_of_pos hdigits, List.dropWhile_append_of_pos hdigits,
    hstop.1, hstop.2, List.append_nil]

theorem spanWhole_ofNat (n : Nat) {rest : Text} (hrest : EndsValue rest) :
    spanWhole (Text.ofNat n ++ rest) = ((Text.ofNat n).filterMap asciiDigit?, rest) := by
  unfold spanWhole
  split
  · rename_i more h
    cases hn : Text.ofNat n with
    | nil => exact absurd hn (Text.ofNat_ne_nil n)
    | cons c cs =>
      rw [hn, List.cons_append] at h
      obtain ⟨rfl, hmore⟩ := List.cons.inj h
      obtain rfl := Text.eq_zero_of_ofNat n hn
      obtain rfl : cs = [] := (List.cons.inj hn).2.symm
      rw [← hmore]
      rfl
  · exact spanDigits_append (Text.digits_ofNat n) hrest

theorem fraction?_eq_none {rest : Text} (hrest : EndsValue rest) : fraction? rest = none := by
  unfold fraction?
  split
  · rcases hrest with h | h <;> cases h
  · rfl

theorem exponent?_eq_none {rest : Text} (hrest : EndsValue rest) : exponent? rest = none := by
  cases rest with
  | nil => rfl
  | cons c rest =>
    have hc : ¬ (c = 'e' ∨ c = 'E') := by rcases hrest with rfl | rfl <;> decide
    simp only [exponent?, hc, if_false]

/-- The numeral of a number that can be written is read as a whole. -/
theorem exists_spanWhole_ofNat {n : Nat} (hn : n < Numeral.bound) {rest : Text}
    (hrest : EndsValue rest) :
    ∃ d ds, spanWhole (Text.ofNat n ++ rest) = (d :: ds, rest) ∧
      Numeral.ofDigits (d :: ds) = .ok n := by
  have hlength := Text.length_filterMap_asciiDigit? (Text.digits_ofNat n)
  have hvalue : Numeral.ofDigits ((Text.ofNat n).filterMap asciiDigit?) = .ok n := by
    rw [Numeral.ofDigits, hlength, if_pos (Text.length_ofNat_le_iff.mpr hn), Text.value_ofNat]
  have hspan := spanWhole_ofNat n hrest
  cases hdigits : (Text.ofNat n).filterMap asciiDigit? with
  | nil =>
    rw [hdigits] at hlength
    exact absurd (List.length_eq_zero_iff.mp hlength.symm) (Text.ofNat_ne_nil n)
  | cons d ds =>
    rw [hdigits] at hspan hvalue
    exact ⟨d, ds, hspan, hvalue⟩

theorem readNumber_ofNat {n : Nat} (hn : n < Numeral.bound) {rest : Text}
    (hrest : EndsValue rest) : readNumber (Text.ofNat n ++ rest) = .ok (int n, rest) := by
  obtain ⟨d, ds, hspan, hvalue⟩ := exists_spanWhole_ofNat hn hrest
  cases hdigits : Text.ofNat n with
  | nil => exact absurd hdigits (Text.ofNat_ne_nil n)
  | cons c cs =>
    have hminus : c ≠ '-' := by
      rintro rfl
      exact Text.dash_notMem_ofNat n (hdigits ▸ List.mem_cons_self)
    rw [hdigits, List.cons_append] at hspan
    unfold readNumber
    split
    rename_i negative unsigned hsign
    split at hsign
    · rename_i hhead
      exact absurd (List.cons.inj hhead).1 hminus
    · obtain ⟨rfl, rfl⟩ := Prod.mk.inj hsign
      simp only [List.cons_append, hspan, fraction?_eq_none hrest, exponent?_eq_none hrest,
        Option.map_none, Option.getD_none, Option.isNone_none, Bool.and_self, if_true, hvalue]
      rfl

/-- **An integer that can be written is read back**, whatever follows it in a value. -/
theorem readNumber_ofInt {n : Int} (hn : Numeral.isWritable n = true) {rest : Text}
    (hrest : EndsValue rest) : readNumber (Text.ofInt n ++ rest) = .ok (int n, rest) := by
  have hbound : n.natAbs < Numeral.bound := of_decide_eq_true hn
  cases n with
  | ofNat n => exact readNumber_ofNat hbound hrest
  | negSucc n =>
    obtain ⟨d, ds, hspan, hvalue⟩ := exists_spanWhole_ofNat (n := n + 1) hbound hrest
    unfold readNumber
    simp only [Text.ofInt, List.cons_append, hspan, fraction?_eq_none hrest,
      exponent?_eq_none hrest, Option.map_none, Option.getD_none, Option.isNone_none,
      Bool.and_self, if_true, hvalue]
    rfl
end Json

end GraphSketch
