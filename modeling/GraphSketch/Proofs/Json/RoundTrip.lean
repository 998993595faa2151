import GraphSketch.Proofs.Json.Number
import GraphSketch.Proofs.Json.Quote
import GraphSketch.Proofs.OrderedMap
import Mathlib.Data.List.TakeWhile

/-!
# Values that are read back

What is written of a value can be read again.  This needs three things: no object has two fields of
one name, of which the reader would keep one only; the value is not nested deeper than the reader
goes; and it holds no number with a fraction.  `Json.FitsIn` says this for a number of levels.

* `readValue_prettyAt` — a written value is read with any rest behind it.
* `read_pretty` — a whole text.
-/

set_option autoImplicit false

namespace GraphSketch

namespace Json

/-- A value without fractions that lies in the given number of levels of arrays and objects, and in
which no object has two fields of one name. -/
def FitsIn : Nat → Json → Prop
  | _, null | _, bool _ | _, int _ | _, str _ => True
  | _, real _ => False
  | 0, arr _ | 0, obj _ => False
  | n + 1, arr items => ∀ v ∈ items, FitsIn n v
  | n + 1, obj fields => (OrderedMap.keys fields).Nodup ∧ ∀ e ∈ fields, FitsIn n e.2

@[simp] theorem fitsIn_str (n : Nat) (t : Text) : FitsIn n (str t) := by cases n <;> trivial

@[simp] theorem fitsIn_int (n : Nat) (k : Int) : FitsIn n (int k) := by cases n <;> trivial

theorem fitsIn_arr {n : Nat} {items : List Json} :
    FitsIn (n + 1) (arr items) ↔ ∀ v ∈ items, FitsIn n v := Iff.rfl

theorem fitsIn_obj {n : Nat} {fields : List (Text × Json)} :
    FitsIn (n + 1) (obj fields) ↔
      (OrderedMap.keys fields).Nodup ∧ ∀ e ∈ fields, FitsIn n e.2 := Iff.rfl

theorem FitsIn.succ : ∀ {n : Nat} {v : Json}, FitsIn n v → FitsIn (n + 1) v
  | _, null, _ | _, bool _, _ | _, int _, _ | _, str _, _ => trivial
  | 0, real _, h | _ + 1, real _, h | 0, arr _, h | 0, obj _, h => h.elim
  | _ + 1, arr _, h => fun v hv => (h v hv).succ
  | _ + 1, obj _, h => ⟨h.1, fun e he => (h.2 e he).succ⟩

theorem FitsIn.mono {m n : Nat} {v : Json} (h : FitsIn m v) (hmn : m ≤ n) : FitsIn n v := by
  induction hmn with
  | refl => exact h
  | step _ ih => exact ih.succ

theorem FitsIn.put {n : Nat} {fields : OrderedMap Text Json} {v : Json}
    (h : FitsIn (n + 1) (obj fields)) (hv : FitsIn n v) (key : Text) :
    FitsIn (n + 1) (obj (OrderedMap.put fields key v)) := by
  refine ⟨OrderedMap.nodup_keys_put h.1 key v, fun e he => ?_⟩
  rcases OrderedMap.mem_of_mem_put he with rfl | he
  · exact hv
  · exact h.2 e he

theorem FitsIn.get? {n : Nat} {fields : OrderedMap Text Json} {v : Json} {key : Text}
    (h : FitsIn (n + 1) (obj fields)) (hv : OrderedMap.get? fields key = some v) : FitsIn n v :=
  h.2 _ (OrderedMap.mem_of_get?_eq_some hv)

/-! ## The first character -/

theorem skipSpace_of_not_space {c : Char} (hc : isSpace c = false) (t : Text) :
    skipSpace (c :: t) = c :: t := by
  rw [skipSpace, List.dropWhile_cons_of_neg (by simp [hc])]

theorem skipSpace_newLine (depth : Nat) (t : Text) :
    skipSpace (newLine depth ++ t) = skipSpace t := by
  refine List.dropWhile_append_of_pos fun c hc => ?_
  rw [newLine, List.mem_cons, List.mem_replicate] at hc
  rcases hc with rfl | ⟨-, rfl⟩ <;> rfl

/-- A character with which a written value may begin. -/
def isOpening (c : Char) : Bool :=
  ['"', '{', '[', 'n', 't', 'f', '-', mark].contains c || isAsciiDigit c

theorem of_isOpening {c : Char} (h : isOpening c = true) :
    isSpace c = false ∧ c ≠ ']' ∧ c ≠ '\ufeff' := by
  rw [isOpening, Bool.or_eq_true] at h
  rcases h with h | h
  · have hall : (['"', '{', '[', 'n', 't', 'f', '-', mark].all fun c =>
        isSpace c = false ∧ c ≠ ']' ∧ c ≠ '\ufeff') = true := by decide
    exact of_decide_eq_true (List.all_eq_true.mp hall c (List.contains_iff_mem.mp h))
  · have hne : ∀ d, isAsciiDigit d = false → c ≠ d := by
      rintro d hd rfl
      rw [h] at hd
      cases hd
    refine ⟨?_, hne _ rfl, hne _ rfl⟩
    simp [isSpace, hne ' ' rfl, hne '\t' rfl, hne '\n' rfl, hne '\r' rfl]

theorem exists_opening_integerText (n : Int) :
    ∃ c t, integerText n = c :: t ∧ isOpening c = true := by
  rw [integerText]
  split
  · cases n with
    | ofNat n =>
      cases hn : Text.ofNat n with
      | nil => exact absurd hn (Text.ofNat_ne_nil n)
      | cons c t =>
        have hc := Text.digits_ofNat n c (hn ▸ List.mem_cons_self)
        exact ⟨c, t, hn, by rw [isOpening, hc, Bool.or_true]⟩
    | negSucc n => exact ⟨'-', _, rfl, rfl⟩
  · exact ⟨mark, [], rfl, rfl⟩

theorem exists_opening (lvl : Nat) {n : Nat} {v : Json} (h : FitsIn n v) :
    ∃ c t, prettyAt lvl v = c :: t ∧ isOpening c = true := by
  cases v with
  | null => exact ⟨_, _, rfl, rfl⟩
  | bool b => cases b <;> exact ⟨_, _, rfl, rfl⟩
  | int n => exact exists_opening_integerText n
  | real x => cases n <;> exact h.elim
  | str t => exact ⟨_, _, rfl, rfl⟩
  | arr items => cases items <;> exact ⟨_, _, rfl, rfl⟩
  | obj fields => cases fields <;> exact ⟨_, _, rfl, rfl⟩

theorem skipSpace_prettyAt (lvl : Nat) {n : Nat} {v : Json} (h : FitsIn n v) (t : Text) :
    skipSpace (prettyAt lvl v ++ t) = prettyAt lvl v ++ t := by
  obtain ⟨c, u, hu, hc⟩ := exists_opening lvl h
  rw [hu, List.cons_append, skipSpace_of_not_space (of_isOpening hc).1]

/-! ## Reading a written value -/

/-- A value is read back where its own lines are `lvl` levels in, and in `depth` arrays and
objects. -/
def IsReadBack (lvl depth : Nat) (v : Json) : Prop :=
  ∀ {rest : Text} {fuel : Nat}, EndsValue rest → 2 * (prettyAt lvl v ++ rest).length ≤ fuel →
    readValue fuel depth (prettyAt lvl v ++ rest) = .ok (v, rest)

theorem endsValue_prettyItems (lvl k : Nat) (items : List Json) (t : Text) :
    EndsValue (prettyItems lvl items ++ (newLine k ++ t)) := by
  cases items with
  | nil => exact Or.inr rfl
  | cons v items => exact Or.inl rfl

theorem readItems_pretty {lvl k depth n : Nat} {rest : Text} :
    ∀ (items : List Json) (v : Json) (before : List Json) (fuel : Nat),
    (∀ w ∈ v :: items, FitsIn n w ∧ IsReadBack lvl depth w) →
    2 * (prettyAt lvl v ++ (prettyItems lvl items ++ (newLine k ++ ']' :: rest))).length < fuel →
    readItems fuel depth before
        (prettyAt lvl v ++ (prettyItems lvl items ++ (newLine k ++ ']' :: rest))) =
      .ok (arr (before.reverse ++ v :: items), rest)
  | _, _, _, 0, _, hfuel => by omega
  | items, v, before, fuel + 1, hall, hfuel => by
    obtain ⟨hfits, hread⟩ := hall v List.mem_cons_self
    have hv := hread (endsValue_prettyItems lvl k items (']' :: rest)) (Nat.le_of_lt_succ hfuel)
    rw [readItems, hv]
    cases items with
    | nil =>
      simp only [prettyItems, List.nil_append, bind, Except.bind, skipSpace_newLine,
        skipSpace_of_not_space (c := ']') rfl, List.reverse_cons]
    | cons w items =>
      have hw := (hall w (List.mem_cons_of_mem _ List.mem_cons_self)).1
      have hrest := @readItems_pretty lvl k depth n rest items w (v :: before) fuel
        (fun x hx => hall x (List.mem_cons_of_mem _ hx)) (by
          simp only [prettyItems, List.length_append, List.length_cons] at hfuel ⊢
          omega)
      simp only [prettyItems, List.cons_append, List.append_assoc, bind, Except.bind,
        skipSpace_of_not_space (c := ',') rfl, skipSpace_newLine, skipSpace_prettyAt lvl hw, hrest,
        List.reverse_cons, List.nil_append]

theorem endsValue_prettyFields (lvl k : Nat) (fields : List (Text × Json)) (t : Text) :
    EndsValue (prettyFields lvl fields ++ (newLine k ++ t)) := by
  cases fields with
  | nil => exact Or.inr rfl
  | cons e fields => exact Or.inl rfl

/-- A field as it is written. -/
def prettyField (lvl : Nat) (e : Text × Json) : Text := quote e.1 ++ ": " ++ prettyAt lvl e.2

theorem skipSpace_prettyField (lvl : Nat) (e : Text × Json) (t : Text) :
    skipSpace (prettyField lvl e ++ t) = prettyField lvl e ++ t := rfl

theorem prettyFields_cons (lvl : Nat) (e : Text × Json) (fields : List (Text × Json)) (t : Text) :
    prettyFields lvl (e :: fields) ++ t =
      ',' :: (newLine lvl ++ (prettyField lvl e ++ (prettyFields lvl fields ++ t))) := by
  simp only [prettyFields, prettyField, List.cons_append, List.append_assoc]

/-- How an object is read on after a field. -/
def fieldsAfter (fuel depth : Nat) (fields : List (Text × Json)) (t : Text) :
    Except Stop (Json × Text) :=
  match skipSpace t with
  | '}' :: rest => .ok (obj fields, rest)
  | ',' :: rest => readFields fuel depth fields (skipSpace rest)
  | rest => stopAt .expectedComma rest

theorem readFields_prettyField {lvl depth n fuel : Nat} {before : List (Text × Json)}
    {e : Text × Json} {more : Text} (hfits : FitsIn n e.2) (hread : IsReadBack lvl depth e.2)
    (hends : EndsValue more) (hfuel : 2 * (prettyField lvl e ++ more).length < fuel + 2) :
    readFields (fuel + 1) depth before (prettyField lvl e ++ more) =
      fieldsAfter fuel depth (OrderedMap.put before e.1 e.2) more := by
  obtain ⟨key, v⟩ := e
  have htext : prettyField lvl (key, v) ++ more =
      '"' :: (key.flatMap escapeChar ++ '"' :: ':' :: ' ' :: (prettyAt lvl v ++ more)) := by
    simp only [prettyField, quote, List.cons_append, List.append_assoc, List.nil_append]
    rfl
  rw [htext] at hfuel ⊢
  have hv := @hread more fuel hends (by
    simp only [List.length_cons, List.length_append] at hfuel ⊢
    omega)
  have hspace : skipSpace (' ' :: (prettyAt lvl v ++ more)) = prettyAt lvl v ++ more :=
    skipSpace_prettyAt lvl hfits more
  rw [readFields]
  simp only [readString_escaped, bind, Except.bind, skipSpace_of_not_space (c := ':') rfl, hspace,
    hv]
  rfl

theorem readFields_pretty {lvl k depth n : Nat} {rest : Text} :
    ∀ (fields : List (Text × Json)) (e : Text × Json) (before : List (Text × Json)) (fuel : Nat),
    (∀ x ∈ e :: fields, FitsIn n x.2 ∧ IsReadBack lvl depth x.2) →
    (OrderedMap.keys (before ++ e :: fields)).Nodup →
    2 * (prettyField lvl e ++ (prettyFields lvl fields ++ (newLine k ++ '}' :: rest))).length
      < fuel →
    readFields fuel depth before
        (prettyField lvl e ++ (prettyFields lvl fields ++ (newLine k ++ '}' :: rest))) =
      .ok (obj (before ++ e :: fields), rest)
  | _, _, _, 0, _, _, hfuel => by omega
  | fields, e, before, fuel + 1, hall, hnodup, hfuel => by
    obtain ⟨hfits, hread⟩ := hall e List.mem_cons_self
    have hnew : e.1 ∉ OrderedMap.keys before := by
      intro hmem
      rw [OrderedMap.keys, List.map_append, List.nodup_append] at hnodup
      exact hnodup.2.2 _ hmem _ List.mem_cons_self rfl
    rw [readFields_prettyField hfits hread (endsValue_prettyFields lvl k fields ('}' :: rest))
      (by omega), OrderedMap.put_of_notMem hnew]
    cases fields with
    | nil =>
      simp only [fieldsAfter, prettyFields, List.nil_append, skipSpace_newLine,
        skipSpace_of_not_space (c := '}') rfl]
    | cons x fields =>
      have hrest := @readFields_pretty lvl k depth n rest fields x (before ++ [e]) fuel
        (fun y hy => hall y (List.mem_cons_of_mem _ hy))
        (by rwa [List.append_assoc])
        (by
          rw [prettyFields_cons] at hfuel
          simp only [List.length_append, List.length_cons] at hfuel ⊢
          omega)
      simp only [fieldsAfter, prettyFields_cons, skipSpace_of_not_space (c := ',') rfl,
        skipSpace_newLine, skipSpace_prettyField, hrest, List.append_assoc, List.singleton_append]

/-! ## Words and numbers -/

theorem readWord_eq_readNumber {t : Text} (h : ∀ w ∈ words, ¬ w.1 <+: t) :
    readWord t = readNumber t := by
  have hnone :
      (words.findSome? fun w => (Text.after? w.1 t).map fun rest => (w.2, rest)) = none := by
    rw [List.findSome?_eq_none_iff]
    intro w hw
    rw [Text.after?, if_neg (fun hp => h w hw (List.isPrefixOf_iff_prefix.mp hp)), Option.map_none]
  rw [readWord, hnone]

theorem exists_of_mem_words : ∀ w ∈ words,
    ∃ c d cs, w.1 = c :: d :: cs ∧ isAsciiDigit c = false ∧ isAsciiDigit d = false := by
  simp [words]
  decide

theorem exists_cons_ofNat (n : Nat) : ∃ c cs, Text.ofNat n = c :: cs ∧ isAsciiDigit c = true := by
  cases hn : Text.ofNat n with
  | nil => exact absurd hn (Text.ofNat_ne_nil n)
  | cons c cs => exact ⟨c, cs, rfl, Text.digits_ofNat n c (hn ▸ List.mem_cons_self)⟩

theorem not_prefix_ofInt (n : Int) (t : Text) : ∀ w ∈ words, ¬ w.1 <+: Text.ofInt n ++ t := by
  intro w hw hp
  obtain ⟨c, d, cs, hcs, hc, hd⟩ := exists_of_mem_words w hw
  rw [hcs] at hp
  cases n with
  | ofNat n =>
    obtain ⟨digit, digits, hn, hdigit⟩ := exists_cons_ofNat n
    rw [Text.ofInt, hn, List.cons_append, List.cons_prefix_cons] at hp
    rw [← hp.1, hc] at hdigit
    cases hdigit
  | negSucc n =>
    obtain ⟨digit, digits, hn, hdigit⟩ := exists_cons_ofNat (n + 1)
    rw [Text.ofInt, hn, List.cons_append, List.cons_append, List.cons_prefix_cons,
      List.cons_prefix_cons] at hp
    rw [← hp.2.1, hd] at hdigit
    cases hdigit

theorem readValue_ofInt {n : Int} (hn : Numeral.isWritable n = true) {rest : Text}
    (hrest : EndsValue rest) (fuel depth : Nat) :
    readValue (fuel + 1) depth (Text.ofInt n ++ rest) = .ok (int n, rest) := by
  have hword := (readWord_eq_readNumber (not_prefix_ofInt n rest)).trans (readNumber_ofInt hn hrest)
  have hhead : ∀ c ∈ (Text.ofInt n ++ rest).head?, c = '-' ∨ isAsciiDigit c = true := by
    cases n with
    | ofNat n =>
      obtain ⟨c, t, ht, hc⟩ := exists_cons_ofNat n
      intro d hd
      rw [Text.ofInt, ht, List.cons_append, List.head?_cons, Option.mem_some] at hd
      exact Or.inr (hd ▸ hc)
    | negSucc n => exact fun d hd => Or.inl (Option.some.inj hd).symm
  unfold readValue
  split
  · rename_i heq; rw [heq] at hhead
    rcases hhead _ rfl with h | h <;> cases h
  · rename_i heq; rw [heq] at hhead
    rcases hhead _ rfl with h | h <;> cases h
  · rename_i heq; rw [heq] at hhead
    rcases hhead _ rfl with h | h <;> cases h
  · exact hword

/-! ## Values -/

theorem exists_fuel {n lvl fuel : Nat} {v : Json} {rest : Text} (hfits : FitsIn n v)
    (hfuel : 2 * (prettyAt lvl v ++ rest).length ≤ fuel) : ∃ k, fuel = k + 1 := by
  obtain ⟨c, t, ht, -⟩ := exists_opening lvl hfits
  rw [ht, List.cons_append, List.length_cons] at hfuel
  exact ⟨fuel - 1, by omega⟩

theorem isReadBack_of_fitsIn_zero {v : Json} {lvl depth : Nat} (hfits : FitsIn 0 v)
    (hmark : mark ∉ prettyAt lvl v) : IsReadBack lvl depth v := by
  intro rest fuel hrest hfuel
  obtain ⟨fuel, rfl⟩ := exists_fuel hfits hfuel
  cases v with
  | null => rfl
  | bool b => cases b <;> rfl
  | int n =>
    have hn : Numeral.isWritable n = true := by
      by_contra hn
      exact hmark (by simp [prettyAt, integerText, hn])
    rw [prettyAt, integerText, if_pos hn, readValue_ofInt hn hrest]
  | real x => exact hfits.elim
  | str t =>
    simp only [prettyAt, quote, List.cons_append, List.append_assoc, List.nil_append, readValue,
      readString_escaped]
    rfl
  | arr items => exact hfits.elim
  | obj fields => exact hfits.elim

theorem mem_prettyItems {lvl : Nat} {c : Char} : ∀ {items : List Json} {v : Json},
    v ∈ items → c ∈ prettyAt lvl v → c ∈ prettyItems lvl items
  | w :: items, v, hv, hc => by
    simp only [prettyItems, List.mem_cons, List.mem_append]
    rcases List.mem_cons.mp hv with rfl | hv
    · exact Or.inr (Or.inl (Or.inr hc))
    · exact Or.inr (Or.inr (mem_prettyItems hv hc))

theorem mem_prettyFields {lvl : Nat} {c : Char} : ∀ {fields : List (Text × Json)} {e : Text × Json},
    e ∈ fields → c ∈ prettyAt lvl e.2 → c ∈ prettyFields lvl fields
  | x :: fields, e, he, hc => by
    simp only [prettyFields, List.mem_cons, List.mem_append]
    rcases List.mem_cons.mp he with rfl | he
    · exact Or.inr (Or.inl (Or.inr hc))
    · exact Or.inr (Or.inr (mem_prettyFields he hc))

theorem mem_prettyAt_arr {lvl : Nat} {c : Char} {items : List Json} {v : Json} (hv : v ∈ items)
    (hc : c ∈ prettyAt (lvl + 1) v) : c ∈ prettyAt lvl (arr items) := by
  cases items with
  | nil => cases hv
  | cons w items =>
    simp only [prettyAt, List.mem_cons, List.mem_append]
    rcases List.mem_cons.mp hv with rfl | hv
    · simp [hc]
    · simp [mem_prettyItems hv hc]

theorem mem_prettyAt_obj {lvl : Nat} {c : Char} {fields : List (Text × Json)} {e : Text × Json}
    (he : e ∈ fields) (hc : c ∈ prettyAt (lvl + 1) e.2) : c ∈ prettyAt lvl (obj fields) := by
  cases fields with
  | nil => cases he
  | cons x fields =>
    simp only [prettyAt, List.mem_cons, List.mem_append]
    rcases List.mem_cons.mp he with rfl | he
    · simp [hc]
    · simp [mem_prettyFields he hc]

theorem isReadBack_arr {lvl depth n : Nat} {items : List Json} (hfits : FitsIn (n + 1) (arr items))
    (hdepth : depth < depthLimit)
    (hitems : ∀ v ∈ items, IsReadBack (lvl + 1) (depth + 1) v) :
    IsReadBack lvl depth (arr items) := by
  intro rest fuel _ hfuel
  obtain ⟨fuel, rfl⟩ := exists_fuel hfits hfuel
  have hdeep : ¬ depthLimit ≤ depth := Nat.not_le.mpr hdepth
  cases items with
  | nil =>
    show (if depthLimit ≤ depth then stopAt _ _ else Except.ok (arr [], rest)) = _
    rw [if_neg hdeep]
  | cons v items =>
    have htext : prettyAt lvl (arr (v :: items)) ++ rest =
        '[' :: (newLine (lvl + 1) ++ (prettyAt (lvl + 1) v ++
          (prettyItems (lvl + 1) items ++ (newLine lvl ++ ']' :: rest)))) := by
      simp only [prettyAt, List.cons_append, List.append_assoc, List.nil_append]
    rw [htext] at hfuel ⊢
    have hread := @readItems_pretty (lvl + 1) lvl (depth + 1) n rest items v [] fuel
      (fun w hw => ⟨hfits w hw, hitems w hw⟩) (by
        simp only [List.length_cons, List.length_append] at hfuel ⊢
        omega)
    obtain ⟨c, t, ht, hc⟩ := exists_opening (lvl + 1) (hfits v List.mem_cons_self)
    have hskip := skipSpace_prettyAt (lvl + 1) (hfits v List.mem_cons_self)
      (prettyItems (lvl + 1) items ++ (newLine lvl ++ ']' :: rest))
    simp only [readValue, if_neg hdeep, skipSpace_newLine, hskip]
    split
    · rename_i heq
      rw [ht, List.cons_append] at heq
      exact absurd (List.cons.inj heq).1 (of_isOpening hc).2.1
    · exact hread

theorem isReadBack_obj {lvl depth n : Nat} {fields : List (Text × Json)}
    (hfits : FitsIn (n + 1) (obj fields)) (hdepth : depth < depthLimit)
    (hfields : ∀ e ∈ fields, IsReadBack (lvl + 1) (depth + 1) e.2) :
    IsReadBack lvl depth (obj fields) := by
  intro rest fuel _ hfuel
  obtain ⟨fuel, rfl⟩ := exists_fuel hfits hfuel
  have hdeep : ¬ depthLimit ≤ depth := Nat.not_le.mpr hdepth
  cases fields with
  | nil =>
    show (if depthLimit ≤ depth then stopAt _ _ else Except.ok (obj [], rest)) = _
    rw [if_neg hdeep]
  | cons e fields =>
    have htext : prettyAt lvl (obj (e :: fields)) ++ rest =
        '{' :: (newLine (lvl + 1) ++ (prettyField (lvl + 1) e ++
          (prettyFields (lvl + 1) fields ++ (newLine lvl ++ '}' :: rest)))) := by
      simp only [prettyAt, prettyField, List.cons_append, List.append_assoc, List.nil_append]
    rw [htext] at hfuel ⊢
    have hread := @readFields_pretty (lvl + 1) lvl (depth + 1) n rest fields e [] fuel
      (fun x hx => ⟨hfits.2 x hx, hfields x hx⟩) hfits.1 (by
        simp only [List.length_cons, List.length_append] at hfuel ⊢
        omega)
    simp only [readValue, if_neg hdeep, skipSpace_newLine, skipSpace_prettyField]
    split
    · rename_i heq
      cases heq
    · exact hread

/-- **A written value is read back** with any rest behind it. -/
theorem readValue_prettyAt : ∀ (n : Nat) {v : Json} {lvl depth : Nat}, FitsIn n v →
    mark ∉ prettyAt lvl v → depth + n ≤ depthLimit → IsReadBack lvl depth v := by
  intro n
  induction n with
  | zero => exact fun hfits hmark _ => isReadBack_of_fitsIn_zero hfits hmark
  | succ n ih =>
    intro v lvl depth hfits hmark hdepth
    cases v with
    | arr items =>
      exact isReadBack_arr hfits (by omega) fun v hv =>
        ih (hfits v hv) (fun h => hmark (mem_prettyAt_arr hv h)) (by omega)
    | obj fields =>
      exact isReadBack_obj hfits (by omega) fun e he =>
        ih (hfits.2 e he) (fun h => hmark (mem_prettyAt_obj he h)) (by omega)
    | null | bool _ | int _ | str _ =>
      refine isReadBack_of_fitsIn_zero ?_ hmark
      trivial
    | real _ => exact hfits.elim

/-! ## Whole texts -/

/-- A text of printable characters, new lines and marks. -/
def IsPrinted (t : Text) : Prop := ∀ c ∈ t, c = '\n' ∨ c = mark ∨ 0x20 ≤ c.toNat

instance (t : Text) : Decidable (IsPrinted t) :=
  List.decidableBAll (fun c => c = '\n' ∨ c = mark ∨ 0x20 ≤ c.toNat) t

theorem isPrinted_append {t u : Text} : IsPrinted (t ++ u) ↔ IsPrinted t ∧ IsPrinted u :=
  List.forall_mem_append

theorem isPrinted_cons {c : Char} (hc : 0x20 ≤ c.toNat) {t : Text} :
    IsPrinted (c :: t) ↔ IsPrinted t := by
  rw [IsPrinted, List.forall_mem_cons, and_iff_right (Or.inr (Or.inr hc)), IsPrinted]

theorem isPrinted_newLine (depth : Nat) : IsPrinted (newLine depth) := by
  intro c hc
  rw [newLine, List.mem_cons, List.mem_replicate] at hc
  rcases hc with rfl | ⟨-, rfl⟩ <;> decide

theorem isPrinted_quote (t : Text) : IsPrinted (quote t) := fun _ hc =>
  Or.inr (Or.inr (printable_of_mem_quote hc))

theorem isPrinted_ofNat (n : Nat) : IsPrinted (Text.ofNat n) := fun _ hc => by
  have := (Text.toNat_of_isDigit (Text.isDigit_of_mem_ofNat hc)).1
  exact Or.inr (Or.inr (by omega))

theorem isPrinted_integerText (n : Int) : IsPrinted (integerText n) := by
  rw [integerText]
  split
  · cases n with
    | ofNat n => exact isPrinted_ofNat n
    | negSucc n => exact (isPrinted_cons (by decide)).mpr (isPrinted_ofNat (n + 1))
  · decide

theorem isPrinted_prettyItems {lvl : Nat} : ∀ {items : List Json},
    (∀ v ∈ items, IsPrinted (prettyAt lvl v)) → IsPrinted (prettyItems lvl items)
  | [], _ => List.forall_mem_nil _
  | v :: items, h => by
    obtain ⟨hv, hitems⟩ := List.forall_mem_cons.mp h
    rw [prettyItems, isPrinted_cons (by decide), isPrinted_append, isPrinted_append]
    exact ⟨⟨isPrinted_newLine lvl, hv⟩, isPrinted_prettyItems hitems⟩

theorem isPrinted_prettyField {lvl : Nat} {e : Text × Json} (h : IsPrinted (prettyAt lvl e.2)) :
    IsPrinted (prettyField lvl e) := by
  rw [prettyField, isPrinted_append, isPrinted_append]
  exact ⟨⟨isPrinted_quote e.1, by decide⟩, h⟩

theorem isPrinted_prettyFields {lvl : Nat} : ∀ {fields : List (Text × Json)},
    (∀ e ∈ fields, IsPrinted (prettyAt lvl e.2)) → IsPrinted (prettyFields lvl fields)
  | [], _ => List.forall_mem_nil _
  | e :: fields, h => by
    obtain ⟨he, hfields⟩ := List.forall_mem_cons.mp h
    rw [← List.append_nil (prettyFields lvl (e :: fields)), prettyFields_cons, List.append_nil,
      isPrinted_cons (by decide), isPrinted_append, isPrinted_append]
    exact ⟨isPrinted_newLine lvl, isPrinted_prettyField he, isPrinted_prettyFields hfields⟩

theorem isPrinted_prettyAt : ∀ {n : Nat} {v : Json} (lvl : Nat), FitsIn n v →
    IsPrinted (prettyAt lvl v)
  | _, null, _, _ => by rw [prettyAt]; decide
  | _, bool true, _, _ => by rw [prettyAt]; decide
  | _, bool false, _, _ => by rw [prettyAt]; decide
  | _, int n, _, _ => isPrinted_integerText n
  | _, str t, _, _ => isPrinted_quote t
  | 0, real _, _, h | _ + 1, real _, _, h | 0, arr _, _, h | 0, obj _, _, h => h.elim
  | _ + 1, arr [], _, _ => by rw [prettyAt]; decide
  | _ + 1, obj [], _, _ => by rw [prettyAt]; decide
  | n + 1, arr (v :: items), lvl, h => by
    have hitems : ∀ w ∈ v :: items, IsPrinted (prettyAt (lvl + 1) w) := fun w hw =>
      isPrinted_prettyAt (lvl + 1) (h w hw)
    obtain ⟨hv, hitems⟩ := List.forall_mem_cons.mp hitems
    rw [prettyAt, isPrinted_cons (by decide)]
    simp only [isPrinted_append, isPrinted_newLine, hv, isPrinted_prettyItems hitems, true_and]
    decide
  | n + 1, obj ((key, v) :: fields), lvl, h => by
    have hfields : ∀ e ∈ (key, v) :: fields, IsPrinted (prettyAt (lvl + 1) e.2) := fun e he =>
      isPrinted_prettyAt (lvl + 1) (h.2 e he)
    obtain ⟨hv, hfields⟩ := List.forall_mem_cons.mp hfields
    have hcolon : IsPrinted ": " := by decide
    rw [prettyAt, isPrinted_cons (by decide)]
    simp only [isPrinted_append, isPrinted_newLine, isPrinted_quote, hcolon, hv,
      isPrinted_prettyFields hfields, true_and]
    decide

theorem return_notMem_pretty {n : Nat} {v : Json} (h : FitsIn n v) : '\r' ∉ pretty v := by
  intro hmem
  rcases isPrinted_prettyAt 0 h '\r' hmem with hc | hc | hc <;> revert hc <;> decide

/-- **A written value is read again**, if all its integers can be written. -/
theorem read_pretty {v : Json} (h : FitsIn depthLimit v) (hw : isWritable v = true) :
    read (pretty v) = .ok v := by
  have hmark : mark ∉ prettyAt 0 v := fun hmem => by
    simpa using List.all_eq_true.mp hw _ hmem
  have hvalue := @readValue_prettyAt depthLimit v 0 0 h hmark (by omega) [] _ trivial
    (Nat.le_add_right _ 2)
  have hskip := skipSpace_prettyAt 0 h []
  obtain ⟨c, t, ht, hc⟩ := exists_opening 0 h
  rw [List.append_nil] at hvalue hskip
  unfold read pretty
  split
  · rename_i heq
    rw [ht] at heq
    exact absurd (List.cons.inj heq).1 (of_isOpening hc).2.2
  · rw [hskip, hvalue]
    rfl

theorem beforeMark_of_isWritable {v : Json} (hw : isWritable v = true) : beforeMark v = pretty v :=
  List.takeWhile_eq_self_iff.mpr (List.all_eq_true.mp hw)

end Json

end GraphSketch
