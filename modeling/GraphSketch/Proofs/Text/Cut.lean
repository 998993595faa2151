import GraphSketch.Text.Cut
import Mathlib.Data.List.Basic

/-!
# How a text is cut

`Text.cut` has one equation for each thing that can stand at the beginning of a text: a token
(`cut_of_token`), or a character of a gap (`cut_of_none`, and `cut_append_of_none` for a whole gap).
`cut_induction` goes over a text in the steps of its cut.  Every token was found by asking for one
somewhere in the text (`exists_of_mem_tokens`), and none begins in a gap (`token?_eq_none_of_infix`).
-/

set_option autoImplicit false

namespace GraphSketch

namespace Text

variable {α : Type} {token? : Text → Option (α × Nat)}

theorem cutAfter_eq_cut_drop : ∀ (skip : Nat) (t : Text),
    cutAfter token? skip t = cut token? (t.drop skip)
  | 0, _ => rfl
  | _ + 1, [] => rfl
  | skip + 1, _ :: cs => by
    rw [cutAfter, List.drop_succ_cons]
    exact cutAfter_eq_cut_drop skip cs

theorem cut_of_none {c : Char} {cs : Text} (h : token? (c :: cs) = none) :
    cut token? (c :: cs) = (cut token? cs).cons c := by
  rw [cut, cutAfter, h]
  rfl

theorem cut_of_token {t rest : Text} {a : α} (hne : t ≠ [])
    (h : token? (t ++ rest) = some (a, t.length)) :
    cut token? (t ++ rest) =
      ⟨[], (a, (cut token? rest).first) :: (cut token? rest).rest⟩ := by
  obtain ⟨c, cs, rfl⟩ := List.exists_cons_of_ne_nil hne
  have htail : cutAfter token? ((c :: cs).length - 1) (cs ++ rest) = cut token? rest := by
    rw [cutAfter_eq_cut_drop, List.length_cons, Nat.add_sub_cancel, List.drop_left]
  rw [List.cons_append] at h ⊢
  rw [cut, cutAfter, h]
  simp only [htail]

/-- Characters at which no token begins make the first gap longer. -/
theorem cut_append_of_none {gap : Text} (h : ∀ c ∈ gap, ∀ cs, token? (c :: cs) = none) (t : Text) :
    cut token? (gap ++ t) = ⟨gap ++ (cut token? t).first, (cut token? t).rest⟩ := by
  induction gap with
  | nil => rfl
  | cons c gap ih =>
    have ih := ih fun d hd => h d (List.mem_cons_of_mem c hd)
    rw [List.cons_append, cut_of_none (h c List.mem_cons_self _), ih]
    rfl

/-- **Going over a text in the steps of its cut**: past a character at which no token begins, and
past a whole token. -/
theorem cut_induction {P : Text → Cut α → Prop}
    (hlength : ∀ t a n, token? t = some (a, n) → 0 < n ∧ n ≤ t.length)
    (nil : P [] ⟨[], []⟩)
    (gap : ∀ c cs, token? (c :: cs) = none → P cs (cut token? cs) →
      P (c :: cs) ((cut token? cs).cons c))
    (token : ∀ t rest a, t ≠ [] → token? (t ++ rest) = some (a, t.length) →
      P rest (cut token? rest) →
        P (t ++ rest) ⟨[], (a, (cut token? rest).first) :: (cut token? rest).rest⟩) :
    ∀ t, P t (cut token? t)
  | [] => nil
  | c :: cs => by
    cases h : token? (c :: cs) with
    | none =>
      rw [cut_of_none h]
      exact gap c cs h (cut_induction hlength nil gap token cs)
    | some found =>
      obtain ⟨a, n⟩ := found
      obtain ⟨hpos, hle⟩ := hlength _ _ _ h
      generalize hwhole : c :: cs = whole at h hle ⊢
      have hn : n = (whole.take n).length := by rw [List.length_take, Nat.min_eq_left hle]
      have hne : whole.take n ≠ [] := List.ne_nil_of_length_pos (hn ▸ hpos)
      have hshort : (whole.drop n).length < (c :: cs).length := by
        rw [hwhole, List.length_drop]
        omega
      have ih := cut_induction hlength nil gap token (whole.drop n)
      rw [← List.take_append_drop n whole, hn, List.take_append_drop] at h
      have htoken : token? (whole.take n ++ whole.drop n) = some (a, (whole.take n).length) := by
        rw [List.take_append_drop, h]
      have hcut := token _ _ a hne htoken ih
      rw [← cut_of_token hne htoken, List.take_append_drop] at hcut
      exact hcut
  termination_by t => t.length
  decreasing_by
    · exact Nat.lt_succ_self _
    · exact hshort

theorem first_prefix_cut (hlength : ∀ t a n, token? t = some (a, n) → 0 < n ∧ n ≤ t.length)
    (t : Text) : (cut token? t).first <+: t := by
  induction t using cut_induction hlength with
  | nil => exact List.prefix_rfl
  | gap c cs _ ih => exact (List.prefix_cons_inj c).mpr ih
  | token t rest a _ _ _ => exact List.nil_prefix

/-- **No token begins in a gap**, whatever stands behind it. -/
theorem token?_eq_none_of_infix
    (hlength : ∀ t a n, token? t = some (a, n) → 0 < n ∧ n ≤ t.length) {sign : Text}
    (hne : sign ≠ []) (t : Text) :
    ∀ gap ∈ (cut token? t).gaps, sign <:+: gap → ∃ u, token? (sign ++ u) = none := by
  induction t using cut_induction hlength with
  | nil =>
    intro gap hgap hsign
    rw [List.mem_singleton.mp hgap, List.infix_nil] at hsign
    exact absurd hsign hne
  | gap c cs hnone ih =>
    intro gap hgap hsign
    rcases List.mem_cons.mp hgap with rfl | hgap
    · rcases List.infix_cons_iff.mp hsign with hsign | hsign
      · -- the sign begins where no token does
        have hfirst : c :: (cut token? cs).first <+: c :: cs :=
          (List.prefix_cons_inj c).mpr (first_prefix_cut hlength cs)
        obtain ⟨u, hu⟩ := hsign.trans hfirst
        exact ⟨u, hu ▸ hnone⟩
      · exact ih _ List.mem_cons_self hsign
    · exact ih gap (List.mem_cons_of_mem _ hgap) hsign
  | token t rest a _ _ ih =>
    intro gap hgap hsign
    rcases List.mem_cons.mp hgap with rfl | hgap
    · exact absurd (List.infix_nil.mp hsign) hne
    · exact ih gap hgap hsign

theorem exists_of_mem_tokens {t : Text} {a : α} (h : a ∈ (cut token? t).tokens) :
    ∃ s n, token? s = some (a, n) := by
  suffices ∀ (t : Text) (skip : Nat), a ∈ (cutAfter token? skip t).tokens →
      ∃ s n, token? s = some (a, n) from this t 0 h
  intro t
  induction t with
  | nil =>
    intro skip h
    simp [cutAfter, Cut.tokens] at h
  | cons c cs ih =>
    intro skip h
    cases skip with
    | succ skip => exact ih skip h
    | zero =>
      unfold cutAfter at h
      split at h
      · rename_i b n hb
        rcases List.mem_cons.mp h with rfl | h
        · exact ⟨_, n, hb⟩
        · exact ih _ h
      · exact ih 0 h

end Text

end GraphSketch
