import GraphSketch.Proofs.Connector

/-!
# A line is cut without loss

`Chain.ofLine` takes a line apart into arrows and gaps.  Nothing of the line is lost, and nothing in
it that looks like an arrow is left over.

* `ofLine_induction` — going over a line past a character of a gap and past a whole arrow.
* `Fits` — arrows stand in a line where they are said to, one behind the other.
* `gaps_eq_between` — the gaps are what the line has between the places of the arrows.
* `exists_placed_of_sign` — every `->` and `<-` in a line lies inside one of its arrows.
* `ofLine_lossless` — all of this together.
-/

set_option autoImplicit false

namespace GraphSketch

namespace Text

/-- The characters of a text from one place up to another. -/
def slice (t : Text) (start stop : Nat) : Text := (t.take stop).drop start

theorem slice_append_left (u t : Text) (start stop : Nat) :
    slice (u ++ t) (u.length + start) (u.length + stop) = slice t start stop := by
  simp [slice, List.take_length_add_append, List.drop_append]

theorem slice_append_of_length (t rest : Text) : slice (t ++ rest) 0 t.length = t := by
  simp [slice]

end Text

/-- An arrow and the number of characters before it. -/
structure Placed where
  position : Nat
  arrow : Arrow

namespace Placed

/-- The number of characters up to the end of the arrow. -/
def stop (e : Placed) : Nat := e.position + e.arrow.raw.length

/-- The same arrow with `n` more characters before it. -/
def shift (n : Nat) (e : Placed) : Placed := ⟨n + e.position, e.arrow⟩

@[simp] theorem shift_position (n : Nat) (e : Placed) : (e.shift n).position = n + e.position := rfl

@[simp] theorem shift_arrow (n : Nat) (e : Placed) : (e.shift n).arrow = e.arrow := rfl

@[simp] theorem shift_stop (n : Nat) (e : Placed) : (e.shift n).stop = n + e.stop :=
  Nat.add_assoc n e.position _

end Placed

namespace Chain

/-- The arrows in order, each in its place. -/
def placed (chain : Chain) : List Placed := List.zipWith Placed.mk chain.positions chain.arrows

theorem positionsFrom_add (n start : Nat) (rest : List (Arrow × Text)) :
    positionsFrom (n + start) rest = (positionsFrom start rest).map (n + ·) := by
  induction rest generalizing start with
  | nil => rfl
  | cons e rest ih => simp [positionsFrom, ← ih, Nat.add_assoc]

theorem placed_positionsFrom_add (n start : Nat) (rest : List (Arrow × Text))
    (arrows : List Arrow) :
    List.zipWith Placed.mk (positionsFrom (n + start) rest) arrows =
      (List.zipWith Placed.mk (positionsFrom start rest) arrows).map (Placed.shift n) := by
  rw [positionsFrom_add, List.zipWith_map_left, List.map_zipWith]
  rfl

@[simp] theorem placed_nil : placed ⟨[], []⟩ = [] := rfl

@[simp] theorem placed_cons (c : Char) (chain : Chain) :
    placed (chain.cons c) = chain.placed.map (Placed.shift 1) := by
  rw [placed, positions, Cut.cons, List.length_cons, Nat.add_comm, placed_positionsFrom_add]
  rfl

@[simp] theorem placed_arrow (a : Arrow) (chain : Chain) :
    placed ⟨[], (a, chain.first) :: chain.rest⟩ =
      ⟨0, a⟩ :: chain.placed.map (Placed.shift a.raw.length) := by
  simp only [placed, positions, arrows, Cut.tokens, positionsFrom, List.map_cons,
    List.zipWith_cons_cons, List.length_nil, Nat.zero_add, placed_positionsFrom_add]

theorem length_positions (chain : Chain) : chain.positions.length = chain.arrows.length := by
  suffices ∀ (start : Nat) (rest : List (Arrow × Text)),
      (positionsFrom start rest).length = (rest.map (·.1)).length from this _ _
  intro start rest
  induction rest generalizing start with
  | nil => rfl
  | cons e rest ih => simpa [positionsFrom] using ih _

theorem map_arrow_placed (chain : Chain) : chain.placed.map Placed.arrow = chain.arrows := by
  rw [placed, List.map_zipWith]
  exact List.map_zip_eq_zipWith.symm.trans (List.map_snd_zip chain.length_positions.ge)

theorem map_position_placed (chain : Chain) :
    chain.placed.map Placed.position = chain.positions := by
  rw [placed, List.map_zipWith]
  exact List.map_zip_eq_zipWith.symm.trans (List.map_fst_zip chain.length_positions.le)

end Chain

namespace Arrow

/-- The signs of an arrow.  Every arrow has one of them in it. -/
def signs : List Text := [['-', '>'], ['<', '-']]

theorem at?_ne_none_of_sign {sign t : Text} (hsign : sign ∈ signs) (h : sign <+: t) :
    at? t ≠ none := by
  simp only [signs, List.mem_cons, List.not_mem_nil, or_false] at hsign
  rcases hsign with rfl | rfl
  · simp [at?, plain?, h]
  · simp [at?, plain?, h]

theorem ne_nil_of_sign {sign : Text} (h : sign ∈ signs) : sign ≠ [] := by
  rintro rfl
  revert h
  decide

theorem raw_eq_of_at? {t : Text} {a : Arrow} (h : at? t = some a) :
    (∃ start, a.raw = start ++ ['>']) ∨ a.raw = ['<', '-'] := by
  cases (spelled_of_at? h).1 with
  | both l => exact Or.inl ⟨['<', '-'] ++ l ++ ['-'], by simp⟩
  | forward l => exact Or.inl ⟨['-'] ++ l ++ ['-'], by simp⟩
  | plainBoth => exact Or.inl ⟨['<', '-'], rfl⟩
  | plainForward => exact Or.inl ⟨['-'], rfl⟩
  | plainBackward => exact Or.inr rfl

theorem sign_in_raw {a : Arrow} {sign rest : Text} {i : Nat} (ha : at? (a.raw ++ rest) = some a)
    (hsign : sign ∈ signs) (hi : i < a.raw.length) (h : sign <+: (a.raw ++ rest).drop i) :
    i + 2 ≤ a.raw.length := by
  by_contra hlast
  have hlength : a.raw.length = i + 1 := by omega
  obtain ⟨behind, hbehind⟩ := h
  rcases raw_eq_of_at? ha with ⟨start, hraw⟩ | hraw
  · -- no sign begins with the `>` that an arrow ends with
    have hi : i = start.length := by simpa [hraw] using hlength.symm
    rw [hraw, hi, List.append_assoc, List.drop_left] at hbehind
    simp only [signs, List.mem_cons, List.not_mem_nil, or_false] at hsign
    rcases hsign with rfl | rfl <;> simp at hbehind
  · -- a `<-` with a `>` behind it would have been read as `<->`
    have hi : i = 1 := by simpa [hraw] using hlength.symm
    rw [hraw, hi] at hbehind
    simp only [signs, List.mem_cons, List.not_mem_nil, or_false] at hsign
    rcases hsign with rfl | rfl
    · obtain rfl : '>' :: behind = rest := by simpa using hbehind
      have hboth : at? (Connector.both.source ++ behind) = some Connector.both.token :=
        Connector.at?_of_ne_backward trivial nofun
      rw [hraw] at ha
      have heq := Option.some.inj (ha.symm.trans hboth)
      rw [heq] at hraw
      cases hraw
    · simp at hbehind

end Arrow

namespace Chain

/-- **Going over a line** past a character of a gap, and past a whole arrow. -/
theorem ofLine_induction {P : Text → Chain → Prop} (nil : P [] ⟨[], []⟩)
    (gap : ∀ c line, Arrow.at? (c :: line) = none → P line (ofLine line) →
      P (c :: line) ((ofLine line).cons c))
    (arrow : ∀ (a : Arrow) line, Arrow.at? (a.raw ++ line) = some a → P line (ofLine line) →
      P (a.raw ++ line) ⟨[], (a, (ofLine line).first) :: (ofLine line).rest⟩) :
    ∀ line, P line (ofLine line) := by
  refine Text.cut_induction Arrow.token?_length nil (fun c line hnone => gap c line ?_) ?_
  · simpa [Arrow.token?] using hnone
  · intro t line a hne htoken ih
    obtain ⟨found, hat, heq⟩ := Option.map_eq_some_iff.mp htoken
    obtain ⟨rfl, hlength⟩ := Prod.mk.inj heq
    obtain ⟨behind, hsplit⟩ := (Arrow.spelled_of_at? hat).2
    obtain ⟨rfl, rfl⟩ := List.append_inj hsplit hlength
    exact arrow found behind hat ih

/-- Arrows stand in a line where they are said to, and each begins where the one before it has
ended. -/
structure Fits (line : Text) (placed : List Placed) : Prop where
  slice_eq : ∀ e ∈ placed, line.slice e.position e.stop = e.arrow.raw
  increasing : placed.Pairwise fun e e' => e.position < e'.position ∧ e.stop ≤ e'.position

theorem Fits.shift {line : Text} {placed : List Placed} (h : Fits line placed) (u : Text) :
    Fits (u ++ line) (placed.map (Placed.shift u.length)) where
  slice_eq := by
    simpa [Text.slice_append_left] using h.slice_eq
  increasing := by
    rw [List.pairwise_map]
    exact h.increasing.imp fun ⟨hlt, hle⟩ => ⟨by simpa using hlt, by simpa using hle⟩

theorem fits_ofLine (line : Text) : Fits line (ofLine line).placed := by
  induction line using ofLine_induction with
  | nil => exact ⟨nofun, .nil⟩
  | gap c line _ ih =>
    rw [placed_cons]
    exact ih.shift [c]
  | arrow a line hat ih =>
    have hshift := ih.shift a.raw
    have hpos : 0 < a.raw.length := (Arrow.token?_length _ a _ (by rw [Arrow.token?, hat]; rfl)).1
    rw [placed_arrow]
    refine ⟨?_, List.pairwise_cons.mpr ⟨fun e he => ?_, hshift.increasing⟩⟩
    · rw [List.forall_mem_cons]
      refine ⟨?_, hshift.slice_eq⟩
      simpa [Placed.stop] using Text.slice_append_of_length a.raw line
    · obtain ⟨e, -, rfl⟩ := List.mem_map.mp he
      simp only [Placed.shift_position, Placed.stop]
      omega

/-! ## The gaps -/

/-- What a line has between places of arrows, from `start` on. -/
def between (line : Text) : Nat → List Placed → List Text
  | start, [] => [line.slice start line.length]
  | start, e :: placed => line.slice start e.position :: between line e.stop placed

theorem between_shift (u line : Text) (start : Nat) (placed : List Placed) :
    between (u ++ line) (u.length + start) (placed.map (Placed.shift u.length)) =
      between line start placed := by
  induction placed generalizing start with
  | nil => simp [between, Text.slice_append_left]
  | cons e placed ih => simp [between, Text.slice_append_left, ih]

theorem between_cons (c : Char) {line gap : Text} {placed : List Placed} {gaps : List Text}
    (h : between line 0 placed = gap :: gaps) :
    between (c :: line) 0 (placed.map (Placed.shift 1)) = (c :: gap) :: gaps := by
  cases placed with
  | nil =>
    obtain ⟨rfl, rfl⟩ := List.cons.inj h
    simp [between, Text.slice]
  | cons e placed =>
    obtain ⟨rfl, rfl⟩ := List.cons.inj h
    have hbehind := between_shift [c] line e.stop placed
    simp only [List.map_cons, between, Placed.shift_stop]
    rw [← hbehind]
    simp [Text.slice, Nat.add_comm 1]

theorem gaps_eq_between (line : Text) : (ofLine line).gaps = between line 0 (ofLine line).placed := by
  induction line using ofLine_induction with
  | nil => rfl
  | gap c line _ ih =>
    rw [placed_cons]
    exact (between_cons c ih.symm).symm
  | arrow a line _ ih =>
    have hbehind := between_shift a.raw line 0 (ofLine line).placed
    rw [Nat.add_zero] at hbehind
    rw [placed_arrow, between, Placed.stop, Nat.zero_add, hbehind, ← ih]
    rfl

/-! ## Nothing is left over -/

theorem exists_placed_shift {placed : List Placed} {i : Nat} (n : Nat)
    (h : ∃ e ∈ placed, e.position ≤ i ∧ i + 2 ≤ e.stop) :
    ∃ e ∈ placed.map (Placed.shift n), e.position ≤ n + i ∧ n + i + 2 ≤ e.stop := by
  obtain ⟨e, he, hle, hstop⟩ := h
  refine ⟨e.shift n, List.mem_map_of_mem he, ?_, ?_⟩
  · simpa using hle
  · rw [Placed.shift_stop]
    omega

/-- **Every sign in a line lies inside one of its arrows.** -/
theorem exists_placed_of_sign {sign : Text} (hsign : sign ∈ Arrow.signs) (line : Text) :
    ∀ i, sign <+: line.drop i →
      ∃ e ∈ (ofLine line).placed, e.position ≤ i ∧ i + 2 ≤ e.stop := by
  induction line using ofLine_induction with
  | nil =>
    intro i h
    rw [List.drop_nil, List.prefix_nil] at h
    exact absurd h (Arrow.ne_nil_of_sign hsign)
  | gap c line hnone ih =>
    intro i h
    cases i with
    | zero => exact absurd hnone (Arrow.at?_ne_none_of_sign hsign h)
    | succ i =>
      rw [placed_cons, Nat.add_comm i 1]
      exact exists_placed_shift 1 (ih i h)
  | arrow a line hat ih =>
    intro i h
    rw [placed_arrow]
    by_cases hi : i < a.raw.length
    · refine ⟨⟨0, a⟩, List.mem_cons_self, Nat.zero_le i, ?_⟩
      have hin := Arrow.sign_in_raw hat hsign hi h
      simpa [Placed.stop] using hin
    · obtain ⟨j, rfl⟩ := Nat.exists_eq_add_of_le (Nat.le_of_not_lt hi)
      rw [List.drop_length_add_append] at h
      obtain ⟨e, he, hcovered⟩ := exists_placed_shift a.raw.length (ih j h)
      exact ⟨e, List.mem_cons_of_mem _ he, hcovered⟩

theorem not_infix_of_mem_gaps {sign line gap : Text} (hsign : sign ∈ Arrow.signs)
    (hgap : gap ∈ (ofLine line).gaps) : ¬ sign <:+: gap := by
  intro hinfix
  obtain ⟨u, hu⟩ := Text.token?_eq_none_of_infix Arrow.token?_length (Arrow.ne_nil_of_sign hsign) line
    gap hgap hinfix
  refine Arrow.at?_ne_none_of_sign hsign (List.prefix_append sign u) ?_
  simpa [Arrow.token?] using hu

/-! ## All of a line -/

/-- What a chain has of the line that it was read from. -/
structure Lossless (line : Text) (chain : Chain) : Prop where
  /-- Every arrow is in its place, where the line has its spelling. -/
  arrow_eq : chain.placed.map Placed.arrow = chain.arrows
  fits : Fits line chain.placed
  /-- Every arrow has one of the five forms. -/
  formed : ∀ a ∈ chain.arrows, ∃ k : Connector, k.IsFormed ∧ k.token = a
  /-- The gaps with the spellings of the arrows between them are the line. -/
  fill_eq : chain.fill Arrow.raw = line
  /-- The operands are the gaps, one more than there are arrows, without blanks around them. -/
  gaps_eq : chain.gaps = between line 0 chain.placed
  operands_eq : chain.operands = chain.gaps.map Text.trim
  operands_length : chain.operands.length = chain.arrows.length + 1
  /-- No arrow is left in a gap, nor across the edge of one. -/
  not_infix : ∀ gap ∈ chain.gaps, ∀ sign ∈ Arrow.signs, ¬ sign <:+: gap
  covered : ∀ sign ∈ Arrow.signs, ∀ i, sign <+: line.drop i →
    ∃ e ∈ chain.placed, e.position ≤ i ∧ i + 2 ≤ e.stop

theorem fill_ofLine (line : Text) : (ofLine line).fill Arrow.raw = line := by
  refine Text.fill_cut (fun t a n h => ⟨(Arrow.token?_length t a n h).1, ?_⟩) line
  obtain ⟨-, hprefix, rfl⟩ := Arrow.token?_eq_some h
  exact List.prefix_iff_eq_take.mp hprefix

/-- **A line is taken apart without loss**, and no arrow is left in an operand. -/
theorem ofLine_lossless (line : Text) : Lossless line (ofLine line) where
  arrow_eq := map_arrow_placed _
  fits := fits_ofLine line
  formed a ha := by
    obtain ⟨t, n, htoken⟩ := Text.exists_of_mem_tokens ha
    obtain ⟨found, hat, heq⟩ := Option.map_eq_some_iff.mp htoken
    cases heq
    exact Connector.exists_of_at? hat
  fill_eq := fill_ofLine line
  gaps_eq := gaps_eq_between line
  operands_eq := rfl
  operands_length := by rw [operands, List.length_map, Cut.gaps_length, arrows]
  not_infix _ hgap _ hsign := not_infix_of_mem_gaps hsign hgap
  covered _ hsign := exists_placed_of_sign hsign line

example : (ofLine "<a<- b -x--y->c->").placed.map (fun e => (e.position, e.arrow.raw)) =
    [(2, "<- b -x--y->".toList), (15, "->".toList)] := by decide

end Chain

end GraphSketch
