import GraphSketch.Document.Basic
import GraphSketch.Proofs.Mask.Fence
import GraphSketch.Proofs.Text.Classes

/-!
# Style settings in any order

Each setting is looked for in the whole text, so the name of one could be found where the value of
another stands.  It is not: a name is found only where a colon follows it, and no value has a colon.

* `Style.IsWritten` — settings that are written one after the other, with blanks between them.
* `setting?_of_isWritten` — every setting is found where it is written.
* `Style.read_isWritten` — what is read from settings that are written in any order.
-/

set_option autoImplicit false

namespace GraphSketch

namespace Style

/-! ## Settings as they are written -/

/-- What a setting is about: one of the colours, or the width. -/
inductive Kind where
  | fill
  | border
  | width
  deriving DecidableEq, Repr

namespace Kind

/-- The name before the colon. -/
def name : Kind → Text
  | fill => "fill"
  | border => "border"
  | width => "width"

/-- Whether a character is read as a part of the value. -/
def accept : Kind → Char → Bool
  | fill => isColourChar
  | border => isColourChar
  | width => isDecimalDigit

/-- The values that are meant: colours, and numbers with digits of ASCII that are not too long. -/
def Admits : Kind → Text → Prop
  | fill, value | border, value => ∀ c ∈ value, c = '#' ∨ isWordChar c = true
  | width, value => (∀ c ∈ value, isAsciiDigit c = true) ∧ value.length ≤ 4300

instance : (kind : Kind) → (value : Text) → Decidable (kind.Admits value)
  | fill, value | border, value =>
    List.decidableBAll (fun c => c = '#' ∨ isWordChar c = true) value
  | width, value =>
    @instDecidableAnd _ _ (List.decidableBAll (fun c => isAsciiDigit c = true) value) _

end Kind

/-- A setting: its kind, the blanks behind the colon, and the value. -/
structure Setting where
  kind : Kind
  space : Text
  value : Text
  deriving DecidableEq, Repr

namespace Setting

/-- The setting as it is written. -/
def text (s : Setting) : Text := s.kind.name ++ ":" ++ (s.space ++ s.value)

/-- A setting with a value, and with nothing but blanks between the colon and the value. -/
structure IsFormed (s : Setting) : Prop where
  space_blank : ∀ c ∈ s.space, isBlank c = true
  value_ne : s.value ≠ []
  admits : s.kind.Admits s.value

instance (s : Setting) : Decidable s.IsFormed :=
  decidable_of_iff (s.space.all isBlank = true ∧ s.value ≠ [] ∧ s.kind.Admits s.value)
    ⟨fun h => ⟨List.all_eq_true.mp h.1, h.2.1, h.2.2⟩,
      fun h => ⟨List.all_eq_true.mpr h.space_blank, h.value_ne, h.admits⟩⟩

/-- The setting as a field of a document: a width is the number that its digits denote. -/
def field (s : Setting) : Text × Json :=
  match s.kind with
  | .fill => ("fill", .str s.value)
  | .border => ("stroke", .str s.value)
  | .width => ("strokeWidth", .int (Nat.ofDigitChars 10 s.value 0 : Nat))

end Setting

/-- Settings written one after the other, with blanks between them. -/
inductive IsWritten : List Setting → Text → Prop
  | nil : IsWritten [] []
  | one {s : Setting} (hs : s.IsFormed) : IsWritten [s] s.text
  | cons {s next : Setting} {settings : List Setting} {gap t : Text} (hs : s.IsFormed)
      (hne : gap ≠ []) (hgap : ∀ c ∈ gap, isBlank c = true)
      (hrest : IsWritten (next :: settings) t) :
      IsWritten (s :: next :: settings) (s.text ++ (gap ++ t))

namespace Kind

theorem accept_of_admits {kind : Kind} {value : Text} (h : kind.Admits value) :
    ∀ c ∈ value, kind.accept c = true := by
  intro c hc
  cases kind with
  | fill => simpa [accept, isColourChar] using h c hc
  | border => simpa [accept, isColourChar] using h c hc
  | width => exact Text.isDecimalDigit_of_isDigit (Text.isDigit_of_isAsciiDigit (h.1 c hc))

theorem not_accept_of_isBlank (kind : Kind) {c : Char} (h : isBlank c = true) :
    kind.accept c = false := by
  cases kind with
  | fill => exact not_isColourChar_of_isBlank h
  | border => exact not_isColourChar_of_isBlank h
  | width => exact not_isDecimalDigit_of_isBlank h

theorem not_accept_colon (kind : Kind) : kind.accept ':' = false := by
  cases kind <;> decide +kernel

theorem exists_initial (kind : Kind) : ∃ c, kind.name.head? = some c ∧ isBlank c = false ∧
    ∀ other : Kind, other ≠ kind → c ∉ other.name ++ [':'] := by
  cases kind with
  | fill => exact ⟨'f', rfl, by decide, by rintro (_ | _ | _) <;> decide⟩
  | border => exact ⟨'b', rfl, by decide, by rintro (_ | _ | _) <;> decide⟩
  | width => exact ⟨'w', rfl, by decide, by rintro (_ | _ | _) <;> decide⟩

theorem not_isBlank_of_mem_name (kind : Kind) :
    ∀ c ∈ kind.name ++ [':'], isBlank c = false := by
  have hall : (kind.name ++ [':']).all (fun c => !isBlank c) = true := by
    cases kind <;> decide
  simpa only [List.all_eq_true, Bool.not_eq_true'] using hall

end Kind

end Style

/-! ## Looking for a setting -/

section

variable {name : Text} {accept : Char → Bool}

theorem setting?_cons_of_not_named {c : Char} {t : Text} (h : ¬ name ++ [':'] <+: c :: t) :
    setting? name accept (c :: t) = setting? name accept t := by
  have hafter : Text.after? (name ++ ":") (c :: t) = none :=
    if_neg (mt List.isPrefixOf_iff_prefix.mp h)
  have hat : settingAt? name accept (c :: t) = none := by
    rw [settingAt?, hafter]
    rfl
  rw [setting?, hat]
  rfl

theorem setting?_append_of_notMem {c : Char} {p : Text} (hc : name.head? = some c) (h : c ∉ p)
    (rest : Text) : setting? name accept (p ++ rest) = setting? name accept rest := by
  induction p with
  | nil => rfl
  | cons d p ih =>
    rw [List.mem_cons, not_or] at h
    rw [List.cons_append, setting?_cons_of_not_named, ih h.2]
    obtain ⟨cs, rfl⟩ := List.head?_eq_some_iff.mp hc
    exact fun hp => h.1 (List.cons_prefix_cons.mp hp).1

/-- No name with a colon begins where a text without colons ends before something else. -/
theorem not_prefix_of_colonless {p rest : Text} (hp : ':' ∉ p)
    (hrest : ∀ c ∈ rest.head?, c ∉ name ++ [':']) (hne : p ≠ []) :
    ¬ name ++ [':'] <+: p ++ rest := by
  rintro ⟨tail, htail⟩
  rcases List.append_eq_append_iff.mp htail with ⟨more, rfl, -⟩ | ⟨more, hname, rfl⟩
  · exact hp (by simp)
  · cases more with
    | nil =>
      rw [List.append_nil] at hname
      exact hp (by simp [← hname])
    | cons c more => exact hrest c rfl (by simp [hname])

/-- A text without colons is passed over, if what is behind it cannot belong to the name. -/
theorem setting?_append_of_colonless {p rest : Text} (hp : ':' ∉ p)
    (hrest : ∀ c ∈ rest.head?, c ∉ name ++ [':']) :
    setting? name accept (p ++ rest) = setting? name accept rest := by
  induction p with
  | nil => rfl
  | cons d p ih =>
    have hnot := not_prefix_of_colonless hp hrest (List.cons_ne_nil d p)
    rw [List.cons_append] at hnot ⊢
    rw [setting?_cons_of_not_named hnot, ih (List.not_mem_of_not_mem_cons hp)]

end

namespace Style

variable {s : Setting} {kind : Kind} {rest : Text}

theorem Setting.IsFormed.trimStart (hs : s.IsFormed) :
    Text.trimStart (s.space ++ (s.value ++ rest)) = s.value ++ rest := by
  obtain ⟨c, cs, hvalue⟩ := List.exists_cons_of_ne_nil hs.value_ne
  have hc : ¬ isBlank c = true := fun hblank => by
    have haccept := Kind.accept_of_admits hs.admits c (by simp [hvalue])
    rw [s.kind.not_accept_of_isBlank hblank] at haccept
    cases haccept
  rw [Text.trimStart, List.dropWhile_append_of_pos hs.space_blank, hvalue, List.cons_append,
    List.dropWhile_cons_of_neg hc]

theorem Setting.IsFormed.takeWhile (hs : s.IsFormed)
    (hrest : ∀ c ∈ rest.head?, isBlank c = true) :
    (s.value ++ rest).takeWhile s.kind.accept = s.value := by
  have hstop : rest.takeWhile s.kind.accept = [] := by
    cases rest with
    | nil => rfl
    | cons c rest =>
      have hc : ¬ s.kind.accept c = true := by
        rw [s.kind.not_accept_of_isBlank (hrest c rfl)]
        exact Bool.false_ne_true
      exact List.takeWhile_cons_of_neg hc
  rw [List.takeWhile_append_of_pos (Kind.accept_of_admits hs.admits), hstop, List.append_nil]

theorem settingAt?_text (hs : s.IsFormed) (hrest : ∀ c ∈ rest.head?, isBlank c = true) :
    settingAt? s.kind.name s.kind.accept (s.text ++ rest) = some s.value := by
  have htext : s.text ++ rest = s.kind.name ++ ":" ++ (s.space ++ (s.value ++ rest)) := by
    simp [Setting.text]
  rw [settingAt?, htext, Text.after?_append, Option.bind_eq_bind, Option.bind_some, hs.trimStart]
  simp [hs.takeWhile hrest, hs.value_ne]

theorem setting?_text (hs : s.IsFormed) (hrest : ∀ c ∈ rest.head?, isBlank c = true) :
    setting? s.kind.name s.kind.accept (s.text ++ rest) = some s.value := by
  obtain ⟨c, hc, -⟩ := s.kind.exists_initial
  obtain ⟨cs, hname⟩ := List.head?_eq_some_iff.mp hc
  have hat := settingAt?_text hs hrest
  rw [Setting.text, hname] at hat ⊢
  simp only [List.cons_append] at hat ⊢
  rw [setting?, hat]
  rfl

/-- A setting of another kind is passed over, whatever its value is. -/
theorem setting?_text_of_ne (hs : s.IsFormed) (hkind : s.kind ≠ kind)
    (hrest : ∀ c ∈ rest.head?, isBlank c = true) :
    setting? kind.name kind.accept (s.text ++ rest) = setting? kind.name kind.accept rest := by
  obtain ⟨c, hc, hblank, hother⟩ := kind.exists_initial
  -- the name may stand in the value only, and has no colon there
  have hbefore : c ∉ s.kind.name ++ [':'] ++ s.space := by
    rw [List.mem_append, not_or]
    refine ⟨hother s.kind hkind, fun hspace => ?_⟩
    rw [hs.space_blank c hspace] at hblank
    cases hblank
  have hvalue : ':' ∉ s.value := fun hcolon => by
    have haccept := Kind.accept_of_admits hs.admits ':' hcolon
    rw [s.kind.not_accept_colon] at haccept
    cases haccept
  have hbehind : ∀ d ∈ rest.head?, d ∉ kind.name ++ [':'] := fun d hd hmem => by
    have hno := kind.not_isBlank_of_mem_name d hmem
    rw [hrest d hd] at hno
    cases hno
  have htext : s.text ++ rest = s.kind.name ++ [':'] ++ s.space ++ (s.value ++ rest) := by
    simp only [Setting.text, List.append_assoc]
    rfl
  rw [htext, setting?_append_of_notMem hc hbefore, setting?_append_of_colonless hvalue hbehind]

/-- The value of the first setting of a kind. -/
def value? (kind : Kind) (settings : List Setting) : Option Text :=
  (settings.find? fun s => s.kind = kind).map (·.value)

/-- **Every setting is found where it is written**; of each kind the first one counts. -/
theorem setting?_of_isWritten (kind : Kind) {settings : List Setting} {t : Text}
    (h : IsWritten settings t) :
    setting? kind.name kind.accept t = value? kind settings := by
  induction h with
  | nil => rfl
  | @one s hs =>
    rw [← List.append_nil s.text, value?]
    by_cases hkind : s.kind = kind
    · subst hkind
      rw [setting?_text hs (by simp)]
      simp
    · rw [setting?_text_of_ne hs hkind (by simp)]
      simp [hkind, setting?]
  | @cons s next settings gap t hs hne hgap _ ih =>
    have hrest : ∀ c ∈ (gap ++ t).head?, isBlank c = true := fun c hc => by
      obtain ⟨d, gap, rfl⟩ := List.exists_cons_of_ne_nil hne
      exact hgap c (by simp_all)
    rw [value?]
    by_cases hkind : s.kind = kind
    · subst hkind
      rw [setting?_text hs hrest]
      simp
    · obtain ⟨c, hc, hblank, -⟩ := kind.exists_initial
      have hskip : c ∉ gap := fun hmem => by
        rw [hgap c hmem] at hblank
        cases hblank
      rw [setting?_text_of_ne hs hkind hrest, setting?_append_of_notMem hc hskip, ih, value?]
      simp [hkind]

/-! ## Reading all settings -/

theorem IsWritten.isFormed {settings : List Setting} {t : Text} (h : IsWritten settings t) :
    ∀ s ∈ settings, s.IsFormed := by
  induction h with
  | nil => exact nofun
  | one hs => simpa using hs
  | cons hs _ _ _ ih => exact List.forall_mem_cons.mpr ⟨hs, ih⟩

theorem ofDigits_of_admits {value : Text} (h : Kind.width.Admits value) :
    Numeral.ofDigits (value.filterMap digitValue?) = .ok (Nat.ofDigitChars 10 value 0) := by
  have hdigits : value.filterMap digitValue? = value.filterMap asciiDigit? :=
    List.filterMap_congr fun c hc => Text.digitValue?_of_isAsciiDigit (h.1 c hc)
  have hlength : (value.filterMap asciiDigit?).length ≤ Numeral.limit := by
    rw [Text.length_filterMap_asciiDigit? h.1]
    exact h.2
  rw [hdigits, Numeral.ofDigits, if_pos hlength, Numeral.value, Text.value_of_isAsciiDigit _ _ h.1]

theorem toList_find?_kind (kind : Kind) : ∀ {settings : List Setting},
    (settings.map (·.kind)).Nodup →
      (settings.find? fun s => s.kind = kind).toList = settings.filter fun s => s.kind = kind
  | [], _ => rfl
  | s :: settings, h => by
    rw [List.map_cons, List.nodup_cons] at h
    have ih := toList_find?_kind kind h.2
    by_cases hkind : s.kind = kind
    · have hnone : settings.filter (fun s => s.kind = kind) = [] := by
        rw [List.filter_eq_nil_iff]
        intro s' hs' heq
        rw [decide_eq_true_eq] at heq
        exact h.1 (List.mem_map.mpr ⟨s', hs', heq.trans hkind.symm⟩)
      rw [List.find?_cons_of_pos (by simpa using hkind),
        List.filter_cons_of_pos (by simpa using hkind), hnone]
      rfl
    · rw [List.find?_cons_of_neg (by simpa using hkind),
        List.filter_cons_of_neg (by simpa using hkind), ih]

theorem perm_filter_kind (settings : List Setting) :
    (settings.filter (fun s => s.kind = .fill) ++ settings.filter (fun s => s.kind = .border) ++
      settings.filter fun s => s.kind = .width).Perm settings := by
  refine List.perm_iff_count.mpr fun s => ?_
  have hother : ∀ kind : Kind, s.kind ≠ kind →
      (settings.filter fun s => s.kind = kind).count s = 0 := fun kind hne =>
    List.count_eq_zero.mpr fun hmem => hne (by simpa using (List.mem_filter.mp hmem).2)
  rw [List.count_append, List.count_append]
  cases hkind : s.kind with
  | fill =>
    rw [hother .border (by simp [hkind]), hother .width (by simp [hkind]),
      List.count_filter (by simpa using hkind), Nat.add_zero]
  | border =>
    rw [hother .fill (by simp [hkind]), hother .width (by simp [hkind]),
      List.count_filter (by simpa using hkind), Nat.zero_add, Nat.add_zero]
  | width =>
    rw [hother .fill (by simp [hkind]), hother .border (by simp [hkind]),
      List.count_filter (by simpa using hkind), Nat.zero_add]

/-- The number of the first width. -/
def number? (settings : List Setting) : Option Nat :=
  (value? .width settings).map fun value => Nat.ofDigitChars 10 value 0

theorem read_eq_first {settings : List Setting} {t : Text} (h : IsWritten settings t) :
    read t = .ok ⟨value? .fill settings, value? .border settings, number? settings⟩ := by
  have hfill : setting? "fill" isColourChar t = value? .fill settings :=
    setting?_of_isWritten .fill h
  have hborder : setting? "border" isColourChar t = value? .border settings :=
    setting?_of_isWritten .border h
  have hwidth : setting? "width" isDecimalDigit t = value? .width settings :=
    setting?_of_isWritten .width h
  rw [read, hfill, hborder, hwidth, number?]
  cases hfound : settings.find? (fun s => s.kind = .width) with
  | none => simp [value?, hfound]
  | some s =>
    have hkind : s.kind = .width := by simpa using List.find?_some hfound
    have hadmits := (h.isFormed s (List.mem_of_find?_eq_some hfound)).admits
    rw [hkind] at hadmits
    have hvalue : value? .width settings = some s.value := by rw [value?, hfound]; rfl
    simp [hvalue, ofDigits_of_admits hadmits, Except.map]

/-- The fields of a style that has the first value of each kind. -/
theorem fields_first (settings : List Setting) :
    (Style.mk (value? .fill settings) (value? .border settings) (number? settings)).fields =
      ((settings.find? fun s => s.kind = .fill).toList ++
        (settings.find? fun s => s.kind = .border).toList ++
        (settings.find? fun s => s.kind = .width).toList).map Setting.field := by
  have hfield : ∀ kind : Kind, ∀ s ∈ settings.find? (fun s => s.kind = kind), s.kind = kind :=
    fun kind s hs => by simpa using List.find?_some hs
  rw [Style.fields, List.map_append, List.map_append, number?, value?, value?, value?]
  congr 1
  · congr 1
    · cases hfound : settings.find? (fun s => s.kind = .fill) with
      | none => rfl
      | some s => simp [Setting.field, hfield .fill s hfound, Json.textField]
    · cases hfound : settings.find? (fun s => s.kind = .border) with
      | none => rfl
      | some s => simp [Setting.field, hfield .border s hfound, Json.textField]
  · cases hfound : settings.find? (fun s => s.kind = .width) with
    | none => rfl
    | some s => simp [Setting.field, hfield .width s hfound, Json.intField]

/-- **The order of the settings does not matter.**  Where no two settings are of one kind, the
fields that are read are those of the settings, and no others. -/
theorem read_isWritten {settings : List Setting} {t : Text} (h : IsWritten settings t)
    (hkinds : (settings.map (·.kind)).Nodup) :
    ∃ style, read t = .ok style ∧ style.fields.Perm (settings.map Setting.field) := by
  refine ⟨_, read_eq_first h, ?_⟩
  rw [fields_first, toList_find?_kind .fill hkinds, toList_find?_kind .border hkinds,
    toList_find?_kind .width hkinds]
  exact (perm_filter_kind settings).map Setting.field

/-- A border that is called like another setting, and a colour with the name of a border. -/
theorem read_misleading_values :
    ∃ style, read "border:\twidth width:0042  fill: \n#border" = .ok style ∧
      style.fields.Perm [("stroke", .str "width"), ("strokeWidth", .int 42),
        ("fill", .str "#border")] :=
  have hfill : IsWritten [⟨.fill, " \n", "#border"⟩] "fill: \n#border" :=
    .one (by decide +kernel)
  have hwidth : IsWritten [⟨.width, "", "0042"⟩, ⟨.fill, " \n", "#border"⟩]
      "width:0042  fill: \n#border" :=
    .cons (by decide +kernel) (by decide : ("  " : Text) ≠ []) (List.all_eq_true.mp (by decide))
      hfill
  have hborder : IsWritten
      [⟨.border, "\t", "width"⟩, ⟨.width, "", "0042"⟩, ⟨.fill, " \n", "#border"⟩]
      "border:\twidth width:0042  fill: \n#border" :=
    .cons (by decide +kernel) (by decide : (" " : Text) ≠ []) (List.all_eq_true.mp (by decide))
      hwidth
  read_isWritten hborder (by decide)

end Style

end GraphSketch
