import GraphSketch.Proofs.Mask.Scanner
import GraphSketch.Proofs.Sketch.Structure
import Mathlib.Algebra.GroupWithZero.Nat

/-!
# Taking commands out of a text

The lines of a masked text fall into commands and lines that remain.  Each command leaves as many
blank lines as it covers in the source, so what remains has all other lines as they are, and no
command is left in it or has come in.

* `extractLines_blanked` — what the lines become, one after the other.
* `extractLines_of_commandless` — where there is no command nothing changes.
* `Command.extract_takesOut` — both together, for the masked text of any source.
-/

set_option autoImplicit false

namespace GraphSketch

/-! ## Line feeds of a line -/

namespace Marked

/-- The line feeds inside the quoted spans, as they are written. -/
def innerFeeds (s : Marked) : Nat := ((s.filterMap content?).map (List.count '\n')).sum

theorem count_source_of_notMem : ∀ {s : Marked}, .char '\n' ∉ s →
    s.source.count '\n' = s.innerFeeds
  | [], _ => rfl
  | x :: s, h => by
    rw [List.mem_cons, not_or] at h
    have ih := count_source_of_notMem h.2
    rw [innerFeeds] at ih ⊢
    rw [source_cons, List.count_append, ih]
    cases x with
    | char c =>
      have hc : c ≠ '\n' := fun heq => h.1 (by rw [heq])
      simp [Symbol.source, content?, List.filterMap_cons, hc]
    | span n content => simp [Symbol.source, content?]

end Marked

namespace Command

variable {mask : Mask}

/-! ## Lines and what becomes of them -/

/-- Whether there is a command on a line does not depend on its number. -/
theorem detect_eq_none_iff {text : Text} {line : Nat} :
    detect mask text line = none ↔ Request.ofText? mask (Text.trim text) = none :=
  Option.map_eq_none_iff

/-- **Where there is no command** nothing is taken out. -/
theorem extractLines_of_commandless : ∀ (line : Nat) {texts : List Text},
    (∀ text ∈ texts, Request.ofText? mask (Text.trim text) = none) →
      extractLines mask line texts = ([], texts)
  | _, [], _ => rfl
  | line, text :: texts, h => by
    obtain ⟨htext, htexts⟩ := List.forall_mem_cons.mp h
    have ih := extractLines_of_commandless (line + 1 + innerLines mask text) htexts
    rw [extractLines, ih, detect_eq_none_iff.mpr htext]

theorem extract_of_commandless {t : Text}
    (h : ∀ text ∈ Text.lines t, Request.ofText? mask (Text.trim text) = none) :
    extract mask t = ([], t) := by
  rw [extract, extractLines_of_commandless 1 h]
  exact congrArg (Prod.mk []) (Text.join_splitOn '\n' t)

/-- What a line becomes: blank lines, as many as it covers in the source, if it is a command, and
else itself. -/
def blanked (mask : Mask) (l : LogicalLine) : List Text :=
  if (detect mask (l.masked mask) l.number).isSome then
    List.replicate (1 + l.symbols.innerFeeds) []
  else
    [l.masked mask]

theorem commandless_of_mem_blanked {l : LogicalLine} {text : Text} (h : text ∈ blanked mask l) :
    Request.ofText? mask (Text.trim text) = none := by
  rw [blanked] at h
  split at h
  · rw [List.eq_of_mem_replicate h]
    rfl
  · rename_i hd
    rw [List.mem_singleton.mp h]
    exact detect_eq_none_iff.mp (Option.not_isSome_iff_eq_none.mp hd)

/-- **What lines become**, one after the other. -/
theorem extractLines_blanked : ∀ (before : Text) {ls : List Marked}, Sketch.Restorable mask ls →
    (extractLines mask (1 + before.count '\n')
        (ls.map (Marked.masked mask.width))).2.flatMap Text.lines =
      (LogicalLine.placed before ls).flatMap (blanked mask)
  | _, [], _ => rfl
  | before, s :: ls, h => by
    have ih := extractLines_blanked (before ++ s.source ++ ['\n']) h.tail
    have hcount := Marked.count_source_of_notMem (h s List.mem_cons_self).1
    rw [Sketch.extractLines_kept h, ih, LogicalLine.placed, List.flatMap_cons, Sketch.kept, blanked,
      hcount, Nat.add_comm 1]

/-! ## The text as a whole -/

/-- What the commands of a text are, and what remains of it. -/
structure TakesOut (t : Text) (commands : List Command) (rest : Text) : Prop where
  /-- A line of the masked text ends where a line feed stands outside all spans. -/
  lines_eq : Text.lines (Mask.conceal t) = (logicalLines t).map (·.masked (Mask.ofText t))
  /-- The commands are those on its lines, in order. -/
  commands_eq : commands = (logicalLines t).filterMap fun l =>
    detect (Mask.ofText t) (l.masked (Mask.ofText t)) l.number
  increasing : (commands.map (·.line)).Pairwise (· < ·)
  /-- Each of them leaves a blank line, and one more for each line feed in its spans; all other
  lines remain. -/
  rest_eq : Text.lines rest = (logicalLines t).flatMap (blanked (Mask.ofText t))
  /-- There is no command in what remains. -/
  again_eq : extract (Mask.ofText t) rest = ([], rest)

/-- **Commands are taken out once and for all**: they are the lines that hold a command, and all
other lines stay as they are. -/
theorem extract_takesOut (t : Text) :
    TakesOut t (extract (Mask.ofText t) (Mask.conceal t)).1
      (extract (Mask.ofText t) (Mask.conceal t)).2 := by
  have hrestorable := Sketch.restorable_lines t
  have hlines : Text.lines (Mask.conceal t) =
      (Marked.ofText t).lines.map (Marked.masked (Mask.ofText t).width) :=
    Marked.lines_conceal t
  have hcommands : (extract (Mask.ofText t) (Mask.conceal t)).1 =
      (logicalLines t).filterMap fun l =>
        detect (Mask.ofText t) (l.masked (Mask.ofText t)) l.number := by
    rw [extract, hlines]
    exact Sketch.extractLines_commands [] hrestorable
  have hrest := extractLines_blanked [] hrestorable
  rw [← hlines, ← logicalLines] at hrest
  have hlinesRest := (Sketch.lines_extract (Mask.ofText t) (Mask.conceal t)).trans hrest
  refine ⟨?_, hcommands, ?_, hlinesRest, extract_of_commandless fun text htext => ?_⟩
  · rw [hlines, logicalLines, ← LogicalLine.map_symbols_placed [] (Marked.ofText t).lines,
      List.map_map, LogicalLine.map_symbols_placed]
    rfl
  · rw [List.pairwise_map, hcommands, List.pairwise_filterMap]
    refine (pairwise_number_logicalLines t).imp fun {l l'} hlt c hc c' hc' => ?_
    rw [line_of_detect hc, line_of_detect hc']
    exact hlt
  · rw [hlinesRest] at htext
    obtain ⟨l, -, hmem⟩ := List.mem_flatMap.mp htext
    exact commandless_of_mem_blanked hmem

/-- A label and an argument with a line feed, and a call that is no command. -/
example :
    let t : Text := "\"A\nB\" -> C\n=rename(\"A\nB\", D)\n=colour(red)\n@D"
    extract (Mask.ofText t) (Mask.conceal t) =
      ([Command.mk (.rename "A\nB" "D") "=rename(A\nB, D)" 3, Command.mk (.select "D" []) "@D" 6],
        ("__QUOTED_0__ -> C\n\n\n=colour(red)\n" : Text)) := by
  decide +kernel

end Command

end GraphSketch
