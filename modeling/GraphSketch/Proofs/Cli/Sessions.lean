import GraphSketch.Proofs.Cli.Convert
import GraphSketch.Proofs.Sketch.Strict
import Mathlib.Data.List.Chain

/-!
# Runs that share a numbering

When several runs of the program keep their numbering in one file, each begins with the numbering
that the one before has left.  So it is as if one session had compiled all their sketches.

* `KeptRun` is a run that ends well, and `KeptRun.Continues` relates it to the next one.
* `KeptRun.Follows` — a run has written what a session makes of its sketch, and has left the
  numbering of the session.
* `KeptRun.follows` — a run follows any session with the numbering that it loads.
* `KeptRun.followAll_start` — runs that share a numbering follow one session.
-/

set_option autoImplicit false

namespace GraphSketch

namespace Session

/-! ## Sessions -/

@[simp] theorem settings_compile (session : Session) (t : Text) :
    (session.compile t).2.settings = session.settings := by
  unfold compile
  split <;> rfl

@[simp] theorem numbering_compile (session : Session) (t : Text) :
    (session.compile t).2.numbering =
      (Sketch.compile session.settings session.numbering t).2 := by
  unfold compile
  split <;> simp_all

/-- A session that can go on after its numbering has been saved and loaded. -/
structure Lasts (session : Session) : Prop where
  sound : session.numbering.Sound
  positive : 0 < session.numbering.next

theorem lasts_start (settings : Settings) : (start settings Numbering.empty).Lasts :=
  ⟨Numbering.empty_sound, Int.one_pos⟩

theorem Lasts.compile {session : Session} (h : session.Lasts) (t : Text) :
    (session.compile t).2.Lasts := by
  constructor
  · rw [numbering_compile]
    exact Sketch.compile_sound h.sound session.settings t
  · rw [numbering_compile]
    exact Int.lt_of_lt_of_le h.positive (Sketch.compile_grows h.sound session.settings t).next_le

end Session

namespace Convert

/-! ## One run -/

/-- A run of the program on one sketch that keeps its numbering in a file and ends well. -/
structure KeptRun where
  commandLine : List Text
  arguments : Arguments
  /-- The file of the numbering. -/
  ids : Path
  /-- The files before the run. -/
  before : FileTree
  /-- The text of the sketch. -/
  text : Text
  reads : grammar.read commandLine = .ok arguments
  isSingle : (optionsOf arguments).batch = false
  hasIds : (optionsOf arguments).ids = .named ids
  goesOn : (optionsOf arguments).clearIds = false
  /-- The document does not go to the file of the numbering. -/
  isApart : (optionsOf arguments).outputPath?.map Path.location ≠ some ids.location
  hasText : before.read (optionsOf arguments).input = .ok text
  endsWell : (run commandLine before).exit = 0

namespace KeptRun

/-- The options of a run. -/
def options (r : KeptRun) : ConvertOptions := optionsOf r.arguments

/-- The files after a run. -/
def after (r : KeptRun) : FileTree := (run r.commandLine r.before).tree

/-- The next run finds the numbering as this one has left it.  Other files may have changed. -/
def Continues (r next : KeptRun) : Prop := next.before.find? next.ids = r.after.find? r.ids

/-- A run has done what a session does with its sketch. -/
structure Follows (r : KeptRun) (session : Session) : Prop where
  /-- The document that was written shows the diagram. -/
  document : ∃ diagram, (session.compile r.text).1 = .ok diagram ∧
    ∃ output written, r.options.outputPath? = some output ∧
      Holds r.after output (.obj written) ∧
      Shows r.options.input.stem (r.options.requests diagram) diagram written
  /-- The numbering in the file is that of the session. -/
  numbering : Returns (loadNumbering r.options) r.after (session.compile r.text).2.numbering r.after

/-- Runs do, one after the other, what a session does with their sketches. -/
def FollowAll : Session → List KeptRun → Prop
  | _, [] => True
  | session, r :: rs => r.Follows session ∧ FollowAll (session.compile r.text).2 rs

variable (r : KeptRun) {session : Session}

theorem exists_returns : ∃ diagram, Returns (single r.options) r.before diagram r.after :=
  exists_returns_single r.reads r.isSingle r.endsWell

/-- **A run follows a session** if the numbering of the session is the one that it loads. -/
theorem follows (hsettings : session.settings = ⟨true, r.options.strict⟩) (h : session.Lasts)
    (hload : Returns (loadNumbering r.options) r.before session.numbering r.before) :
    r.Follows session ∧
      Holds r.after r.ids (session.compile r.text).2.numbering.toJson := by
  have hids : r.options.ids = .named r.ids := r.hasIds
  have hapart : ∀ output, r.options.outputPath? = some output →
      output.location ≠ r.ids.location := fun output houtput heq =>
    r.isApart (by rw [← options, houtput, Option.map_some, heq])
  obtain ⟨diagram, hsingle⟩ := r.exists_returns
  obtain ⟨text, later, htext, hcompile, hdocument, hsaved⟩ :=
    of_returns_single hids hapart h.sound hload hsingle
  obtain rfl : r.text = text := Except.ok.inj (r.hasText.symm.trans htext)
  rw [← hsettings] at hcompile
  have hcompiled := Session.compile_of_ok session hcompile
  have hlater := h.compile r.text
  rw [hcompiled] at hlater
  refine ⟨⟨⟨diagram, by rw [hcompiled], hdocument⟩, ?_⟩, ?_⟩ <;> rw [hcompiled]
  · exact returns_loadNumbering hids r.goesOn hlater.sound hlater.positive hsaved
  · exact hsaved

/-! ## Several runs -/

theorem followAll {strict : Bool} : ∀ {rs : List KeptRun} {session : Session},
    session.settings = ⟨true, strict⟩ → session.Lasts →
    (∀ r ∈ rs.head?, Returns (loadNumbering r.options) r.before session.numbering r.before) →
    (∀ r ∈ rs, r.options.strict = strict) → rs.IsChain Continues → FollowAll session rs
  | [], _, _, _, _, _, _ => trivial
  | r :: rs, session, hsettings, h, hload, hstrict, hchain => by
    have hown : session.settings = ⟨true, r.options.strict⟩ := by
      rw [hsettings, hstrict r List.mem_cons_self]
    obtain ⟨hcontinues, htail⟩ := List.isChain_cons.mp hchain
    obtain ⟨hfollows, hsaved⟩ := r.follows hown h (hload r rfl)
    have hlater := h.compile r.text
    refine ⟨hfollows, followAll (by rw [Session.settings_compile, hsettings]) hlater
      (fun next hnext => ?_) (fun other hother => hstrict other (List.mem_cons_of_mem r hother))
      htail⟩
    -- the next run loads what this one has saved
    exact returns_loadNumbering next.hasIds next.goesOn hlater.sound hlater.positive
      (hsaved.of_find?_eq (hcontinues next hnext))

/-- **Runs that share a numbering follow one session** that begins without labels, whatever else
happens to the files between them. -/
theorem followAll_start {strict : Bool} {rs : List KeptRun}
    (hfirst : ∀ r ∈ rs.head?, r.before.find? r.ids = .ok none)
    (hstrict : ∀ r ∈ rs, r.options.strict = strict) (hchain : rs.IsChain Continues) :
    FollowAll (Session.start ⟨true, strict⟩ Numbering.empty) rs :=
  followAll rfl (Session.lasts_start _)
    (fun r hr => returns_loadNumbering_of_none r.hasIds r.goesOn (hfirst r hr)) hstrict hchain

/-- A run on a sketch with two labels, of which it renames one; another one to rename is missing. -/
def renamingRun : KeptRun where
  commandLine := ["a.sketch", "--ids", "ids.json", "--run-commands"]
  arguments := ⟨[(.value ["--ids"], some "ids.json"), (.flag ["--run-commands"], none)],
    ["a.sketch"]⟩
  ids := ⟨[], ["ids.json"]⟩
  before := ⟨[], [(["a.sketch"], "A\nB\n=rename(B, C)\n=rename(D, E)")]⟩
  text := "A\nB\n=rename(B, C)\n=rename(D, E)"
  reads := rfl
  isSingle := by decide +kernel
  hasIds := by decide +kernel
  goesOn := by decide +kernel
  isApart := by decide +kernel
  hasText := by decide +kernel
  endsWell := by decide +kernel

/-- A run after it, on a sketch that refers to the second label. -/
def referringRun : KeptRun where
  commandLine := ["b.sketch", "--ids", "ids.json"]
  arguments := ⟨[(.value ["--ids"], some "ids.json")], ["b.sketch"]⟩
  ids := ⟨[], ["ids.json"]⟩
  before := ⟨[], renamingRun.after.files.put ["b.sketch"] ":2 -> C"⟩
  text := ":2 -> C"
  reads := rfl
  isSingle := by decide +kernel
  hasIds := by decide +kernel
  goesOn := by decide +kernel
  isApart := by decide +kernel
  hasText := by decide +kernel
  endsWell := by decide +kernel

/-- The second run draws an edge from the label of the first one. -/
theorem followAll_start_of_reference :
    (∀ r ∈ [renamingRun, referringRun].head?, r.before.find? r.ids = .ok none) ∧
      (∀ r ∈ [renamingRun, referringRun], r.options.strict = false) ∧
      [renamingRun, referringRun].IsChain Continues ∧
      FollowAll (Session.start ⟨true, false⟩ Numbering.empty) [renamingRun, referringRun] := by
  have hfirst : ∀ r ∈ [renamingRun, referringRun].head?, r.before.find? r.ids = .ok none := by
    rintro _ ⟨⟩
    decide +kernel
  have hstrict : ∀ r ∈ [renamingRun, referringRun], r.options.strict = false := by
    simp only [List.forall_mem_cons]
    decide +kernel
  have hchain : [renamingRun, referringRun].IsChain Continues := by
    rw [List.isChain_pair, Continues]
    decide +kernel
  exact ⟨hfirst, hstrict, hchain, followAll_start hfirst hstrict hchain⟩

/-- What was written need not be what the sketch says: a command may have renamed a node, and may
have failed. -/
theorem exists_document_ne_of_renaming :
    renamingRun.before.find? renamingRun.ids = .ok none ∧ renamingRun.options.strict = false ∧
      ∃ diagram written,
        ((Session.start ⟨true, false⟩ Numbering.empty).compile renamingRun.text).1 = .ok diagram ∧
        Holds renamingRun.after ⟨[], ["a.json"]⟩ (.obj written) ∧
        (∀ key ∈ ["nodes".toList, "warnings".toList],
          OrderedMap.get? written key ≠ (Document.ofDiagram "a" none diagram).get? key) := by
  let diagram : Diagram := {
    nodes := [⟨"A", 1, .rectangle, 0⟩, ⟨"B", 2, .rectangle, 1⟩]
    edges := []
    commands := [⟨.rename "B" "C", "=rename(B, C)", 3⟩, ⟨.rename "D" "E", "=rename(D, E)", 4⟩]
    errors := []
    warnings := [] }
  let missing : Action := .error (.notFound "D")
  let renamed := (Document.ofDiagram "a" none diagram).setNode "B" [Json.textField "label" "C"]
  let written : Document := (renamed.apply missing).put "actions"
    (.arr [(Action.rename "B" "C").toJson, missing.toJson])
  have hrenamed : renamed.Fits :=
    Document.fits_setNode (Document.fits_ofDiagram _ _ _) "B" (by simp [Json.textField])
  have hfits : written.Fits :=
    Document.fits_put_actions (Document.fits_apply hrenamed missing) "actions"
      [.rename "B" "C", missing]
  have hread :
      Json.read (Sketch.unifyLineEnds (Json.pretty (.obj written))) = .ok (.obj written) := by
    rw [Sketch.unifyLineEnds_of_notMem (Json.return_notMem_pretty hfits)]
    exact Json.read_pretty (hfits.mono (by decide)) (by decide +kernel)
  have hne : ∀ key ∈ ["nodes".toList, "warnings".toList],
      (OrderedMap.get? written key).map Json.pretty ≠
        ((Document.ofDiagram "a" none diagram).get? key).map Json.pretty := by decide +kernel
  exact ⟨by decide +kernel, by decide +kernel, diagram, written, by decide +kernel,
    ⟨Json.pretty (.obj written), by decide +kernel, hread⟩,
    fun key hkey h => hne key hkey (congrArg (Option.map Json.pretty) h)⟩

end KeptRun

end Convert

end GraphSketch
