import SerialScript.Proofs.Session.FailFast
import SerialScript.Proofs.Session.Transcript
import SerialScript.Proofs.Text.Framing

namespace SerialScript

namespace Line

def said? (line : Line) : Option String :=
  match line.keyword? with
  | some .cmd => some (" ".intercalate line.arguments)
  | some .eol => some ""
  | _ => none

theorem sent_eq (eol : Eol) (line : Line) :
    line.sent eol = line.said?.toList.map fun text => Text.toBytes text ++ eol.bytes := by
  unfold sent said?
  rcases line.keyword? with _ | (_ | _ | _ | _ | _ | _ | _ | _ | _) <;> rfl

theorem isWord_of_mem_arguments {line : Line} {word : String} (h : word ∈ line.arguments) :
    Text.IsWord word.toList := by
  unfold arguments split Text.tokens at h
  cases hwords : Text.words line.text.toList with
  | nil =>
    rw [hwords] at h
    cases h
  | cons first later =>
    rw [hwords] at h
    obtain ⟨chars, hchars, rfl⟩ := List.mem_map.1 h
    rw [String.toList_ofList]
    exact Text.isWord_of_mem_words (hwords ▸ List.mem_cons_of_mem first hchars)

theorem tidy_arguments {line : Line} (h : line.arguments ≠ []) :
    Text.Tidy (" ".intercalate line.arguments).toList := by
  rw [String.toList_intercalate]
  apply Text.tidy_intercalate
  · exact fun hnone => h (List.map_eq_nil_iff.1 hnone)
  · intro chars hchars
    obtain ⟨word, hword, rfl⟩ := List.mem_map.1 hchars
    exact isWord_of_mem_arguments hword

/-- Nothing that a line says has a byte of an end of line. -/
theorem notMem_of_said? {line : Line} {text : String} (h : line.said? = some text) :
    0x0D ∉ Text.toBytes text ∧ 0x0A ∉ Text.toBytes text := by
  unfold said? at h
  split at h
  · cases h
    apply Text.notMem_bytes_of_space
    by_cases hnone : line.arguments = []
    · simp [hnone]
    · exact (tidy_arguments hnone).space
  · cases h
    exact ⟨List.not_mem_nil, List.not_mem_nil⟩
  · cases h

theorem eol?_of_ne {line : Line} (h : line.keyword? ≠ some .cfgEol) : line.eol? = none := if_neg h

end Line

theorem transcriptFrom_of_ne {lines : List Line} (h : ∀ line ∈ lines, line.keyword? ≠ some .cfgEol)
    (eol : Eol) : transcriptFrom eol lines = lines.flatMap (Line.sent eol) := by
  induction lines with
  | nil => rfl
  | cons line later ih =>
    obtain ⟨hline, hlater⟩ := List.forall_mem_cons.1 h
    rw [transcriptFrom, Line.eol?_of_ne hline, Option.getD_none, ih hlater, List.flatMap_cons]

/-- What lines send, as one stream. -/
theorem flatten_sent (eol : Eol) (lines : List Line) :
    (lines.flatMap (Line.sent eol)).flatten =
      ((lines.filterMap Line.said?).map Text.toBytes).flatMap fun text => text ++ eol.bytes := by
  induction lines with
  | nil => rfl
  | cons line later ih =>
    rw [List.flatMap_cons, List.flatten_append, ih, Line.sent_eq]
    cases hsaid : line.said? with
    | none => rw [List.filterMap_cons_none hsaid]; rfl
    | some text =>
      rw [List.filterMap_cons_some hsaid, List.map_cons, List.flatMap_cons]
      congr 1
      exact List.append_nil _

theorem piecesBy_sent (eol : Eol) (lines : List Line) :
    Text.piecesBy eol.bytes (lines.flatMap (Line.sent eol)).flatten =
      (lines.filterMap Line.said?).map Text.toBytes ++ [[]] := by
  have hclean : ∀ text ∈ (lines.filterMap Line.said?).map Text.toBytes,
      0x0D ∉ text ∧ 0x0A ∉ text := by
    intro text htext
    obtain ⟨said, hsaid, rfl⟩ := List.mem_map.1 htext
    obtain ⟨line, -, hline⟩ := List.mem_filterMap.1 hsaid
    exact Line.notMem_of_said? hline
  rw [flatten_sent]
  -- A convention begins with one of two bytes.
  cases eol with
  | cr | crlf => exact Text.piecesBy_marked fun text htext => (hclean text htext).1
  | lf => exact Text.piecesBy_marked fun text htext => (hclean text htext).2

namespace Session

section Progress

variable {S W : Type} [Transport S W] {s s' : Session S W}

theorem Passes.split {earlier later : List Line} (h : s.Passes (earlier ++ later) s') :
    ∃ s₁, s.Passes earlier s₁ ∧ s₁.Passes later s' := by
  induction earlier generalizing s with
  | nil => exact ⟨s, .nil, h⟩
  | cons line rest ih =>
    cases h with
    | cons hline hrest =>
      obtain ⟨s₁, hearlier, hlater⟩ := ih hrest
      exact ⟨s₁, .cons hline hearlier, hlater⟩

theorem exists_passes_succeeded (lines : List Line) (s : Session S W) :
    ∃ s', s.Passes (s.succeeded lines) s' := by
  induction lines generalizing s with
  | nil => exact ⟨s, .nil⟩
  | cons line later ih =>
    rcases hline : s.runLine line with ⟨stop | _, s₁⟩
    · rw [succeeded_of_error hline]
      exact ⟨s, .nil⟩
    · rw [succeeded_of_ok hline]
      obtain ⟨s', hlater⟩ := ih s₁
      exact ⟨s', .cons hline hlater⟩

theorem arguments_of_cmd {line : Line} (hline : s.runLine line = (.ok (), s'))
    (hk : line.keyword? = some .cmd) : line.arguments ≠ [] := by
  intro hnone
  rw [runLine, hk, hnone] at hline
  cases hline

end Progress

variable {s s' : Session Memory.Stream Memory}

theorem stands_of_runLine {line : Line} (h : s.runLine line = (.ok (), s')) :
    Stands (s.writes ++ line.sent s.eol) (line.eol?.getD s.eol) s' := by
  have hline := runLine_sends s line
  rw [h] at hline
  cases hline with
  | succeeded hstands => exact hstands

theorem Passes.eol {lines : List Line} (h : s.Passes lines s') :
    s'.eol = (lines.filterMap Line.eol?).getLastD s.eol := by
  induction h with
  | nil => rfl
  | @cons s s₁ s' line later hline _ ih =>
    rw [ih, (stands_of_runLine hline).eol]
    cases hchosen : line.eol? with
    | none => rw [List.filterMap_cons_none hchosen, Option.getD_none]
    | some eol => rw [List.filterMap_cons_some hchosen, Option.getD_some, List.getLastD_cons]

theorem Passes.writes {lines : List Line} (h : s.Passes lines s') :
    s'.writes = s.writes ++ transcriptFrom s.eol lines := by
  induction h with
  | nil => exact (List.append_nil _).symm
  | @cons s s₁ s' line later hline _ ih =>
    obtain ⟨hwrites, heol⟩ := stands_of_runLine hline
    rw [ih, hwrites, heol, transcriptFrom, List.append_assoc]

structure Framed (s : Session Memory.Stream Memory) (lines : List Line) : Prop where
  getsPast : s.GetsPast lines (s.succeeded lines)
  /-- Only lines that succeed write anything. -/
  whole : ∃ s', s.Passes (s.succeeded lines) s' ∧ (s.run lines).2.writes = s'.writes
  command : ∀ before line after, s.succeeded lines = before ++ line :: after →
    line.keyword? = some .cmd →
    ∃ s₁ s₂ text, s.Passes before s₁ ∧ s₁.runLine line = (.ok (), s₂) ∧
      s₁.eol = (before.filterMap Line.eol?).getLastD s.eol ∧
      line.said? = some text ∧ Text.Tidy text.toList ∧
      0x0D ∉ Text.toBytes text ∧ 0x0A ∉ Text.toBytes text ∧
      s₂.writes = s₁.writes ++ [Text.toBytes text ++ s₁.eol.bytes]
  /-- Nothing is left behind the last end of line, so the last piece is empty. -/
  stretch : ∀ before between after, s.succeeded lines = before ++ between ++ after →
    (∀ line ∈ between, line.keyword? ≠ some .cfgEol) →
    ∃ s₁ s₂ sent, s.Passes before s₁ ∧ s₁.Passes between s₂ ∧ s₂.writes = s₁.writes ++ sent ∧
      Text.piecesBy s₁.eol.bytes sent.flatten =
        (between.filterMap Line.said?).map Text.toBytes ++ [[]]

/-- Whatever the lines hold and however the memory is set up, each command of a run is one tidy text
and the convention in force, and cutting at that gives back what the lines between two choices of it
have said. -/
theorem run_framed (s : Session Memory.Stream Memory) (lines : List Line) : s.Framed lines := by
  obtain ⟨s', hpasses⟩ := exists_passes_succeeded lines s
  refine ⟨getsPast_succeeded lines s, ⟨s', hpasses, ?_⟩, ?_, ?_⟩
  · rw [run_writes, runLines_writes, hpasses.writes]
  · intro before line after hsplit hk
    rw [hsplit] at hpasses
    obtain ⟨s₁, hbefore, hrest⟩ := hpasses.split
    cases hrest with
    | @cons _ s₂ _ _ _ hline _ =>
      have hsaid : line.said? = some (" ".intercalate line.arguments) := by rw [Line.said?, hk]
      obtain ⟨hcr, hlf⟩ := Line.notMem_of_said? hsaid
      have hwrites := (stands_of_runLine hline).writes
      rw [Line.sent_eq, hsaid] at hwrites
      exact ⟨s₁, s₂, _, hbefore, hline, hbefore.eol, hsaid,
        Line.tidy_arguments (arguments_of_cmd hline hk), hcr, hlf, hwrites⟩
  · intro before between after hsplit hsame
    rw [hsplit] at hpasses
    obtain ⟨s₂, hearlier, -⟩ := hpasses.split
    obtain ⟨s₁, hbefore, hbetween⟩ := hearlier.split
    refine ⟨s₁, s₂, _, hbefore, hbetween, hbetween.writes, ?_⟩
    rw [transcriptFrom_of_ne hsame, piecesBy_sent]

/-- The ends of line within a hand-made line are blanks like any others. -/
example :
    let s : Session Memory.Stream Memory := { bench := { world := {} } }
    let lines : List Line := [⟨1, "CONNECT p 9600"⟩, ⟨2, "CFGEOL CRLF"⟩,
      ⟨3, "CMD\r\nAT\r\n\u2028ATD 1\n"⟩, ⟨4, "\nEOL"⟩]
    (s.run lines).2.writes = [Text.toBytes "AT ATD 1\r\n", Text.toBytes "\r\n"] := by
  decide +kernel

end Session

end SerialScript
