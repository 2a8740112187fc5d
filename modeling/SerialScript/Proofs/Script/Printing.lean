import SerialScript.Proofs.Script.Layout
import SerialScript.Proofs.Session.Framing
import SerialScript.Script.Printer

/-!
Printing and reading. A printed line is tidy: it has no end of a line within, nor a carriage return
that would go with the line feed behind it, so reading cuts a printed script just where printing has
joined it. What is read is what was printed, and what was read can be printed and read again.
-/

namespace SerialScript

namespace Text

instance (word : List Char) : Decidable (IsWord word) :=
  decidable_of_iff (word.isEmpty = false ∧ (word.all fun c => !isBlank c) = true) (by simp [IsWord])

theorem isBlank_space : isBlank ' ' = true := by decide

theorem words_of_isWord {word : List Char} (h : IsWord word) : words word = [word] := by
  have hspaced := words_append h.2 h.1 isBlank_space []
  have hblank : Blank [' '] := by decide
  rw [words_append_blanks word hblank] at hspaced
  exact hspaced

/-- Words that are joined by single spaces are told apart again. -/
theorem words_intercalate {texts : List (List Char)} (h : ∀ word ∈ texts, IsWord word) :
    words ([' '].intercalate texts) = texts := by
  induction texts with
  | nil => rfl
  | cons word later ih =>
    obtain ⟨hword, hlater⟩ := List.forall_mem_cons.1 h
    cases later with
    | nil =>
      rw [List.intercalate_singleton]
      exact words_of_isWord hword
    | cons next rest =>
      rw [List.intercalate_cons_cons, List.append_assoc, List.singleton_append,
        words_append hword.2 hword.1 isBlank_space, ih hlater]

end Text

namespace Script

open Text (IsWord Tidy)

/-- A directive as it can be written: none of its arguments is empty or has a blank in it. -/
def Writable (directive : Keyword × List String) : Prop :=
  ∀ word ∈ directive.2, IsWord word.toList

instance (directive : Keyword × List String) : Decidable (Writable directive) :=
  inferInstanceAs (Decidable (∀ word ∈ directive.2, IsWord word.toList))

section PrintedLine

variable {k : Keyword} {arguments : List String}

theorem isWord_spelling (k : Keyword) : IsWord k.spelling.toList := by
  cases k <;> decide

theorem isWord_of_writable (h : Writable (k, arguments)) :
    ∀ word ∈ (k.spelling :: arguments).map String.toList, IsWord word := by
  rw [List.map_cons, List.forall_mem_cons]
  constructor
  · exact isWord_spelling k
  · intro word hword
    obtain ⟨argument, hargument, rfl⟩ := List.mem_map.1 hword
    exact h argument hargument

theorem toList_printLine (k : Keyword) (arguments : List String) :
    (printLine k arguments).toList =
      [' '].intercalate ((k.spelling :: arguments).map String.toList) := by
  unfold printLine
  rw [String.toList_intercalate]
  rfl

theorem tidy_printLine (h : Writable (k, arguments)) : Tidy (printLine k arguments).toList := by
  rw [toList_printLine]
  exact Text.tidy_intercalate (List.cons_ne_nil _ _) (isWord_of_writable h)

theorem split_printLine (h : Writable (k, arguments)) (number : Nat) :
    Line.split ⟨number, printLine k arguments⟩ = (k.spelling, arguments) := by
  have hwords : Text.tokens (printLine k arguments) = k.spelling :: arguments := by
    unfold Text.tokens
    rw [toList_printLine, Text.words_intercalate (isWord_of_writable h), List.map_map]
    simp
  unfold Line.split
  rw [hwords]

theorem verdict_of_keyword? {line : Line} (h : line.keyword? = some k) :
    verdict line = .accept := by
  have hopens := (line.keyword?_eq_some_iff k).1 h
  exact (verdict_eq_accept_iff line).2 ⟨speaks_of_opensWith hopens, k, hopens⟩

theorem verdict_printLine (h : Writable (k, arguments)) (number : Nat) :
    verdict ⟨number, printLine k arguments⟩ = .accept := by
  apply verdict_of_keyword? (k := k)
  unfold Line.keyword?
  rw [split_printLine h]
  exact Keyword.ofSpelling?_spelling k

end PrintedLine

section Cutting

variable {line : List Char}

theorem splitOn_line (h : '\n' ∉ line) (rest : List Char) :
    (line ++ '\n' :: rest).splitOn '\n' = line :: rest.splitOn '\n' := by
  rw [List.splitOn_append_cons_self, List.splitOn_eq_singleton h]
  rfl

theorem notMem_of_tidy (h : Tidy line) : '\n' ∉ line := by
  intro hmem
  exact absurd (h.space '\n' hmem (by decide)) (by decide)

theorem dropReturn_of_tidy (h : Tidy line) : dropReturn line = line := by
  unfold dropReturn
  apply if_neg
  intro hlast
  have hword : Text.isBlank '\r' = false := h.last '\r' hlast
  exact absurd hword (by decide)

/-- Either end of a line is taken away whole. -/
theorem dropReturns_ended (h : Tidy line) (newline : Newline) (rest : List Char) :
    dropReturns ((line ++ newline.text.toList ++ rest).splitOn '\n') =
      line :: dropReturns (rest.splitOn '\n') := by
  have hline : '\n' ∉ line := notMem_of_tidy h
  have hrest : rest.splitOn '\n' ≠ [] := List.splitOn_ne_nil _ _
  cases newline with
  | lf =>
    have hshape : line ++ Newline.lf.text.toList ++ rest = line ++ '\n' :: rest := by
      simp [Newline.text]
    rw [hshape, splitOn_line hline, dropReturns_cons _ hrest, dropReturn_of_tidy h]
  | crlf =>
    have hshape : line ++ Newline.crlf.text.toList ++ rest = (line ++ ['\r']) ++ '\n' :: rest := by
      simp [Newline.text]
    -- The return stays with its line at the cut, and goes as the last character of the segment.
    have hreturned : '\n' ∉ line ++ ['\r'] := by simp [hline]
    have hdropped : dropReturn (line ++ ['\r']) = line := by simp [dropReturn]
    rw [hshape, splitOn_line hreturned, dropReturns_cons _ hrest, hdropped]

/-- The lines of a printed script: what was printed, and an empty one if nothing was or if the last
line has an end. -/
theorem dropReturns_print (newline : Nat → Newline) (ended : Bool)
    {lines : List (Keyword × List String)} (h : ∀ directive ∈ lines, Writable directive) :
    dropReturns ((print newline ended lines).toList.splitOn '\n') =
      lines.map (fun directive => (printLine directive.1 directive.2).toList) ++
        if lines = [] ∨ ended then [[]] else [] := by
  fun_induction print newline ended lines with
  | case1 => rfl
  | case2 newline line =>
    have hline := tidy_printLine (h line (List.mem_singleton_self _))
    cases ended with
    | false =>
      rw [if_neg Bool.false_ne_true, String.append_empty, List.splitOn_eq_singleton
        (notMem_of_tidy hline)]
      rfl
    | true =>
      have hnothing : dropReturns (List.splitOn '\n' []) = [[]] := rfl
      have hended := dropReturns_ended hline (newline 0) []
      rw [List.append_nil, hnothing] at hended
      rw [if_pos rfl, String.toList_append, hended]
      rfl
  | case3 newline line next later ih =>
    obtain ⟨hfirst, hlater⟩ := List.forall_mem_cons.1 h
    have hline := tidy_printLine hfirst
    rw [String.toList_append, String.toList_append, dropReturns_ended hline, ih hlater]
    simp

end Cutting

section Reading

variable {newline : Nat → Newline} {ended : Bool} {lines : List (Keyword × List String)}

def lineAt (directive : (Keyword × List String) × Nat) : Line :=
  ⟨directive.2, printLine directive.1.1 directive.1.2⟩

theorem numberedLines_print (h : ∀ directive ∈ lines, Writable directive) :
    ∃ last, numberedLines (print newline ended lines) = (lines.zipIdx 1).map lineAt ++ last ∧
      ∀ line ∈ last, verdict line = .passOver := by
  rw [numberedLines_eq_segments]
  unfold segments
  rw [dropReturns_print newline ended h, List.zipIdx_append, List.map_append, List.zipIdx_map,
    List.map_map]
  refine ⟨_, congrArg (· ++ _) (List.map_congr_left ?_), ?_⟩
  · intro directive _
    simp [lineAt]
  · by_cases hlast : lines = [] ∨ ended
    · simp [hlast, verdict]
    · simp [hlast]

theorem verdict_lineAt (h : ∀ directive ∈ lines, Writable directive) {line : Line}
    (hline : line ∈ (lines.zipIdx 1).map lineAt) : verdict line = .accept := by
  obtain ⟨⟨directive, number⟩, hmem, rfl⟩ := List.mem_map.1 hline
  exact verdict_printLine (h directive (List.fst_mem_of_mem_zipIdx hmem)) number

theorem accepted_print (h : ∀ directive ∈ lines, Writable directive) :
    accepted (print newline ended lines) = (lines.zipIdx 1).map lineAt := by
  obtain ⟨last, hlines, hlast⟩ := numberedLines_print h
  unfold accepted
  have hprinted : ((lines.zipIdx 1).map lineAt).filter (verdict · = .accept) =
      (lines.zipIdx 1).map lineAt :=
    List.filter_eq_self.2 fun line hline => decide_eq_true (verdict_lineAt h hline)
  have hnone : last.filter (verdict · = .accept) = [] :=
    List.filter_eq_nil_iff.2 fun line hline => by simp [hlast line hline]
  rw [hlines, List.filter_append, hprinted, hnone, List.append_nil]

theorem unknown_print (h : ∀ directive ∈ lines, Writable directive) :
    unknown (print newline ended lines) = [] := by
  obtain ⟨last, hlines, hlast⟩ := numberedLines_print h
  unfold unknown
  rw [hlines, List.filter_eq_nil_iff]
  intro line hline
  rcases List.mem_append.1 hline with hline | hline
  · simp [verdict_lineAt h hline]
  · simp [hlast line hline]

/-- A script that is read as these directives: they are its lines, numbered from 1, and nothing is
reported as unknown. -/
structure ReadsAs (script : String) (lines : List (Keyword × List String)) : Prop where
  splits : (accepted script).map Line.split = lines.map fun line => (line.1.spelling, line.2)
  numbers : (accepted script).map Line.number = List.range' 1 lines.length
  silent : ∀ e ∈ readingEvents script, e.level ≠ .warn

theorem readsAs_print (newline : Nat → Newline) (ended : Bool)
    (h : ∀ directive ∈ lines, Writable directive) :
    ReadsAs (print newline ended lines) lines where
  splits := by
    have hsplit : ∀ directive ∈ lines.zipIdx 1,
        (lineAt directive).split = (directive.1.1.spelling, directive.1.2) := by
      intro directive hmem
      exact split_printLine (h directive.1 (List.fst_mem_of_mem_zipIdx hmem)) directive.2
    rw [accepted_print h, List.map_map]
    conv_rhs => rw [← List.zipIdx_map_fst 1 lines, List.map_map]
    exact List.map_congr_left hsplit
  numbers := by
    rw [accepted_print h, List.map_map]
    exact List.zipIdx_map_snd 1 lines
  silent := by
    unfold readingEvents
    rw [unknown_print h]
    simp

/-- What the accepted lines of a script ask for. -/
def asked (script : String) : List (Keyword × List String) :=
  (accepted script).filterMap fun line => line.keyword?.map fun k => (k, line.arguments)

theorem splits_asked (script : String) :
    (asked script).map (fun directive => (directive.1.spelling, directive.2)) =
      (accepted script).map Line.split := by
  unfold asked
  rw [List.map_filterMap, ← List.filterMap_eq_map]
  apply List.filterMap_congr
  intro line hline
  obtain ⟨k, hk⟩ := exists_keyword_of_mem_accepted hline
  have hspelling : k.spelling = line.split.1 := Keyword.spelling_of_ofSpelling? hk
  rw [hk]
  simp [hspelling, Line.arguments]

theorem writable_of_mem_asked {script : String} {directive : Keyword × List String}
    (h : directive ∈ asked script) : Writable directive := by
  obtain ⟨line, -, hline⟩ := List.mem_filterMap.1 h
  obtain ⟨k, -, rfl⟩ := Option.map_eq_some_iff.1 hline
  intro word hword
  exact Line.isWord_of_mem_arguments hword

/-- Printing and reading undo each other, however the lines are ended: what is printed is read, line
by line and without a warning, and what is read of a script is read again when it is printed. -/
theorem printing_reads_back (newline : Nat → Newline) (ended : Bool) :
    (∀ lines : List (Keyword × List String), (∀ directive ∈ lines, Writable directive) →
      ReadsAs (print newline ended lines) lines) ∧
    ∀ script : String,
      let again := print newline ended (asked script)
      (accepted again).map Line.split = (accepted script).map Line.split ∧
        (accepted again).map Line.number = List.range' 1 (accepted script).length := by
  constructor
  · intro lines h
    exact readsAs_print newline ended h
  · intro script again
    have hreads : ReadsAs again (asked script) :=
      readsAs_print newline ended fun _ => writable_of_mem_asked
    have hlength : (asked script).length = (accepted script).length := by
      simpa using congrArg List.length (splits_asked script)
    constructor
    · exact hreads.splits.trans (splits_asked script)
    · rw [hreads.numbers, hlength]

end Reading

def motley : List (Keyword × List String) := [(.cmd, ["#AT", "né"]), (.eol, []), (.res, ["OK"])]

def alternating (i : Nat) : Newline := if i % 2 = 0 then .crlf else .lf

theorem printing_reads_back_of_motley :
    (∀ directive ∈ motley, Writable directive) ∧
      print alternating true motley = "CMD #AT né\r\nEOL\nRES OK\r\n" ∧
      ReadsAs (print alternating true motley) motley ∧
      print alternating true (asked mixedEnds) = "CMD a\r\nCMD c\nRES d\r\n" ∧
      (accepted (print alternating true (asked mixedEnds))).map Line.number = [1, 2, 3] := by
  obtain ⟨hreads, hagain⟩ := printing_reads_back alternating true
  have hwritable : ∀ directive ∈ motley, Writable directive := by decide
  obtain ⟨-, hnumbers⟩ := hagain mixedEnds
  have hcount : (accepted mixedEnds).length = 3 := by decide +kernel
  rw [hcount] at hnumbers
  exact ⟨hwritable, by decide +kernel, hreads motley hwritable, by decide +kernel, hnumbers⟩

end Script

end SerialScript
