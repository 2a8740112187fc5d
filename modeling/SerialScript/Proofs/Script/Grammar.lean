import SerialScript.Run

namespace SerialScript

namespace Text

theorem pieces_eq_splitOn (separator : Char) (text : List Char) :
    pieces separator text = text.splitOn separator := by
  induction text with
  | nil => rfl
  | cons c rest ih =>
    rw [List.splitOn_cons_eq_if_modifyHead, ← ih]
    by_cases hc : c = separator
    · subst hc
      simp [pieces_cons_self]
    · simp [pieces, leadingPiece, hc]

/-- The first word of a text, if there is one: what follows the leading blanks, up to the next. -/
def firstWord? (text : List Char) : Option (List Char) :=
  let word := (text.dropWhile isBlank).takeWhile fun c => !isBlank c
  if word = [] then none else some word

theorem leadingWord_fst (text : List Char) :
    (leadingWord text).1 = text.takeWhile fun c => !isBlank c := by
  induction text with
  | nil => rfl
  | cons c rest ih => cases hc : isBlank c <;> simp [leadingWord, hc, ih]

theorem words_dropWhile_isBlank (text : List Char) :
    words (text.dropWhile isBlank) = words text := by
  induction text with
  | nil => rfl
  | cons c rest ih =>
    cases hc : isBlank c with
    | true => rw [List.dropWhile_cons_of_pos hc, ih, words_cons_of_isBlank hc]
    | false => rw [List.dropWhile_cons_of_neg (by simp [hc])]

theorem head?_words (text : List Char) : (words text).head? = firstWord? text := by
  rw [← words_dropWhile_isBlank]
  unfold firstWord?
  cases h : text.dropWhile isBlank with
  | nil => rfl
  | cons c rest =>
    have hc : isBlank c = false := by
      have := List.head?_dropWhile_not isBlank text
      simpa [h] using this
    simp [words, leadingWord, leadingWord_fst, hc]

end Text

namespace Script

def dropReturn (segment : List Char) : List Char :=
  if segment.getLast? = some '\r' then segment.dropLast else segment

/-- Only a segment that a line feed ends gives up its carriage return, so the last does not. -/
def dropReturns (segments : List (List Char)) : List (List Char) :=
  segments.dropLast.map dropReturn ++ segments.getLast?.toList

theorem dropReturns_cons (segment : List Char) {later : List (List Char)} (h : later ≠ []) :
    dropReturns (segment :: later) = dropReturn segment :: dropReturns later := by
  obtain ⟨next, later, rfl⟩ := List.exists_cons_of_ne_nil h
  simp [dropReturns]

theorem dropReturn_cons {c : Char} {segment : List Char} (h : c = '\r' → segment ≠ []) :
    dropReturn (c :: segment) = c :: dropReturn segment := by
  cases segment with
  | nil =>
    have hc : c ≠ '\r' := fun hc => h hc rfl
    simp [dropReturn, hc]
  | cons d segment =>
    by_cases hd : (d :: segment).getLast? = some '\r' <;> simp [dropReturn, hd]

theorem dropReturns_modifyHead {c : Char} {segments : List (List Char)}
    (h : c = '\r' → ∀ later, segments = [] :: later → later = []) :
    dropReturns (segments.modifyHead (c :: ·)) = (dropReturns segments).modifyHead (c :: ·) := by
  rcases segments with _ | ⟨segment, _ | ⟨next, later⟩⟩
  · rfl
  · rfl
  · have hsegment : c = '\r' → segment ≠ [] := by simpa using h
    rw [List.modifyHead_cons, dropReturns_cons _ (List.cons_ne_nil _ _),
      dropReturns_cons _ (List.cons_ne_nil _ _), dropReturn_cons hsegment, List.modifyHead_cons]

/-- To put the ends of lines in order and then to cut is to cut and then to put each end in order. -/
theorem splitOn_unixNewlines (text : List Char) :
    (unixNewlines text).splitOn '\n' = dropReturns (text.splitOn '\n') := by
  fun_induction unixNewlines text with
  | case1 rest ih =>
    have hne : rest.splitOn '\n' ≠ [] := List.splitOn_ne_nil _ _
    have hreturn : dropReturn ['\r'] = [] := rfl
    simp only [List.splitOn_cons_eq_if_modifyHead]
    simp [ih, dropReturns_cons _ hne, hreturn]
  | case2 c rest hnot ih =>
    rw [List.splitOn_cons_eq_if_modifyHead, List.splitOn_cons_eq_if_modifyHead, ih]
    by_cases hc : c = '\n'
    · have hne : rest.splitOn '\n' ≠ [] := List.splitOn_ne_nil _ _
      have hempty : dropReturn [] = [] := rfl
      simp [hc, dropReturns_cons _ hne, hempty]
    · -- A carriage return right before the first cut would have gone with the line feed.
      have hhead : c = '\r' → ∀ later, rest.splitOn '\n' = [] :: later → later = [] := by
        intro hr later hlater
        cases rest with
        | nil => simpa using hlater.symm
        | cons d rest =>
          have hd : d ≠ '\n' := fun hd => hnot rest hr (by rw [hd])
          obtain ⟨piece, pieces, hpieces⟩ :=
            List.exists_cons_of_ne_nil (List.splitOn_ne_nil '\n' rest)
          simp [List.splitOn_cons_eq_if_modifyHead, hd, hpieces] at hlater
      simp [hc, dropReturns_modifyHead hhead]
  | case3 => rfl

/-- The lines of a script: its segments, numbered from 1. -/
def segments (script : String) : List Line :=
  ((dropReturns (script.toList.splitOn '\n')).zipIdx 1).map fun (text, number) =>
    ⟨number, String.ofList text⟩

theorem numberedLines_eq_segments (script : String) : numberedLines script = segments script := by
  unfold numberedLines segments
  rw [Text.pieces_eq_splitOn, splitOn_unixNewlines]

theorem numbers_segments (script : String) :
    ((segments script).map Line.number).Pairwise (· < ·) := by
  unfold segments
  rw [List.map_map]
  exact (List.zipIdx_map_snd 1 _).symm ▸ List.pairwise_lt_range'

end Script

namespace Line

/-- Neither empty nor a comment. -/
def Speaks (line : Line) : Prop := line.text ≠ "" ∧ line.text.toList.head? ≠ some '#'

def OpensWith (line : Line) (k : Keyword) : Prop :=
  Text.firstWord? line.text.toList = some k.spelling.toList

instance (line : Line) : Decidable line.Speaks := inferInstanceAs (Decidable (_ ∧ _))

instance (line : Line) : Decidable (∃ k, line.OpensWith k) :=
  decidable_of_iff (∃ k ∈ Keyword.all, Text.firstWord? line.text.toList = some k.spelling.toList)
    ⟨fun ⟨k, _, hk⟩ => ⟨k, hk⟩, fun ⟨k, hk⟩ => ⟨k, k.mem_all, hk⟩⟩

theorem spelling_ne_empty (k : Keyword) : k.spelling ≠ "" := by
  cases k <;> decide

theorem split_fst (line : Line) :
    line.split.1 = ((Text.firstWord? line.text.toList).map String.ofList).getD "" := by
  rw [← Text.head?_words]
  unfold split Text.tokens
  cases Text.words line.text.toList <;> rfl

theorem keyword?_eq_some_iff (line : Line) (k : Keyword) :
    line.keyword? = some k ↔ line.OpensWith k := by
  unfold keyword? OpensWith
  rw [split_fst]
  constructor
  · intro h
    have hspelling := Keyword.spelling_of_ofSpelling? h
    cases hword : Text.firstWord? line.text.toList with
    | none =>
      rw [hword] at hspelling
      exact absurd hspelling (spelling_ne_empty k)
    | some word =>
      rw [hword] at hspelling
      simp [hspelling]
  · intro h
    simp [h, Keyword.ofSpelling?_spelling]

theorem isSome_keyword? (line : Line) : line.keyword?.isSome ↔ ∃ k, line.OpensWith k := by
  simp [Option.isSome_iff_exists, keyword?_eq_some_iff]

end Line

namespace Script

theorem verdict_of_speaks {line : Line} (h : line.Speaks) :
    verdict line = if ∃ k, line.OpensWith k then .accept else .reportUnknown := by
  obtain ⟨hne, hcomment⟩ := h
  unfold verdict
  split
  · rename_i hnil
    exact absurd (String.toList_eq_nil_iff.1 hnil) hne
  · rename_i hhash
    simp [hhash] at hcomment
  · simp [line.isSome_keyword?]

theorem verdict_of_not_speaks {line : Line} (h : ¬line.Speaks) : verdict line = .passOver := by
  unfold verdict
  split
  · rfl
  · rfl
  · rename_i hne hcomment
    refine absurd ⟨?_, ?_⟩ h
    · intro hempty
      exact hne (by simp [hempty])
    · intro hhead
      cases htext : line.text.toList with
      | nil => exact hne htext
      | cons c rest =>
        rw [htext] at hhead
        cases hhead
        exact hcomment rest htext

theorem verdict_eq_accept_iff (line : Line) :
    verdict line = .accept ↔ line.Speaks ∧ ∃ k, line.OpensWith k := by
  by_cases hs : line.Speaks
  · rw [verdict_of_speaks hs]
    simp [hs]
  · simp [verdict_of_not_speaks hs, hs]

theorem verdict_eq_reportUnknown_iff (line : Line) :
    verdict line = .reportUnknown ↔ line.Speaks ∧ ¬∃ k, line.OpensWith k := by
  by_cases hs : line.Speaks
  · rw [verdict_of_speaks hs]
    simp [hs]
  · simp [verdict_of_not_speaks hs, hs]

theorem accepted_eq (script : String) :
    accepted script =
      (segments script).filter fun line => line.Speaks ∧ ∃ k, line.OpensWith k := by
  unfold accepted
  rw [numberedLines_eq_segments]
  simp only [verdict_eq_accept_iff]

theorem unknown_eq (script : String) :
    unknown script =
      (segments script).filter fun line => line.Speaks ∧ ¬∃ k, line.OpensWith k := by
  unfold unknown
  rw [numberedLines_eq_segments]
  simp only [verdict_eq_reportUnknown_iff]

theorem exists_keyword_of_mem_accepted {script : String} {line : Line}
    (h : line ∈ accepted script) : ∃ k, line.keyword? = some k := by
  rw [accepted_eq, List.mem_filter] at h
  obtain ⟨k, hk⟩ := (of_decide_eq_true h.2).2
  exact ⟨k, (line.keyword?_eq_some_iff k).2 hk⟩

/-- A script is read line by line, each by itself: the lines that open with a keyword are accepted,
of the others those that are neither empty nor comments are reported, and nothing else is. Each
accepted line is run as what its keyword says, on whatever session. -/
theorem reading_by_segments (script : String) :
    accepted script =
        ((segments script).filter fun line => line.Speaks ∧ ∃ k, line.OpensWith k) ∧
      readingEvents script =
        (((segments script).filter fun line => line.Speaks ∧ ¬∃ k, line.OpensWith k).map
          fun line =>
            { level := .warn, origin := .reader,
              message := "Ignoring unknown command found in cmdscript: " ++ line.text }) ++
        [{ level := .debug, origin := .reader, message := "cmdscript parsed",
           fields := [("accepted", toString (accepted script).length)] }] ∧
      ((accepted script).map Line.number).Pairwise (· < ·) ∧
      ∀ line ∈ accepted script, ∃ k, readKeyword line.split.1 = .ok k ∧
        ∀ (S W : Type) [Transport S W] (s : Session S W),
          s.runLine line = (s.report
            { level := .debug, origin := .engine, message := "dispatch",
              fields := [("line", toString line.number), ("directive", k.spelling)] }).perform
            k line.arguments := by
  refine ⟨accepted_eq script, ?_, ?_, ?_⟩
  · unfold readingEvents
    rw [unknown_eq]
    rfl
  · rw [accepted_eq]
    exact (numbers_segments script).sublist (List.filter_sublist.map _)
  · intro line hline
    obtain ⟨k, hk⟩ := exists_keyword_of_mem_accepted hline
    refine ⟨k, ?_, ?_⟩
    · unfold readKeyword
      rw [show Keyword.ofSpelling? line.split.1 = some k from hk]
    · intro S W _ s
      unfold Session.runLine
      rw [hk]

def mixedEnds : String := "CMD a\r\n\r\n#CMD b\r\r\n CMD c\r\r\nPING\n\u2028\r\nRES d\r"

theorem reading_by_segments_of_mixedEnds :
    accepted mixedEnds = [⟨1, "CMD a"⟩, ⟨4, " CMD c\r"⟩, ⟨7, "RES d\r"⟩] ∧
      ⟨4, " CMD c\r"⟩ ∈ accepted mixedEnds ∧
      (readingEvents mixedEnds).length = 3 ∧
      ∃ k, readKeyword (Line.split ⟨4, " CMD c\r"⟩).1 = .ok k := by
  obtain ⟨haccepted, hevents, -, hline⟩ := reading_by_segments mixedEnds
  have hlist : accepted mixedEnds = [⟨1, "CMD a"⟩, ⟨4, " CMD c\r"⟩, ⟨7, "RES d\r"⟩] := by
    rw [haccepted]
    decide +kernel
  have hmem : ⟨4, " CMD c\r"⟩ ∈ accepted mixedEnds := by simp [hlist]
  obtain ⟨k, hk, -⟩ := hline _ hmem
  refine ⟨hlist, hmem, ?_, k, hk⟩
  rw [hevents]
  decide +kernel

end Script

end SerialScript
