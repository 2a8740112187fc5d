import Mathlib.Data.List.TakeWhile
import Mathlib.Logic.Relation
import SerialScript.Proofs.Script.Grammar
import SerialScript.Proofs.Session.Lawful

/-!
The layout of a script has no say. What a script asks for is the words of its lines that open with
a keyword, so the ends of its lines, the room between words and the lines that ask for nothing can
be changed: what is accepted has the same words, and a run of it does the same.
-/

namespace SerialScript

namespace Text

theorem leadingWord_append_blank (left : List Char) {b : Char} (hb : isBlank b = true)
    (right : List Char) :
    leadingWord (left ++ b :: right) =
      ((leadingWord left).1, (leadingWord left).2 ++ words right) := by
  induction left with
  | nil => simp [leadingWord, words, hb]
  | cons c left ih =>
    rw [List.cons_append, leadingWord, ih]
    cases hc : isBlank c with
    | false => simp [leadingWord, hc]
    | true => by_cases hw : (leadingWord left).1 = [] <;> simp [leadingWord, hc, hw]

/-- Words on both sides of a blank are apart. -/
theorem words_append_blank (left : List Char) {b : Char} (hb : isBlank b = true)
    (right : List Char) : words (left ++ b :: right) = words left ++ words right := by
  unfold words
  rw [leadingWord_append_blank left hb]
  by_cases hw : (leadingWord left).1 = [] <;> simp [hw, words]

def Blank (gap : List Char) : Prop := ∀ c ∈ gap, isBlank c = true ∧ c ≠ '\n'

instance (gap : List Char) : Decidable (Blank gap) :=
  decidable_of_iff (gap.all fun c => isBlank c && c != '\n') (by simp [Blank])

theorem blank_return : Blank ['\r'] := by decide

theorem words_blank_append {gap : List Char} (h : Blank gap) (text : List Char) :
    words (gap ++ text) = words text := by
  induction gap with
  | nil => rfl
  | cons c gap ih =>
    obtain ⟨hc, hgap⟩ := List.forall_mem_cons.1 h
    rw [List.cons_append, words_cons_of_isBlank hc.1]
    exact ih hgap

theorem words_append_gap (left : List Char) {gap : List Char} (h : Blank gap) (hne : gap ≠ [])
    (right : List Char) : words (left ++ gap ++ right) = words left ++ words right := by
  obtain ⟨b, gap, rfl⟩ := List.exists_cons_of_ne_nil hne
  obtain ⟨hb, hgap⟩ := List.forall_mem_cons.1 h
  rw [List.append_assoc, List.cons_append, words_append_blank left hb.1, words_blank_append hgap]

theorem words_append_blanks (text : List Char) {gap : List Char} (h : Blank gap) :
    words (text ++ gap) = words text := by
  by_cases hne : gap = []
  · rw [hne, List.append_nil]
  · have hgap := words_append_gap text h hne []
    simpa using hgap

end Text

namespace Script

open Text (Blank words firstWord?)

/-- The words of a line that opens with a keyword. -/
def asks (line : List Char) : Option (String × List String) :=
  match words line with
  | [] => none
  | word :: arguments =>
    if (Keyword.ofSpelling? (String.ofList word)).isSome then
      some (String.ofList word, arguments.map String.ofList)
    else none

def directives (text : List Char) : List (String × List String) :=
  (text.splitOn '\n').filterMap asks

theorem asks_of_words {line line' : List Char} (h : words line' = words line) :
    asks line' = asks line := by
  unfold asks
  rw [h]

theorem asks_dropReturn (segment : List Char) : asks (dropReturn segment) = asks segment := by
  unfold dropReturn
  split
  · rename_i hlast
    have hsegment : segment = segment.dropLast ++ ['\r'] := by
      rw [List.getLast?_eq_some_iff] at hlast
      obtain ⟨before, rfl⟩ := hlast
      rw [List.dropLast_concat]
    apply asks_of_words
    conv_rhs => rw [hsegment]
    rw [Text.words_append_blanks _ Text.blank_return]
  · rfl

theorem asks_eq (line : Line) :
    asks line.text.toList = if line.keyword?.isSome then some line.split else none := by
  unfold asks Line.keyword? Line.split Text.tokens
  cases words line.text.toList with
  | nil =>
    have hempty : Keyword.ofSpelling? "" = none := by decide
    simp [hempty]
  | cons word arguments => simp

theorem speaks_of_opensWith {line : Line} {k : Keyword} (h : line.OpensWith k) : line.Speaks := by
  unfold Line.OpensWith at h
  constructor
  · intro hempty
    rw [hempty] at h
    simp [firstWord?] at h
  · intro hcomment
    rw [List.head?_eq_some_iff] at hcomment
    obtain ⟨rest, hrest⟩ := hcomment
    have hhash : firstWord? ('#' :: rest) =
        some ('#' :: rest.takeWhile fun c => !Text.isBlank c) := by
      have hnot : Text.isBlank '#' = false := by decide
      simp [firstWord?, hnot]
    rw [hrest, hhash, Option.some.injEq] at h
    have hhead : k.spelling.toList.head? ≠ some '#' := by cases k <;> decide
    rw [← h] at hhead
    exact hhead rfl

theorem filterMap_asks_dropReturns (segments : List (List Char)) :
    (dropReturns segments).filterMap asks = segments.filterMap asks := by
  induction segments with
  | nil => rfl
  | cons segment later ih =>
    by_cases hlater : later = []
    · rw [hlater]
      rfl
    · rw [dropReturns_cons segment hlater, List.filterMap_cons, List.filterMap_cons,
        asks_dropReturn, ih]

/-- What is accepted of a script is what its lines ask for. -/
theorem split_accepted (script : String) :
    (accepted script).map Line.split = directives script.toList := by
  have hline : ∀ line : Line, (line.Speaks ∧ ∃ k, line.OpensWith k) ↔ line.keyword?.isSome := by
    intro line
    rw [line.isSome_keyword?]
    constructor
    · intro h
      exact h.2
    · rintro ⟨k, hk⟩
      exact ⟨speaks_of_opensWith hk, k, hk⟩
  rw [accepted_eq, ← List.filterMap_eq_map, List.filterMap_filter]
  unfold segments directives
  rw [← filterMap_asks_dropReturns, ← List.zipIdx_map_fst 1 (dropReturns _), List.filterMap_map,
    List.filterMap_map, List.zipIdx_map_fst]
  congr 1
  funext segment
  have hasks := asks_eq ⟨segment.2, String.ofList segment.1⟩
  simp only [String.toList_ofList] at hasks
  simp [hline, hasks]

def toCrlf (text : List Char) : List Char :=
  text.flatMap fun c => if c = '\n' then ['\r', '\n'] else [c]

/-- A line that asks for nothing: an empty one, a comment, blanks, or one that opens with a word
that is no keyword. -/
def Idle (line : List Char) : Prop :=
  '\n' ∉ line ∧
    (line = [] ∨ line.head? = some '#' ∨ (∀ c ∈ line, Text.isBlank c = true) ∨
      ∃ word, firstWord? line = some word ∧ ∀ k : Keyword, word ≠ k.spelling.toList)

inductive Respaced : List Char → List Char → Prop where
  | between (left right : List Char) {gap gap' : List Char} : Blank gap → gap ≠ [] → Blank gap' →
      gap' ≠ [] → Respaced (left ++ gap ++ right) (left ++ gap' ++ right)
  | before {gap : List Char} (line : List Char) : Blank gap → Respaced line (gap ++ line)
  | after (line : List Char) {gap : List Char} : Blank gap → Respaced line (line ++ gap)

def AtStart (before : List Char) : Prop := before = [] ∨ before.getLast? = some '\n'

def AtEnd (after : List Char) : Prop := after = [] ∨ after.head? = some '\n'

inductive Relayout : List Char → List Char → Prop where
  | crlf (text : List Char) : Relayout text (toCrlf text)
  | insert {before line after : List Char} : AtStart before → Idle line →
      Relayout (before ++ after) (before ++ line ++ '\n' :: after)
  /-- A line after the last, which is ended for it. -/
  | append {text line : List Char} : Idle line → Relayout text (text ++ '\n' :: line)
  /-- A line after the end of the last, with no end of its own. -/
  | appendOpen {text line : List Char} : AtStart text → Idle line → Relayout text (text ++ line)
  | respace {before line line' after : List Char} : AtStart before → '\n' ∉ line →
      AtEnd after → Respaced line line' →
      Relayout (before ++ line ++ after) (before ++ line' ++ after)

@[simp] theorem directives_nil : directives [] = [] := rfl

theorem directives_of_notMem {line : List Char} (h : '\n' ∉ line) :
    directives line = (asks line).toList := by
  unfold directives
  rw [List.splitOn_eq_singleton h]
  cases hasks : asks line <;> simp [hasks]

theorem directives_append_newline (before after : List Char) :
    directives (before ++ '\n' :: after) = directives before ++ directives after := by
  unfold directives
  rw [List.splitOn_append_cons_self, List.filterMap_append]

theorem directives_append_of_atStart {before : List Char} (h : AtStart before)
    (text : List Char) : directives (before ++ text) = directives before ++ directives text := by
  rcases h with rfl | h
  · rfl
  · rw [List.getLast?_eq_some_iff] at h
    obtain ⟨before, rfl⟩ := h
    rw [List.append_assoc, List.singleton_append, directives_append_newline,
      directives_append_newline, directives_nil, List.append_nil]

theorem directives_append_of_atEnd (text : List Char) {after : List Char} (h : AtEnd after) :
    directives (text ++ after) = directives text ++ directives after := by
  rcases h with rfl | h
  · simp
  · rw [List.head?_eq_some_iff] at h
    obtain ⟨after, rfl⟩ := h
    have hafter := directives_append_newline [] after
    rw [directives_append_newline, ← List.nil_append ('\n' :: after), hafter]
    rfl

theorem asks_eq_none {line : List Char}
    (h : ∀ k : Keyword, firstWord? line ≠ some k.spelling.toList) : asks line = none := by
  have hasks := asks_eq ⟨0, String.ofList line⟩
  rw [if_neg] at hasks
  · simpa using hasks
  · rw [Line.isSome_keyword?]
    rintro ⟨k, hk⟩
    unfold Line.OpensWith at hk
    rw [String.toList_ofList] at hk
    exact h k hk

theorem directives_of_idle {line : List Char} (h : Idle line) : directives line = [] := by
  obtain ⟨hline, h⟩ := h
  have hnone : asks line = none := by
    apply asks_eq_none
    intro k hk
    have hspeaks : Line.Speaks ⟨0, String.ofList line⟩ :=
      speaks_of_opensWith (k := k) (by simpa [Line.OpensWith] using hk)
    rcases h with rfl | hcomment | hblank | ⟨word, hword, hne⟩
    · exact hspeaks.1 rfl
    · exact hspeaks.2 (by simpa using hcomment)
    · have hdrop : line.dropWhile Text.isBlank = [] := List.dropWhile_eq_nil_iff.2 hblank
      simp [firstWord?, hdrop] at hk
    · rw [hword, Option.some.injEq] at hk
      exact hne k hk
  rw [directives_of_notMem hline, hnone]
  rfl

theorem notMem_of_blank {gap : List Char} (h : Blank gap) : '\n' ∉ gap :=
  fun hmem => (h _ hmem).2 rfl

theorem Respaced.words {line line' : List Char} (h : Respaced line line') :
    words line' = words line := by
  cases h with
  | between left right hgap hne hgap' hne' =>
    rw [Text.words_append_gap left hgap hne, Text.words_append_gap left hgap' hne']
  | before _ hgap => exact Text.words_blank_append hgap line
  | after _ hgap => exact Text.words_append_blanks line hgap

theorem Respaced.notMem {line line' : List Char} (h : Respaced line line') (hline : '\n' ∉ line) :
    '\n' ∉ line' := by
  cases h with
  | between left right hgap hne hgap' hne' =>
    have := notMem_of_blank hgap'
    simp_all
  | before _ hgap =>
    have := notMem_of_blank hgap
    simp_all
  | after _ hgap =>
    have := notMem_of_blank hgap
    simp_all

/-- A text, line by line. -/
theorem lines_induction {P : List Char → Prop} (last : ∀ line, '\n' ∉ line → P line)
    (more : ∀ line rest, '\n' ∉ line → P rest → P (line ++ '\n' :: rest)) (text : List Char) :
    P text := by
  -- The line that is being read is kept in front of what is left of the text.
  have hopen : ∀ line, '\n' ∉ line → P (line ++ text) := by
    induction text with
    | nil =>
      intro line hline
      rw [List.append_nil]
      exact last line hline
    | cons c rest ih =>
      intro line hline
      by_cases hc : c = '\n'
      · rw [hc]
        exact more line rest hline (ih [] List.not_mem_nil)
      · rw [List.append_cons]
        apply ih
        simp [hline, Ne.symm hc]
  exact hopen [] List.not_mem_nil

theorem toCrlf_of_notMem {line : List Char} (h : '\n' ∉ line) : toCrlf line = line := by
  induction line with
  | nil => rfl
  | cons c line ih =>
    obtain ⟨hc, hline⟩ := List.ne_and_not_mem_of_not_mem_cons h
    unfold toCrlf at ih ⊢
    rw [List.flatMap_cons, ih hline, if_neg (Ne.symm hc)]
    rfl

theorem directives_toCrlf (text : List Char) : directives (toCrlf text) = directives text := by
  induction text using lines_induction with
  | last line hline => rw [toCrlf_of_notMem hline]
  | more line rest hline ih =>
    have hcut : toCrlf (line ++ '\n' :: rest) = (line ++ ['\r']) ++ '\n' :: toCrlf rest := by
      have hfirst := toCrlf_of_notMem hline
      unfold toCrlf at hfirst ⊢
      rw [List.flatMap_append, List.flatMap_cons, hfirst]
      simp
    have hreturn : asks (line ++ ['\r']) = asks line :=
      asks_of_words (Text.words_append_blanks line Text.blank_return)
    have hended : '\n' ∉ line ++ ['\r'] := by simp [hline]
    rw [hcut, directives_append_newline, directives_append_newline, ih,
      directives_of_notMem hended, directives_of_notMem hline, hreturn]

theorem Relayout.directives {text text' : List Char} (h : Relayout text text') :
    directives text' = directives text := by
  cases h with
  | crlf => exact directives_toCrlf text
  | @insert before line after hbefore hline =>
    rw [List.append_assoc, directives_append_of_atStart hbefore,
      directives_append_of_atStart hbefore, directives_append_newline, directives_of_idle hline,
      List.nil_append]
  | append hline =>
    rw [directives_append_newline, directives_of_idle hline, List.append_nil]
  | appendOpen htext hline =>
    rw [directives_append_of_atStart htext, directives_of_idle hline, List.append_nil]
  | @respace before line line' after hbefore hline hafter hspace =>
    have hasks : asks line' = asks line := asks_of_words hspace.words
    rw [List.append_assoc, List.append_assoc, directives_append_of_atStart hbefore,
      directives_append_of_atStart hbefore, directives_append_of_atEnd line' hafter,
      directives_append_of_atEnd line hafter, directives_of_notMem hline,
      directives_of_notMem (hspace.notMem hline), hasks]

theorem directives_of_relayouts {text text' : List Char}
    (h : Relation.ReflTransGen Relayout text text') : directives text' = directives text := by
  induction h with
  | refl => rfl
  | tail _ hlast ih => exact hlast.directives.trans ih

end Script

/-- What is done is reported by directives and by the transport. The lines of the script are the
matter of the reader and of the engine. -/
def Event.isDeed (e : Event) : Bool := e.origin != .engine && e.origin != .reader

def SameDeeds (log log' : Array Event) : Prop := shown Event.isDeed log' = shown Event.isDeed log

theorem steady_sameDeeds : Session.Steady SameDeeds := by
  intro log log' e h
  unfold SameDeeds
  rw [shown_push, shown_push, h]

theorem SameDeeds.push_left {log log' : Array Event} (h : SameDeeds log log') {e : Event}
    (he : e.isDeed = false) : SameDeeds (log.push e) log' := by
  unfold SameDeeds
  rw [shown_push, h, he]
  simp

theorem SameDeeds.push_right {log log' : Array Event} (h : SameDeeds log log') {e : Event}
    (he : e.isDeed = false) : SameDeeds log (log'.push e) := by
  unfold SameDeeds
  rw [shown_push, h, he]
  simp

/-- The same ending, but for the line that is named in front of a fault. -/
inductive SameBelow : Outcome Unit → Outcome Unit → Prop where
  | succeeded : SameBelow (.ok ()) (.ok ())
  | failed (number number' : Nat) (text text' : String) (cause : Fault) :
      SameBelow (.fail (.during (.runningLine number text) cause))
        (.fail (.during (.runningLine number' text') cause))
  | broken : SameBelow (.error .broken) (.error .broken)

theorem Script.isDeed_readingEvents (script : String) :
    ∀ e ∈ readingEvents script, e.isDeed = false := by
  intro e h
  unfold readingEvents at h
  rcases List.mem_append.1 h with h | h
  · obtain ⟨line, -, rfl⟩ := List.mem_map.1 h
    rfl
  · rw [List.mem_singleton] at h
    rw [h]
    rfl

namespace Session

variable {S W : Type} {s t : Session S W}

structure SameRun (o o' : Outcome Unit × Session S W) : Prop where
  result : SameBelow o.1 o'.1
  session : o.2.Alike SameDeeds o'.2

theorem Alike.reportLeft (h : s.Alike SameDeeds t) {e : Event} (he : e.isDeed = false) :
    (s.report e).Alike SameDeeds t :=
  ⟨h.eol, h.responseTimeout, h.stream, h.world, h.clock, h.log.push_left he⟩

theorem Alike.reportRight (h : s.Alike SameDeeds t) {e : Event} (he : e.isDeed = false) :
    s.Alike SameDeeds (t.report e) :=
  ⟨h.eol, h.responseTimeout, h.stream, h.world, h.clock, h.log.push_right he⟩

theorem Alike.reportAll (h : s.Alike SameDeeds t) {events events' : List Event}
    (hevents : ∀ e ∈ events, e.isDeed = false) (hevents' : ∀ e ∈ events', e.isDeed = false) :
    (events.foldl Session.report s).Alike SameDeeds (events'.foldl Session.report t) := by
  induction events generalizing s with
  | nil =>
    induction events' generalizing t with
    | nil => exact h
    | cons e later ih =>
      obtain ⟨he, hlater⟩ := List.forall_mem_cons.1 hevents'
      exact ih hlater (h.reportRight he)
  | cons e later ih =>
    obtain ⟨he, hlater⟩ := List.forall_mem_cons.1 hevents
    exact ih (h.reportLeft he) hlater

variable [Transport S W] [LawfulTransport S W]

theorem Alike.runLine_of_split (h : s.Alike SameDeeds t) {line line' : Line}
    (hsplit : line'.split = line.split) :
    Alongside (Alike SameDeeds) (s.runLine line) (t.runLine line') := by
  have hkeyword : line'.keyword? = line.keyword? := by
    unfold Line.keyword?
    rw [hsplit]
  have harguments : line'.arguments = line.arguments := by
    unfold Line.arguments
    rw [hsplit]
  unfold Session.runLine
  rw [hkeyword, harguments]
  cases line.keyword? with
  | none => exact ⟨(h.reportLeft rfl).reportRight rfl⟩
  | some k => exact ((h.reportLeft rfl).reportRight rfl).perform steady_sameDeeds k line.arguments

theorem Alike.runLines_of_split (h : s.Alike SameDeeds t) {lines lines' : List Line}
    (hsplit : lines'.map Line.split = lines.map Line.split) :
    SameRun (s.runLines lines) (t.runLines lines') := by
  induction lines generalizing s t lines' with
  | nil =>
    rw [List.map_nil, List.map_eq_nil_iff] at hsplit
    rw [hsplit]
    exact ⟨.succeeded, h⟩
  | cons line later ih =>
    rw [List.map_cons] at hsplit
    obtain ⟨line', later', rfl, hline, hlater⟩ := List.map_eq_cons_iff.1 hsplit
    obtain ⟨result, s', t', hs, ht, hst⟩ := (h.runLine_of_split hline).exists_eq
    rw [Session.runLines, Session.runLines, hs, ht]
    rcases result with (cause | _) | _
    · exact ⟨.failed _ _ _ _ cause, (hst.reportLeft rfl).reportRight rfl⟩
    · exact ⟨.broken, hst⟩
    · exact ih hst hlater

theorem Alike.run_of_split (h : s.Alike SameDeeds t) {lines lines' : List Line}
    (hsplit : lines'.map Line.split = lines.map Line.split) :
    SameRun (s.run lines) (t.run lines') := by
  have hrun := h.runLines_of_split hsplit
  unfold Session.run
  generalize s.runLines lines = o at hrun ⊢
  generalize t.runLines lines' = o' at hrun ⊢
  obtain ⟨result, s⟩ := o
  obtain ⟨result', t⟩ := o'
  obtain ⟨hresult, hst⟩ := hrun
  cases hresult with
  | succeeded => exact ⟨.succeeded, (hst.reportLeft rfl).reportRight rfl⟩
  | failed => exact ⟨.failed _ _ _ _ _, hst⟩
  | broken => exact ⟨.broken, hst⟩

end Session

namespace Script

/-- Whatever has been changed in the layout of a script, the same directives with the same arguments
are accepted, and from any session on they come to the same. -/
theorem layout_has_no_say {S W : Type} [Transport S W] [LawfulTransport S W]
    {script script' : String}
    (h : Relation.ReflTransGen Relayout script.toList script'.toList) (s : Session S W) :
    (accepted script').map Line.split = (accepted script).map Line.split ∧
      Session.SameRun (s.runScript script) (s.runScript script') := by
  have hsplit : (accepted script').map Line.split = (accepted script).map Line.split := by
    rw [split_accepted, split_accepted, directives_of_relayouts h]
  have hread := (Session.Alike.refl (R := SameDeeds) s rfl).reportAll
    (isDeed_readingEvents script) (isDeed_readingEvents script')
  exact ⟨hsplit, hread.run_of_split hsplit⟩

def plain : String := "EOL\nRES c"

def adorned : String := "#\n\u3000EOL\r\nRES\t c\nPING\n"

def unheard : Session Memory.Stream Memory :=
  { stream := some ⟨true⟩, bench := { world := { isOpen := true } } }

theorem layout_has_no_say_of_adorned :
    Relation.ReflTransGen Relayout plain.toList adorned.toList ∧
      (accepted adorned).map Line.split = [("EOL", []), ("RES", ["c"])] ∧
      SameBelow (unheard.runScript plain).1 (unheard.runScript adorned).1 ∧
      (unheard.runScript adorned).2.bench.clock = 1000 := by
  have hcrlf : Relayout plain.toList "EOL\r\nRES c".toList := .crlf _
  have hcomment : Relayout "EOL\r\nRES c".toList "#\nEOL\r\nRES c".toList :=
    @Relayout.insert [] ['#'] _ (.inl rfl) ⟨by decide, .inr (.inl rfl)⟩
  have hindent : Relayout "#\nEOL\r\nRES c".toList "#\n\u3000EOL\r\nRES c".toList :=
    @Relayout.respace "#\n".toList "EOL\r".toList _ "\nRES c".toList (.inr rfl) (by decide)
      (.inr rfl) (@Respaced.before ['\u3000'] _ (by decide))
  have hgap : Relayout "#\n\u3000EOL\r\nRES c".toList "#\n\u3000EOL\r\nRES\t c".toList :=
    @Relayout.respace "#\n\u3000EOL\r\n".toList _ _ [] (.inr rfl) (by decide) (.inl rfl)
      (@Respaced.between "RES".toList "c".toList [' '] ['\t', ' '] (by decide) (by decide)
        (by decide) (by decide))
  have hunknown : Relayout "#\n\u3000EOL\r\nRES\t c".toList
      "#\n\u3000EOL\r\nRES\t c\nPING".toList :=
    @Relayout.append _ "PING".toList
      ⟨by decide, .inr (.inr (.inr ⟨_, rfl, fun k => by cases k <;> decide⟩))⟩
  have hended : Relayout "#\n\u3000EOL\r\nRES\t c\nPING".toList adorned.toList :=
    @Relayout.append _ [] ⟨List.not_mem_nil, .inl rfl⟩
  have hchanges : Relation.ReflTransGen Relayout plain.toList adorned.toList :=
    (((((Relation.ReflTransGen.single hcrlf).tail hcomment).tail hindent).tail hgap).tail
      hunknown).tail hended
  obtain ⟨hsplit, hresult, hsession⟩ := layout_has_no_say hchanges unheard
  refine ⟨hchanges, ?_, hresult, ?_⟩
  · rw [hsplit]
    decide +kernel
  · rw [hsession.clock]
    decide +kernel

end Script

end SerialScript
