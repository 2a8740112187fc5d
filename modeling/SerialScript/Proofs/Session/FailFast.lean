import SerialScript.Proofs.Session.Lawful
import SerialScript.Proofs.Session.Progress

namespace SerialScript

def completion (count : Nat) : Event where
  level := .info
  origin := .engine
  message := "cmdscript completed"
  fields := [("directives", toString count)]

def Event.isCompletion (e : Event) : Bool :=
  e.origin = .engine && e.message == "cmdscript completed"

def Event.isError (e : Event) : Bool := e.level = .error

def ignoring (line : Line) : Event where
  level := .warn
  origin := .engine
  message := "Ignoring invalid cmdscript command: " ++ line.text

/-- A log without the reports of complete runs. -/
def story (log : Array Event) : List Event := shown (fun e => !e.isCompletion) log

/-- The second is the first with some of the events left out, none but these. -/
inductive Without (gone : Event → Prop) : List Event → List Event → Prop where
  | nil : Without gone [] []
  | keep {events left : List Event} (e : Event) : Without gone events left →
      Without gone (e :: events) (e :: left)
  | skip {events left : List Event} {e : Event} : gone e → Without gone events left →
      Without gone (e :: events) left

variable {gone : Event → Prop} {log log' : Array Event}

theorem Without.refl (events : List Event) : Without gone events events := by
  induction events with
  | nil => exact .nil
  | cons e later ih => exact .keep e ih

theorem Without.append {events left : List Event} (h : Without gone events left)
    {events' left' : List Event} (h' : Without gone events' left') :
    Without gone (events ++ events') (left ++ left') := by
  induction h with
  | nil => exact h'
  | keep e _ ih => exact .keep e ih
  | skip hgone _ ih => exact .skip hgone ih

theorem Without.eq {events left : List Event} (h : Without (fun _ => False) events left) :
    left = events := by
  induction h with
  | nil => rfl
  | keep e _ ih => rw [ih]
  | skip hgone => exact hgone.elim

/-- Logs that tell the same but for these events, and but for how often a run has been complete. -/
def Retold (gone : Event → Prop) (log log' : Array Event) : Prop :=
  Without gone (story log) (story log')

theorem steady_retold (gone : Event → Prop) : Session.Steady (Retold gone) := by
  intro log log' e h
  unfold Retold story
  rw [shown_push, shown_push]
  exact Without.append h (.refl _)

theorem Retold.complete (h : Retold gone log log') (count count' : Nat) :
    Retold gone (log.push (completion count)) (log'.push (completion count')) := by
  unfold Retold story at h ⊢
  rw [shown_push, shown_push]
  simpa [completion, Event.isCompletion] using h

theorem Retold.skip (h : Retold gone log log') {e : Event} (he : gone e) :
    Retold gone (log.push e) log' := by
  have hlast : Without gone (if !e.isCompletion then [e] else []) [] := by
    split
    · exact .skip he .nil
    · exact .nil
  have hlog := Without.append h hlast
  unfold Retold story at hlog ⊢
  rwa [shown_push, ← List.append_nil (shown _ log')]

/-- Lines and what is left of them when some that name no directive are removed. -/
inductive Pruned : List Line → List Line → List Line → Prop where
  | nil : Pruned [] [] []
  | keep {removed lines kept : List Line} (line : Line) : Pruned removed lines kept →
      Pruned removed (line :: lines) (line :: kept)
  | remove {removed lines kept : List Line} {line : Line} : line.keyword? = none →
      Pruned removed lines kept → Pruned (line :: removed) (line :: lines) kept

namespace Session

variable {S W : Type}

def errors (s : Session S W) : List Event := shown Event.isError s.bench.log

theorem errors_report (s : Session S W) (e : Event) :
    (s.report e).errors = s.errors ++ if e.isError then [e] else [] :=
  shown_push Event.isError s.bench.log e

/-- The end of a run of this many lines. -/
def complete (count : Nat) : Outcome Unit × Session S W → Outcome Unit × Session S W
  | (.ok (), s) => (.ok (), s.report (completion count))
  | (.error stop, s) => (.error stop, s)

theorem Alike.complete {o o' : Outcome Unit × Session S W}
    (h : Alongside (Alike (Retold gone)) o o') (count count' : Nat) :
    Alongside (Alike (Retold gone)) (complete count o) (complete count' o') := by
  obtain @⟨result, s, t, hst⟩ := h
  cases result with
  | error stop => exact ⟨hst⟩
  | ok _ =>
    exact ⟨hst.eol, hst.responseTimeout, hst.stream, hst.world, hst.clock,
      hst.log.complete count count'⟩

variable [Transport S W] {s t s' : Session S W}

inductive Passes : Session S W → List Line → Session S W → Prop where
  | nil {s : Session S W} : Passes s [] s
  | cons {s s₁ s' : Session S W} {line : Line} {later : List Line} :
      s.runLine line = (.ok (), s₁) → Passes s₁ later s' → Passes s (line :: later) s'

theorem Passes.runLines_append {done : List Line} (h : s.Passes done s') (later : List Line) :
    s.runLines (done ++ later) = s'.runLines later := by
  induction h with
  | nil => rfl
  | cons hline _ ih =>
    rw [List.cons_append, runLines_of_ok hline]
    exact ih

theorem Passes.runLines {lines : List Line} (h : s.Passes lines s') :
    s.runLines lines = (.ok (), s') := by
  have hnone := h.runLines_append []
  rwa [List.append_nil] at hnone

/-- A line fails after these have succeeded, and leaves the session like this. -/
def FailsAfter (done : List Line) (line : Line) (stop : Stop) (s s' : Session S W) : Prop :=
  ∃ s₁, s.Passes done s₁ ∧ s₁.runLine line = (.error stop, s')

theorem passes_or_fails (lines : List Line) (s : Session S W) :
    (∃ s', s.Passes lines s') ∨
      ∃ done line later stop s', lines = done ++ line :: later ∧
        FailsAfter done line stop s s' := by
  induction lines generalizing s with
  | nil => exact .inl ⟨s, .nil⟩
  | cons line later ih =>
    rcases hline : s.runLine line with ⟨stop | _, s₁⟩
    · exact .inr ⟨[], line, later, stop, s₁, rfl, s, .nil, hline⟩
    · rcases ih s₁ with ⟨s', hpasses⟩ | ⟨done, last, rest, stop, s', rfl, s₂, hpasses, hlast⟩
      · exact .inl ⟨s', .cons hline hpasses⟩
      · exact .inr ⟨line :: done, last, rest, stop, s', rfl, s₂, .cons hline hpasses, hlast⟩

/-- How a run ends with a line that fails: a fault is reported, to break off is not. -/
def halt (line : Line) : Stop → Session S W → Outcome Unit × Session S W
  | .fault cause, s =>
    (.fail (.during (.runningLine line.number line.text) cause), s.report (failureEvent line cause))
  | .broken, s => (.error .broken, s)

theorem runLines_of_failsAfter {done : List Line} {line : Line} {stop : Stop}
    (h : FailsAfter done line stop s s') (later : List Line) :
    s.runLines (done ++ line :: later) = halt line stop s' := by
  obtain ⟨s₁, hpasses, hline⟩ := h
  rw [hpasses.runLines_append, Session.runLines, hline]
  cases stop <;> rfl

theorem passes_of_runLines {lines : List Line} (h : s.runLines lines = (.ok (), s')) :
    s.Passes lines s' := by
  rcases passes_or_fails lines s with ⟨s₁, hpasses⟩ | ⟨done, line, later, stop, s₁, rfl, hfails⟩
  · rw [hpasses.runLines] at h
    cases h
    exact hpasses
  · rw [runLines_of_failsAfter hfails] at h
    cases stop <;> cases h

theorem run_eq_complete (lines : List Line) (s : Session S W) :
    s.run lines = complete lines.length (s.runLines lines) := rfl

theorem Passes.run {lines : List Line} (h : s.Passes lines s') :
    s.run lines = (.ok (), s'.report (completion lines.length)) := by
  rw [run_eq_complete, h.runLines]
  rfl

theorem run_of_failsAfter {done : List Line} {line : Line} {stop : Stop}
    (h : FailsAfter done line stop s s') (later : List Line) :
    s.run (done ++ line :: later) = halt line stop s' := by
  rw [run_eq_complete, runLines_of_failsAfter h]
  cases stop <;> rfl

theorem run_append_of_error {xs : List Line} {stop : Stop} (h : s.run xs = (.error stop, s'))
    (ys : List Line) : s.run (xs ++ ys) = (.error stop, s') := by
  rcases passes_or_fails xs s with ⟨s₁, hpasses⟩ | ⟨done, line, later, cause, s₁, rfl, hfails⟩
  · rw [hpasses.run] at h
    cases h
  · rw [run_of_failsAfter hfails] at h
    rw [List.append_assoc, List.cons_append, run_of_failsAfter hfails]
    exact h

variable [LawfulTransport S W]

theorem errors_perform (s : Session S W) (k : Keyword) (arguments : List String) :
    (s.perform k arguments).2.errors = s.errors := by
  obtain ⟨events, hroutine, hlog⟩ := log_perform s k arguments
  have hnone : events.toList.filter Event.isError = [] := by
    rw [List.filter_eq_nil_iff]
    intro e he
    have hlevel := (hroutine e (Array.mem_toList_iff.1 he)).1
    simp [Event.isError, hlevel]
  unfold errors shown
  simp [hlog, hnone]

theorem errors_runLine (s : Session S W) (line : Line) : (s.runLine line).2.errors = s.errors := by
  unfold runLine
  cases line.keyword? with
  | none => simp [errors_report, Event.isError]
  | some k => simp [errors_perform, errors_report, Event.isError]

theorem Passes.errors {lines : List Line} (h : s.Passes lines s') : s'.errors = s.errors := by
  induction h with
  | nil => rfl
  | @cons s s₁ s' line later hline _ ih =>
    have hfirst := errors_runLine s line
    rw [hline] at hfirst
    exact ih.trans hfirst

theorem errors_of_failsAfter {done : List Line} {line : Line} {stop : Stop}
    (h : FailsAfter done line stop s s') : s'.errors = s.errors := by
  obtain ⟨s₁, hpasses, hline⟩ := h
  have hlast := errors_runLine s₁ line
  rw [hline] at hlast
  exact hlast.trans hpasses.errors

theorem Alike.runLines_of_pruned {removed lines kept : List Line} (hp : Pruned removed lines kept)
    (h : s.Alike (Retold gone) t) (hgone : ∀ line ∈ removed, gone (ignoring line)) :
    Alongside (Alike (Retold gone)) (s.runLines lines) (t.runLines kept) := by
  induction hp generalizing s t with
  | nil => exact ⟨h⟩
  | keep line _ ih => exact h.runLines_cons (steady_retold gone) line fun hst => ih hst hgone
  | @remove removed lines kept line hnone _ ih =>
    -- The warning of this line is what the other log goes without.
    obtain ⟨hfirst, hlater⟩ := List.forall_mem_cons.1 hgone
    have hline : s.runLine line = (.ok (), s.report (ignoring line)) := by
      unfold Session.runLine
      rw [hnone]
      rfl
    rw [runLines_of_ok hline]
    apply ih _ hlater
    exact ⟨h.eol, h.responseTimeout, h.stream, h.world, h.clock, h.log.skip hfirst⟩

/-- To run more lines is to run them after the first ones, if these have succeeded. -/
theorem run_append {xs : List Line} (h : s.run xs = (.ok (), s')) (ys : List Line) :
    Alongside (Alike fun log log' => story log' = story log) (s'.run ys) (s.run (xs ++ ys)) := by
  rcases hxs : s.runLines xs with ⟨stop | _, s₁⟩
  · rw [run_eq_complete, hxs] at h
    cases h
  · rw [run_eq_complete, hxs] at h
    cases h
    rw [run_eq_complete, run_eq_complete, (passes_of_runLines hxs).runLines_append]
    -- The second run starts from where the first lines have led, and one report more.
    have hstart : (s₁.report (completion xs.length)).Alike (Retold fun _ => False) s₁ := by
      refine ⟨rfl, rfl, rfl, rfl, rfl, ?_⟩
      unfold Retold story report Bench.report
      rw [shown_push]
      simp [completion, Event.isCompletion, Without.refl]
    obtain ⟨result, t, t', ht, ht', hdone⟩ := (Alike.complete
      (hstart.runLines (steady_retold _) ys) ys.length (xs ++ ys).length).exists_eq
    rw [ht, ht']
    exact ⟨hdone.mono Without.eq⟩

structure FailFast (s : Session S W) : Prop where
  passes_or_fails : ∀ lines, (∃ s', s.Passes lines s') ∨
    ∃ done line later stop s', lines = done ++ line :: later ∧ FailsAfter done line stop s s'
  succeeds : ∀ {lines s'}, s.Passes lines s' →
    s.run lines = (.ok (), s'.report (completion lines.length)) ∧ (s.run lines).2.errors = s.errors
  fails : ∀ {done line cause s'}, FailsAfter done line (.fault cause) s s' → ∀ later,
    ∃ fault, s.run (done ++ line :: later) = (.fail fault, s'.report (failureEvent line cause)) ∧
      fault.chain = ("line " ++ toString line.number ++ ": " ++ line.text) :: cause.chain ∧
      (s.run (done ++ line :: later)).2.errors = s.errors ++ [failureEvent line cause]
  /-- A line in which the program breaks off is the last, too, but nothing is reported of it. -/
  breaks : ∀ {done line s'}, FailsAfter done line .broken s s' → ∀ later,
    s.run (done ++ line :: later) = (.error .broken, s') ∧ s'.errors = s.errors
  goesOn : ∀ {xs s'}, s.run xs = (.ok (), s') → ∀ ys,
    Alongside (Alike fun log log' => story log' = story log) (s'.run ys) (s.run (xs ++ ys))
  stops : ∀ {xs stop s'}, s.run xs = (.error stop, s') → ∀ ys, s.run (xs ++ ys) = (.error stop, s')
  prunes : ∀ {removed lines kept}, Pruned removed lines kept →
    Alongside (Alike (Retold fun e => e ∈ removed.map ignoring)) (s.run lines) (s.run kept)

/-- A run ends at the first line that fails, with what that line says and in the state that it
leaves. -/
theorem run_fails_fast (s : Session S W) : s.FailFast where
  passes_or_fails lines := Session.passes_or_fails lines s
  succeeds h := by
    rw [h.run]
    refine ⟨rfl, ?_⟩
    simp [errors_report, h.errors, Event.isError, completion]
  fails h later := by
    rw [run_of_failsAfter h]
    refine ⟨_, rfl, rfl, ?_⟩
    simp [halt, errors_report, errors_of_failsAfter h, Event.isError, failureEvent]
  breaks h later := ⟨run_of_failsAfter h later, errors_of_failsAfter h⟩
  goesOn h ys := run_append h ys
  stops h ys := run_append_of_error h ys
  prunes {removed lines kept} hp := by
    have hgone : ∀ line ∈ removed, ignoring line ∈ removed.map ignoring :=
      fun line => List.mem_map_of_mem
    exact Alike.complete ((Alike.refl s (.refl _)).runLines_of_pruned hp hgone) _ _

def unanswered : List Line := [⟨1, "CONNECT p 9600"⟩, ⟨3, "CMD AT"⟩, ⟨4, "PING"⟩]

theorem run_fails_fast_of_unanswered :
    let s : Session Memory.Stream Memory := { bench := { world := {} } }
    let res : Line := ⟨5, "RES OK"⟩
    let late : Line := ⟨6, "CMD late"⟩
    (∃ s', s.Passes unanswered s' ∧ s.run unanswered = (.ok (), s'.report (completion 3))) ∧
      (∃ s' fault, FailsAfter unanswered res (.fault (.noResponse 1000 "OK")) s s' ∧
        (s.run (unanswered ++ [res, late])).1 = .fail fault ∧
        fault.chain = ["line 5: RES OK",
          "RES Fail to receive expected response within 1000ms: OK"] ∧
        (s.run (unanswered ++ [res, late])).2.errors.length = 1) ∧
      Pruned [⟨4, "PING"⟩] (unanswered ++ [res, late]) (unanswered.dropLast ++ [res, late]) ∧
      (s.run (unanswered.dropLast ++ [res, late])).2.bench.clock = 1000 := by
  intro s res late
  have h := run_fails_fast s
  have hok : (s.runLines unanswered).1 = .ok () := by decide +kernel
  have hpasses := passes_of_runLines (Prod.ext hok rfl)
  have hstop : ((s.runLines unanswered).2.runLine res).1 =
      .error (.fault (.noResponse 1000 "OK")) := by decide +kernel
  have hfails : FailsAfter unanswered res (.fault (.noResponse 1000 "OK")) s
      ((s.runLines unanswered).2.runLine res).2 := ⟨_, hpasses, Prod.ext hstop rfl⟩
  have hpruned : Pruned [⟨4, "PING"⟩] (unanswered ++ [res, late])
      (unanswered.dropLast ++ [res, late]) :=
    .keep _ (.keep _ (.remove (by decide +kernel) (.keep _ (.keep _ .nil))))
  obtain ⟨fault, hrun, hchain, herrors⟩ := h.fails hfails [late]
  refine ⟨⟨_, hpasses, (h.succeeds hpasses).1⟩, ⟨_, fault, hfails, ?_, ?_, ?_⟩, hpruned, ?_⟩
  · rw [hrun]
  · rw [hchain]
    decide +kernel
  · rw [herrors]
    rfl
  · rw [(h.prunes hpruned).snd.clock]
    decide +kernel

end Session

end SerialScript
