import SerialScript.Proofs.Session.FailFast

namespace SerialScript

/-- The line that halts a run, by its place among the lines, and what it fails with. -/
structure Halting where
  place : Nat
  text : String
  stop : Stop
  deriving DecidableEq

def Halting.moved (h : Halting) (f : Nat → Nat) : Halting := { h with place := f h.place }

theorem Halting.map_moved {f f' g g' : Nat → Nat} (h : ∀ k, g (f k) = g' (f' k))
    (o : Option Halting) :
    (o.map fun h => h.moved f).map (fun h => h.moved g) =
      (o.map fun h => h.moved f').map fun h => h.moved g' := by
  cases o with
  | none => rfl
  | some halting => simp [Halting.moved, h halting.place]

theorem Halting.map_moved_eq_some_iff {f : Nat → Nat} (hf : f.Injective) {o : Option Halting}
    {halting : Halting} :
    (o.map fun h => h.moved f) = some (halting.moved f) ↔ o = some halting := by
  have hmoved : Function.Injective fun h : Halting => h.moved f := by
    rintro ⟨place, text, stop⟩ ⟨place', text', stop'⟩ heq
    simp only [Halting.moved, Halting.mk.injEq] at heq
    obtain ⟨hplace, rfl, rfl⟩ := heq
    rw [hf hplace]
  exact (Option.map_injective hmoved).eq_iff (b := some halting)

namespace Session

variable {S W : Type} [Transport S W] {s s' : Session S W} {xs lines : List Line}

/-- Which line halts the run, if one does, and the session that is left. -/
def verdict : List Line → Session S W → Option Halting × Session S W
  | [], s => (none, s)
  | line :: later, s =>
    match s.runLine line with
    | (.ok (), s) =>
      let (halting, s) := verdict later s
      (halting.map fun h => h.moved (· + 1), s)
    | (.error stop, s) => (some ⟨0, line.text, stop⟩, s)

theorem verdict_of_ok {line : Line} (h : s.runLine line = (.ok (), s')) (later : List Line) :
    s.verdict (line :: later) =
      ((s'.verdict later).1.map fun h => h.moved (· + 1), (s'.verdict later).2) := by
  rw [verdict, h]

theorem verdict_of_error {line : Line} {stop : Stop} (h : s.runLine line = (.error stop, s'))
    (later : List Line) : s.verdict (line :: later) = (some ⟨0, line.text, stop⟩, s') := by
  rw [verdict, h]

theorem Passes.verdict_append (h : s.Passes xs s') (ys : List Line) :
    s.verdict (xs ++ ys) =
      ((s'.verdict ys).1.map fun h => h.moved (· + xs.length), (s'.verdict ys).2) := by
  induction h with
  | nil => simp [Halting.moved]
  | cons hline _ ih =>
    rw [List.cons_append, verdict_of_ok hline, ih, Option.map_map]
    rfl

theorem Passes.verdict (h : s.Passes xs s') : s.verdict xs = (none, s') := by
  have hnone := h.verdict_append []
  rwa [List.append_nil] at hnone

theorem verdict_of_failsAfter {line : Line} {stop : Stop} (h : FailsAfter xs line stop s s')
    (later : List Line) :
    s.verdict (xs ++ line :: later) = (some ⟨xs.length, line.text, stop⟩, s') := by
  obtain ⟨s₁, hpasses, hline⟩ := h
  rw [hpasses.verdict_append, verdict_of_error hline]
  simp [Halting.moved]

theorem verdict_append_of_some {halting : Halting} (h : s.verdict xs = (some halting, s'))
    (ys : List Line) : s.verdict (xs ++ ys) = (some halting, s') ∧ halting.place < xs.length := by
  rcases passes_or_fails xs s with ⟨s₁, hpasses⟩ | ⟨done, line, later, stop, s₁, rfl, hfails⟩
  · rw [hpasses.verdict] at h
    cases h
  · rw [verdict_of_failsAfter hfails] at h
    cases h
    rw [List.append_assoc, List.cons_append, verdict_of_failsAfter hfails]
    simp

/-- A run goes by its verdict. -/
theorem run_of_verdict (lines : List Line) (s : Session S W) :
    (∃ s', s.verdict lines = (none, s') ∧
      s.run lines = (.ok (), s'.report (completion lines.length))) ∨
    ∃ line place stop s', s.verdict lines = (some ⟨place, line.text, stop⟩, s') ∧
      lines[place]? = some line ∧ s.run lines = halt line stop s' := by
  rcases passes_or_fails lines s with ⟨s', hpasses⟩ | ⟨done, line, later, stop, s', rfl, hfails⟩
  · exact .inl ⟨s', hpasses.verdict, hpasses.run⟩
  · refine .inr ⟨line, done.length, stop, s', verdict_of_failsAfter hfails later, ?_,
      run_of_failsAfter hfails later⟩
    simp

theorem run_eq_ok_iff : (s.run lines).1 = .ok () ↔ (s.verdict lines).1 = none := by
  rcases run_of_verdict lines s with ⟨s', hv, hrun⟩ | ⟨line, place, stop, s', hv, -, hrun⟩
  · simp [hv, hrun]
  · rw [hv, hrun]
    cases stop <;> simp [halt, Outcome.fail]

/-- A run ends in the session of its verdict, and at most reports something there. -/
theorem exists_log_run (lines : List Line) (s : Session S W) :
    ∃ log, (s.run lines).2 =
      { (s.verdict lines).2 with bench := { (s.verdict lines).2.bench with log } } := by
  rcases run_of_verdict lines s with ⟨s', hv, hrun⟩ | ⟨line, place, stop, s', hv, -, hrun⟩
  · rw [hv, hrun]
    exact ⟨_, rfl⟩
  · rw [hv, hrun]
    cases stop with
    | fault cause => exact ⟨_, rfl⟩
    | broken => exact ⟨s'.bench.log, rfl⟩

theorem passes_of_verdict (h : s.verdict lines = (none, s')) : s.Passes lines s' := by
  rcases passes_or_fails lines s with ⟨s₁, hpasses⟩ | ⟨done, line, later, stop, s₁, rfl, hfails⟩
  · rw [hpasses.verdict] at h
    cases h
    exact hpasses
  · rw [verdict_of_failsAfter hfails] at h
    cases h

end Session

end SerialScript
