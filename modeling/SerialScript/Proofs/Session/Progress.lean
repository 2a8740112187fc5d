import SerialScript.Run

namespace SerialScript.Session

variable {S W : Type} [Transport S W] {s : Session S W}

/-- The lines of a run that succeed, up to the first that fails. -/
def succeeded : List Line → Session S W → List Line
  | [], _ => []
  | line :: later, s =>
    match s.runLine line with
    | (.ok (), s) => line :: succeeded later s
    | (.error _, _) => []

theorem succeeded_of_ok {line : Line} {s' : Session S W} (h : s.runLine line = (.ok (), s'))
    (later : List Line) : s.succeeded (line :: later) = line :: s'.succeeded later := by
  rw [succeeded, h]

theorem succeeded_of_error {line : Line} {stop : Stop} {s' : Session S W}
    (h : s.runLine line = (.error stop, s')) (later : List Line) :
    s.succeeded (line :: later) = [] := by
  rw [succeeded, h]

theorem runLines_of_ok {line : Line} {s' : Session S W} (h : s.runLine line = (.ok (), s'))
    (later : List Line) : s.runLines (line :: later) = s'.runLines later := by
  rw [runLines, h]

/-- A run gets past these lines, either because there are no others or because the next fails. -/
inductive GetsPast (s : Session S W) : List Line → List Line → Prop where
  | all {lines s'} : s.runLines lines = (.ok (), s') → GetsPast s lines lines
  | upTo {done line later stop s' s''} : s.runLines done = (.ok (), s') →
      s'.runLine line = (.error stop, s'') → GetsPast s (done ++ line :: later) done

theorem GetsPast.cons {line : Line} {s' : Session S W} (hline : s.runLine line = (.ok (), s'))
    {later done : List Line} (h : s'.GetsPast later done) :
    s.GetsPast (line :: later) (line :: done) := by
  cases h with
  | all hrun => exact .all ((runLines_of_ok hline _).trans hrun)
  | upTo hrun hstop => exact .upTo ((runLines_of_ok hline _).trans hrun) hstop

theorem getsPast_succeeded (lines : List Line) (s : Session S W) :
    s.GetsPast lines (s.succeeded lines) := by
  induction lines generalizing s with
  | nil => exact .all rfl
  | cons line later ih =>
    rcases hline : s.runLine line with ⟨stop | _, s'⟩
    · have hnone : s.runLines [] = (.ok (), s) := rfl
      rw [succeeded_of_error hline]
      exact .upTo hnone hline
    · rw [succeeded_of_ok hline]
      exact (ih s').cons hline

end SerialScript.Session
