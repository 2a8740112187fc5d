import SerialScript.Execution
import SerialScript.Script.Reader

namespace SerialScript.Session

variable {S W : Type} [Transport S W]

/-- Runs one line. A line that names no directive is left out with a warning. -/
def runLine (line : Line) (s : Session S W) : Outcome Unit × Session S W :=
  match line.keyword? with
  | none =>
    (.ok (), s.report
      { level := .warn, origin := .engine,
        message := "Ignoring invalid cmdscript command: " ++ line.text })
  | some keyword =>
    (s.report
      { level := .debug, origin := .engine, message := "dispatch",
        fields := [("line", toString line.number), ("directive", keyword.spelling)] }).perform
      keyword line.arguments

def failureEvent (line : Line) (cause : Fault) : Event where
  level := .error
  origin := .engine
  message := (Fault.during (.runningLine line.number line.text) cause).message

def runLines : List Line → Session S W → Outcome Unit × Session S W
  | [], s => (.ok (), s)
  | line :: later, s =>
    match s.runLine line with
    | (.ok (), s) => runLines later s
    | (.error (.fault cause), s) =>
      (.fail (.during (.runningLine line.number line.text) cause),
        s.report (failureEvent line cause))
    | (.error .broken, s) => (.error .broken, s)

/-- Runs the lines of a script, and reports that all of them succeeded if they did. -/
def run (lines : List Line) (s : Session S W) : Outcome Unit × Session S W :=
  match s.runLines lines with
  | (.ok (), s) =>
    (.ok (), s.report
      { level := .info, origin := .engine, message := "cmdscript completed",
        fields := [("directives", toString lines.length)] })
  | (.error stop, s) => (.error stop, s)

def runScript (script : String) (s : Session S W) : Outcome Unit × Session S W :=
  ((Script.readingEvents script).foldl report s).run (Script.accepted script)

def shutdown (s : Session S W) : Session S W :=
  let (wasOpen, s) := s.disconnect
  if wasOpen then
    s.report { level := .info, origin := .engine, message := "Serial port closed on exit" }
  else s

end SerialScript.Session
