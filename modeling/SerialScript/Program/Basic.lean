import SerialScript.CommandLine.Arguments
import SerialScript.CommandLine.EventText
import SerialScript.Run
import SerialScript.Transport.Absent

/-!
The program over a host without serial ports. How its arguments are read and which events are shown
is for libraries to say, and left open here.
-/

namespace SerialScript.Program

inductive Exit where
  | success
  | failure
  | misuse
  deriving DecidableEq, Repr

def Exit.code : Exit → Nat
  | success => 0
  | failure => 1
  | misuse => 2

structure Ending where
  exit : Exit
  events : List Event
  /-- How long the run took, in milliseconds. -/
  elapsed : Nat

def loadFailure (path : String) (cause : Fault) : Event where
  level := .error
  origin := .program
  message := (Fault.during (.loadingScript path) cause).message

def loaded (path script : String) : Event where
  level := .info
  origin := .program
  message := "cmdscript loaded"
  fields := [("file", path), ("directives", toString (Script.accepted script).length)]

/-- Loads the script under a path, runs it and closes what is left open. -/
def runFile (path : String) (host : Host) : Ending :=
  match Script.load host path with
  | .error cause => ⟨.failure, [loadFailure path cause], 0⟩
  | .ok script =>
    let start : Session NoStream Host := { bench := { world := host } }
    let (result, s) :=
      ((Script.readingEvents script ++ [loaded path script]).foldl Session.report start).run
        (Script.accepted script)
    let s := s.shutdown
    let exit := match result with
      | .ok () => .success
      | .error _ => .failure
    ⟨exit, s.bench.log.toList, s.bench.clock⟩

structure Report where
  exit : Exit
  output : List String := []
  errors : List String := []
  elapsed : Nat := 0

/-- The program with any reader of arguments, which shows the events that `shows` lets through. -/
def runWith (readArguments : List String → CommandLine.Request)
    (shows : CommandLine.Options → Event → Bool) (arguments : List String) (host : Host) : Report :=
  match readArguments arguments with
  | .showHelp => { exit := .success, output := CommandLine.helpLines }
  | .showVersion => { exit := .success, output := [CommandLine.versionLine] }
  | .refuse fault => { exit := .misuse, errors := fault.lines.flatMap Text.lines }
  | .start options =>
    match options.file with
    | none => { exit := .success, output := CommandLine.helpLines }
    | some path =>
      let ending := runFile path host
      let shown := ending.events.filter (shows options)
      { exit := ending.exit
        errors := (shown.map CommandLine.showEvent).flatMap Text.lines
        elapsed := ending.elapsed }

end SerialScript.Program
