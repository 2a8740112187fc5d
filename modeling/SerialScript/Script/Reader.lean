import SerialScript.Event
import SerialScript.Fault
import SerialScript.Host
import SerialScript.Script.Line
import SerialScript.Text.Pieces
import SerialScript.Text.Utf8

/-!
Reading a script. Reading only sorts lines into those that are executed, those that are passed
over and those that are reported as unknown; it never fails on a text.
-/

namespace SerialScript.Script

def unixNewlines : List Char → List Char
  | '\r' :: '\n' :: rest => '\n' :: unixNewlines rest
  | c :: rest => c :: unixNewlines rest
  | [] => []

inductive Verdict where
  | passOver
  | accept
  | reportUnknown
  deriving DecidableEq, Repr

def verdict (line : Line) : Verdict :=
  match line.text.toList with
  | [] => .passOver
  | '#' :: _ => .passOver
  | _ => if line.keyword?.isSome then .accept else .reportUnknown

def numberedLines (script : String) : List Line :=
  ((Text.pieces '\n' (unixNewlines script.toList)).zipIdx 1).map fun (text, number) =>
    ⟨number, String.ofList text⟩

def accepted (script : String) : List Line :=
  (numberedLines script).filter fun line => verdict line = .accept

/-- The lines that are left out with a warning. -/
def unknown (script : String) : List Line :=
  (numberedLines script).filter fun line => verdict line = .reportUnknown

def unknownWarning (line : Line) : Event where
  level := .warn
  origin := .reader
  message := "Ignoring unknown command found in cmdscript: " ++ line.text

/-- What reading a script reports: a warning for each unknown line, then how many were accepted. -/
def readingEvents (script : String) : List Event :=
  (unknown script).map unknownWarning ++
    [{ level := .debug, origin := .reader, message := "cmdscript parsed",
       fields := [("accepted", toString (accepted script).length)] }]

def load (host : Host) (path : String) : Except Fault String :=
  match host.readFile path with
  | .error refusal => .error (.during (.readingScript path) (.reported refusal.numbered))
  | .ok bytes =>
    match Text.decode? bytes with
    | none => .error (.during (.readingScript path) .notUtf8)
    | some text => .ok text

end SerialScript.Script
