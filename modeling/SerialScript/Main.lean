import SerialScript.Directive
import SerialScript.Program

/-!
The program as a command. Everything that a run can depend on is read first; the run itself is a
function of that. Serial devices cannot be reached from here, so no port can be opened.
-/

namespace SerialScript.Main

/-- What is found under a path, if anything. The bytes of a file are read only if asked for. -/
def inspect (withBytes : Bool) (path : String) : IO (Option Node) := do
  let full := (← IO.currentDir) / path
  if ← full.isDir then return some .directory
  if ← full.pathExists then
    if withBytes then return some (.file (← IO.FS.readBinFile full).toList)
    return some (.file [])
  return none

def portsOf (script : String) : List String :=
  (Script.accepted script).filterMap fun line =>
    match line.keyword? with
    | some .connect => line.arguments.head?
    | _ => none

def leadingPaths (path : String) : List String :=
  let pieces := Host.pieces path
  (List.range pieces.length).map fun n => String.intercalate "/" (pieces.take (n + 1))

def nodesFor (withBytes : Bool) (home : List String) (path : String) :
    IO (List (List String × Node)) := do
  let mut nodes := []
  for path in leadingPaths path do
    if let some node ← inspect withBytes path then
      nodes := (Host.place home path, node) :: nodes
  return nodes

/-- The host as far as a run of the script under a path can notice it. -/
def hostFor (path : String) : IO Host := do
  let home := (Host.pieces (← IO.currentDir).toString).filter fun piece => piece ≠ ""
  let mut nodes := (home, Node.directory) :: (← nodesFor true home path)
  let script :=
    match ({ nodes, home } : Host).readFile path with
    | .ok bytes => (Text.decode? bytes).getD ""
    | .error _ => ""
  for port in portsOf script do
    nodes := nodes ++ (← nodesFor false home port)
  return { nodes, home }

end SerialScript.Main

open SerialScript in
def main (arguments : List String) : IO UInt32 := do
  let environment ← IO.getEnv "RUST_LOG"
  let host ← match CommandLine.Request.ofArguments arguments with
    | .start options =>
      match options.file with
      | some path => Main.hostFor path
      | none => pure {}
    | _ => pure {}
  let report := Program.run arguments environment host
  IO.sleep report.elapsed.toUInt32
  let stdout ← IO.getStdout
  let stderr ← IO.getStderr
  for line in report.output do
    stdout.putStrLn line
  for line in report.errors do
    stderr.putStrLn line
  return report.exit.code.toUInt32
