import SerialScript.Text.Pieces

/-!
What a host finds under a path, and why it may refuse to open it. Paths are walked component by
component, so that a file in the middle of a path is told from a missing one.
-/

namespace SerialScript

inductive Refusal where
  /-- The path holds a NUL, which no name can. -/
  | notAName
  | notFound
  | notADirectory
  | isADirectory
  | nameTooLong
  | notATerminal
  deriving DecidableEq, Repr

namespace Refusal

def reason : Refusal → String
  | notAName => "Invalid argument"
  | notFound => "No such file or directory"
  | notADirectory => "Not a directory"
  | isADirectory => "Is a directory"
  | nameTooLong => "File name too long"
  | notATerminal => "Not a typewriter"

def number : Refusal → Nat
  | notAName => 22
  | notFound => 2
  | notADirectory => 20
  | isADirectory => 21
  | nameTooLong => 36
  | notATerminal => 25

/-- The reason with its number, as it is given for a file. That a path cannot be a name is found
before the system is asked, so this has no number. -/
def numbered (r : Refusal) : String :=
  if r = notAName then "file name contained an unexpected NUL byte"
  else r.reason ++ " (os error " ++ toString r.number ++ ")"

end Refusal

inductive Node where
  | file (bytes : List UInt8)
  | directory
  deriving DecidableEq, Repr

/-- Files and directories by their components from the root. A directory that holds something
need not be listed. -/
structure Host where
  nodes : List (List String × Node) := []
  /-- The directory where relative paths start. -/
  home : List String := []

namespace Host

def nameLimit : Nat := 255

/-- One more than the longest path, in bytes. -/
def pathLimit : Nat := 4096

def pieces (path : String) : List String := (Text.pieces '/' path.toList).map String.ofList

def node? (host : Host) (place : List String) : Option Node :=
  if place = [] then some .directory
  else
    match host.nodes.find? fun entry => entry.1 == place with
    | some entry => some entry.2
    | none => if host.nodes.any fun entry => place.isPrefixOf entry.1 then some .directory else none

/-- Walks the pieces of a path from a place that is a directory or a file. A file cannot be walked
through, not even by an empty piece at the end. -/
def walk (host : Host) : List String → List String → Node → Except Refusal Node
  | [], _, node => .ok node
  | piece :: later, place, node =>
    match node with
    | .file _ => .error .notADirectory
    | .directory =>
      if piece = "" ∨ piece = "." then host.walk later place .directory
      else if piece = ".." then host.walk later place.dropLast .directory
      else if nameLimit < piece.utf8ByteSize then .error .nameTooLong
      else
        match host.node? (place ++ [piece]) with
        | none => .error .notFound
        | some next => host.walk later (place ++ [piece]) next

def find (host : Host) (path : String) : Except Refusal Node :=
  if path.toList.contains (Char.ofNat 0) then .error .notAName
  else if path = "" then .error .notFound
  else if pathLimit ≤ path.utf8ByteSize then .error .nameTooLong
  else if path.toList.head? = some '/' then host.walk (pieces path) [] .directory
  else host.walk (pieces path) host.home .directory

def readFile (host : Host) (path : String) : Except Refusal (List UInt8) :=
  match host.find path with
  | .error refusal => .error refusal
  | .ok .directory => .error .isADirectory
  | .ok (.file bytes) => .ok bytes

/-- Why a path cannot be opened as a terminal. Nothing under this host is one. -/
def refuseTerminal (host : Host) (path : String) : Refusal :=
  match host.find path with
  | .error refusal => refusal
  | .ok .directory => .isADirectory
  | .ok (.file _) => .notATerminal

/-- The place that a path leads to if nothing is in its way. -/
def place (home : List String) (path : String) : List String :=
  (pieces path).foldl
    (fun place piece =>
      if piece = "" ∨ piece = "." then place
      else if piece = ".." then place.dropLast
      else place ++ [piece])
    (if path.toList.head? = some '/' then [] else home)

end Host

end SerialScript
