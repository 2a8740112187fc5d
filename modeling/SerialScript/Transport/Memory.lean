import SerialScript.Text.Occurrence
import SerialScript.Text.Utf8
import SerialScript.Transport.Basic

/-!
A transport held in memory, for rehearsing a script. It answers exact writes with set replies and
records what was written and opened. All its streams share one inbound text.
-/

namespace SerialScript

structure Memory where
  /-- What is received after a write of exactly these bytes. -/
  replies : List (List UInt8 × String) := []
  /-- Text that has been received and not been read. -/
  inbound : String := ""
  writes : Array (List UInt8) := #[]
  opened : Array (String × UInt32) := #[]
  /-- If present, every attempt to open fails for this reason. -/
  refusal : Option String := none
  /-- Whether streams are closed from the start. -/
  opensClosed : Bool := false
  isOpen : Bool := false
  timeout : Option Nat := none
  closes : Nat := 0
  deriving Repr

namespace Memory

/-- A stream knows only whether it is open itself. -/
structure Stream where
  isOpen : Bool
  deriving DecidableEq, Repr

def repliesTo (m : Memory) (data : List UInt8) : List String :=
  (m.replies.filter fun r => r.1 == data).map Prod.snd

def openPort (port : String) (baud : UInt32) (responseTimeout _openTimeout : Nat)
    (b : Bench Memory) : Outcome Stream × Bench Memory :=
  match b.world.refusal with
  | some reason => (.fail (.reported reason), b)
  | none =>
    let isOpen := !b.world.opensClosed
    let world :=
      { b.world with
        opened := b.world.opened.push (port, baud), isOpen, timeout := some responseTimeout }
    (.ok ⟨isOpen⟩, { b with world })

def close (s : Stream) (b : Bench Memory) : Stream × Bench Memory :=
  if s.isOpen then
    (⟨false⟩, { b with world := { b.world with isOpen := false, closes := b.world.closes + 1 } })
  else (s, b)

def setTimeout (ms : Nat) (s : Stream) (b : Bench Memory) : Stream × Bench Memory :=
  (s, { b with world := { b.world with timeout := some ms } })

def write (data : List UInt8) (s : Stream) (b : Bench Memory) :
    Outcome Unit × Stream × Bench Memory :=
  if s.isOpen then
    let received := String.join (b.world.repliesTo data)
    let world :=
      { b.world with writes := b.world.writes.push data, inbound := b.world.inbound ++ received }
    (.ok (), s, { b with world })
  else (.fail .memoryStreamClosed, s, b)

/-- Nothing arrives while a stream waits, so a text that is not there yet takes the whole time. -/
def readUntil (pattern : String) (ms : Nat) (s : Stream) (b : Bench Memory) :
    Outcome String × Stream × Bench Memory :=
  if s.isOpen then
    match Text.takeThrough pattern.toList b.world.inbound.toList with
    | some (found, rest) =>
      (.ok (String.ofList found), s,
        { b with world := { b.world with inbound := String.ofList rest } })
    | none => (.ok "", s, b.wait ms)
  else (.fail .memoryStreamClosed, s, b)

instance : Transport Stream Memory where
  openPort := openPort
  isOpen s := s.isOpen
  close := close
  setTimeout := setTimeout
  write := write
  readUntil := readUntil
  discard _ b := b

end Memory

end SerialScript
