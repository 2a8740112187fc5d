import SerialScript.Event
import SerialScript.Fault

/-!
What a script talks through. A transport opens byte streams on request; its streams may share a
world with one another. Time passes only where a transport or a pause says so, hence the clock is
part of the state and a run is a function of its start.

The clock has no bound: every deadline is a number. A machine breaks off where the present moment
and a timeout add up to more than its clock can tell, which takes a timeout near 2 ^ 63 seconds. No
script can ask for one, and that is not modelled.
-/

namespace SerialScript

/-- The surroundings of a run: the shared world, the time and what has been reported. -/
structure Bench (W : Type) where
  world : W
  /-- Milliseconds since the start. -/
  clock : Nat := 0
  log : Array Event := #[]

namespace Bench

variable {W : Type}

def report (b : Bench W) (event : Event) : Bench W := { b with log := b.log.push event }

def wait (b : Bench W) (ms : Nat) : Bench W := { b with clock := b.clock + ms }

end Bench

abbrev Outcome (α : Type) := Except Stop α

def Outcome.fail {α : Type} (cause : Fault) : Outcome α := .error (.fault cause)

def Outcome.during {α : Type} (activity : Activity) : Outcome α → Outcome α
  | .ok value => .ok value
  | .error stop => .error (stop.during activity)

/-- A way to open streams `S` that share a world `W`. -/
class Transport (S : Type) (W : outParam Type) where
  /-- Opens a port at a baud rate, given the response timeout and the timeout for opening. -/
  openPort : String → UInt32 → Nat → Nat → Bench W → Outcome S × Bench W
  isOpen : S → Bool
  close : S → Bench W → S × Bench W
  /-- Changes the response timeout of a stream that is in use. -/
  setTimeout : Nat → S → Bench W → S × Bench W
  write : List UInt8 → S → Bench W → Outcome Unit × S × Bench W
  /-- Waits at most the given time for a text, and hands over what was received up to its end.
  The empty text says that the time ran out. -/
  readUntil : String → Nat → S → Bench W → Outcome String × S × Bench W
  /-- Gives up a stream for good. -/
  discard : S → Bench W → Bench W

end SerialScript
