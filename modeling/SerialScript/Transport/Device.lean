/-!
A serial device that follows a script: what each call on it will answer, and when. Delays are the
device's own, so a read that is cut short by its timeout leaves the rest of the delay for the
next one.
-/

namespace SerialScript

inductive FailureKind where
  | interrupted
  | timedOut
  | wouldBlock
  | brokenPipe
  | unexpectedEof
  | permissionDenied
  | other
  deriving DecidableEq, Repr

structure Failure where
  kind : FailureKind
  message : String
  deriving DecidableEq, Repr

/-- Bytes, possibly none, or a failure that a device has ready after a delay. -/
structure Reading where
  delay : Nat := 0
  content : Except Failure (List UInt8)

inductive Acceptance where
  | all
  | atMost (count : Nat)
  | failing (failure : Failure)
  deriving DecidableEq, Repr

structure Device where
  /-- Which of the devices handed out so far this is. -/
  id : Nat
  /-- What is left of a reading that was longer than one read. -/
  held : List UInt8 := []
  readings : List Reading := []
  /-- How the next writes are taken; later ones are taken whole. -/
  acceptances : List Acceptance := []
  /-- The failures of the next flushes; later ones succeed. -/
  flushes : List (Option Failure) := []
  /-- The failures of the next changes of the timeout; later ones succeed. -/
  settings : List (Option String) := []
  timeout : Nat

namespace Device

def readSize : Nat := 1024

def setTimeout (ms : Nat) (d : Device) : Option String × Device :=
  match d.settings with
  | some reason :: rest => (some reason, { d with settings := rest })
  | none :: rest => (none, { d with settings := rest, timeout := ms })
  | [] => (none, { d with timeout := ms })

inductive Received where
  | bytes (chunk : List UInt8)
  | nothingInTime
  | failure (cause : Failure)

def read (d : Device) : Received × Nat × Device :=
  match d.held with
  | _ :: _ => (.bytes (d.held.take readSize), 0, { d with held := d.held.drop readSize })
  | [] =>
    match d.readings with
    | [] => (.nothingInTime, d.timeout, d)
    | r :: rest =>
      if d.timeout < r.delay then
        (.nothingInTime, d.timeout,
          { d with readings := { r with delay := r.delay - d.timeout } :: rest })
      else
        match r.content with
        | .error cause => (.failure cause, r.delay, { d with readings := rest })
        | .ok bytes =>
          (.bytes (bytes.take readSize), r.delay,
            { d with readings := rest, held := bytes.drop readSize })

/-- What a device still has to deliver, counted so that each read that brings anything, even an
empty chunk or a failure, makes it less. -/
def load (d : Device) : Nat :=
  d.held.length + d.readings.foldr (fun r later =>
    match r.content with
    | .ok bytes => bytes.length + 1 + later
    | .error _ => 1 + later) 0

def flush (d : Device) : Option Failure × Device :=
  match d.flushes with
  | outcome :: rest => (outcome, { d with flushes := rest })
  | [] => (none, d)

/-- A read either lets the whole timeout pass or uses up some of the load. -/
theorem read_progress (d : Device) :
    ((d.read).1 = .nothingInTime ∧ d.read.2.1 = d.timeout ∧ d.read.2.2.load = d.load) ∨
      d.read.2.2.load < d.load := by
  unfold read
  split
  · rename_i b held hh
    right
    simp only [load, hh, List.length_drop, List.length_cons, readSize]
    omega
  · rename_i hh
    split
    · left
      exact ⟨rfl, rfl, rfl⟩
    · rename_i r rest hr
      split
      · left
        simp [load, hr]
      · split
        · rename_i hc
          right
          simp [load, hr, hc]
        · rename_i bytes hc
          right
          simp only [load, hr, hh, hc, List.foldr_cons, List.length_drop, List.length_nil, readSize]
          omega

end Device

end SerialScript
