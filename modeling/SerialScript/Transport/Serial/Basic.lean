import SerialScript.Text.Escaped
import SerialScript.Text.Utf8
import SerialScript.Transport.Basic
import SerialScript.Transport.Device

/-!
Serial streams over scripted devices. A stream owns its device until it is closed, and the world
keeps the list of calls made on all devices, so what went over the wire can be told afterwards.
-/

namespace SerialScript.Serial

/-- A call on a device, or a change in who owns one. -/
inductive Call where
  | asked (port : String) (baud : UInt32) (responseTimeout openTimeout : Nat)
  | handedOut (device : Nat)
  | timeoutSet (ms : Nat)
  /-- A write call under this timeout, with the bytes it accepted unless it failed. -/
  | write (timeout : Nat) (accepted : Option (List UInt8))
  | flush
  /-- A read call, with the bytes that it brought. -/
  | read (chunk : List UInt8)
  | released (device : Nat)
  deriving DecidableEq, Repr

inductive Port where
  | refusing (reason : String)
  /-- A device, taken away at once if `closed`. -/
  | ready (device : Device) (closed : Bool)

/-- The ports that are still to be handed out, and the calls made so far. -/
structure World where
  ports : List Port := []
  handedOut : Nat := 0
  /-- The calls in order, each with the time at which it had been made. -/
  calls : Array (Nat × Call) := #[]

structure Stream where
  name : String
  /-- The device, while the stream is open. -/
  device : Option Device
  writeTimeout : Nat
  /-- Received bytes that no read has matched. -/
  pending : List UInt8 := []

def record (b : Bench World) (call : Call) : Bench World :=
  { b with world := { b.world with calls := b.world.calls.push (b.clock, call) } }

def traceBytes (name : String) (message : String) (bytes : List UInt8) : Event where
  level := .trace
  origin := .port
  message := message
  fields := [("port", name), ("data", Text.escape (Text.decodeLossy bytes))]

def Stream.isOpen (s : Stream) : Bool := s.device.isSome

/-- Releases the device. A stream that is closed already stays as it is. -/
def close (s : Stream) (b : Bench World) : Stream × Bench World :=
  match s.device with
  | none => (s, b)
  | some d =>
    let closed : Event :=
      { level := .debug, origin := .port, message := "serial port closed",
        fields := [("port", s.name)] }
    ({ s with device := none }, (record b (.released d.id)).report closed)

def openPort (port : String) (baud : UInt32) (responseTimeout openTimeout : Nat)
    (b : Bench World) : Outcome Stream × Bench World :=
  let b := record b (.asked port baud responseTimeout openTimeout)
  match b.world.ports with
  | [] => (.fail (.reported "no more ports"), b)
  | .refusing reason :: ports =>
    (.fail (.reported reason), { b with world := { b.world with ports } })
  | .ready device closed :: ports =>
    let id := b.world.handedOut
    let world := { b.world with ports, handedOut := id + 1 }
    let b := record { b with world } (.handedOut id)
    let s : Stream :=
      { name := port, device := some { device with id, timeout := openTimeout },
        writeTimeout := openTimeout }
    if closed then ((.ok (close s b).1), (close s b).2) else (.ok s, b)

/-- Changes the timeout of a device; only a change that succeeds is recorded. -/
def setDeviceTimeout (ms : Nat) (d : Device) (b : Bench World) :
    Outcome Unit × Device × Bench World :=
  match d.setTimeout ms with
  | (some reason, d) => (.fail (.reported reason), d, b)
  | (none, d) => (.ok (), d, record b (.timeoutSet ms))

end SerialScript.Serial
