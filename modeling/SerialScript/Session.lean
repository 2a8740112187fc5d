import SerialScript.Eol
import SerialScript.Transport.Basic

namespace SerialScript

/-- The response timeout until a script sets one, in milliseconds. -/
def defaultResponseTimeout : Nat := 1000

def openTimeout : Nat := 1000

structure Session (S W : Type) where
  eol : Eol := .cr
  responseTimeout : Nat := defaultResponseTimeout
  /-- The stream that was opened last and not given up. It may have been closed in place. -/
  stream : Option S := none
  bench : Bench W

namespace Session

variable {S W : Type} [Transport S W]

def report (s : Session S W) (event : Event) : Session S W :=
  { s with bench := s.bench.report event }

def isConnected (s : Session S W) : Bool :=
  match s.stream with
  | some stream => Transport.isOpen stream
  | none => false

def closeStream (s : Session S W) : Bool × Session S W :=
  match s.stream with
  | none => (false, s)
  | some stream =>
    let (stream, bench) := Transport.close stream s.bench
    (true, { s with stream := some stream, bench })

/-- Closes the stream and gives it up, and tells whether it was open. -/
def disconnect (s : Session S W) : Bool × Session S W :=
  match s.stream with
  | none => (false, s)
  | some stream =>
    let (closed, bench) := Transport.close stream s.bench
    (Transport.isOpen stream, { s with stream := none, bench := Transport.discard closed bench })

/-- Opens a port in place of the stream there is. A stream that is not open is given up. -/
def connect (port : String) (baud : UInt32) (s : Session S W) : Outcome Unit × Session S W :=
  let s := s.disconnect.2
  match Transport.openPort port baud s.responseTimeout openTimeout s.bench with
  | (.error stop, bench) => (.error stop, { s with bench })
  | (.ok stream, bench) =>
    if Transport.isOpen stream then (.ok (), { s with stream := some stream, bench })
    else
      (.fail (.closedOnOpening port), { s with bench := Transport.discard (S := S) stream bench })

def requireStream (directive : String) (s : Session S W) : Outcome S :=
  match s.stream with
  | some stream =>
    if Transport.isOpen stream then .ok stream else .fail (.notConnected directive)
  | none => .fail (.notConnected directive)

/-- Writes to the open stream, for the directive of that name. Only the write itself counts as the
activity, so a missing stream is not part of it. -/
def send (directive : String) (activity : Activity) (data : List UInt8) (s : Session S W) :
    Outcome Unit × Session S W :=
  match s.requireStream directive with
  | .error stop => (.error stop, s)
  | .ok stream =>
    let (result, stream, bench) := Transport.write data stream s.bench
    (result.during activity, { s with stream := some stream, bench })

end Session

end SerialScript
