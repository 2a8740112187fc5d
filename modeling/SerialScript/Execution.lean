import SerialScript.Directive
import SerialScript.Session
import SerialScript.Text.Escaped
import SerialScript.Text.Utf8

namespace SerialScript

/-- The baud rates that most devices support. Any other is allowed, with a warning. -/
def commonBaudRates : List UInt32 :=
  [50, 75, 110, 134, 150, 200, 300, 600, 1200, 1800, 2400, 4800, 9600, 19200, 38400, 57600,
    115200, 230400, 460800, 500000, 576000, 921600]

namespace Directive

variable {S W : Type} [Transport S W]

def event (d : Directive) (level : Level) (message : String) : Event where
  level := level
  origin := .directive d.keyword
  message := message

def reportSuccess (d : Directive) (message : String) :
    Outcome Unit × Session S W → Outcome Unit × Session S W
  | (.ok (), s) => (.ok (), s.report (d.event .info message))
  | (.error stop, s) => (.error stop, s)

def executeConnect (port : String) (baud : UInt32) (s : Session S W) :
    Outcome Unit × Session S W :=
  let d := connect port baud
  let rate := toString baud.toNat
  let s :=
    if commonBaudRates.contains baud then s
    else
      s.report (d.event .warn ("CONNECT " ++ rate ++ " bauds is not a common serial baud rate"))
  let s :=
    s.report (d.event .info ("CONNECT Opening Serial port " ++ port ++ " at " ++ rate ++ " bauds..."))
  let (result, s) := s.connect port baud
  d.reportSuccess "CONNECT Serial port open." (result.during .connecting, s)

def executeDisconnect (port : String) (s : Session S W) : Session S W :=
  let d := disconnect port
  let (wasOpen, s) := s.disconnect
  let s :=
    if wasOpen then s
    else
      s.report { d.event .debug "DISCONNECT with no open port" with fields := [("port", port)] }
  s.report (d.event .info ("DISCONNECT Serial port " ++ port ++ " close."))

/-- Sets the timeout for responses to come, and that of a stream that is in use. -/
def executeCfgResTimeout (ms : Nat) (s : Session S W) : Session S W :=
  let s := { s with responseTimeout := ms }
  let s :=
    match s.stream with
    | none => s
    | some stream =>
      let (stream, bench) := Transport.setTimeout ms stream s.bench
      { s with stream := some stream, bench }
  s.report ((cfgResTimeout ms).event .info
    ("CFGRESTIMEOUT Response timeout set to " ++ toString ms ++ "ms"))

def executeCmd (text : String) (s : Session S W) : Outcome Unit × Session S W :=
  (cmd text).reportSuccess ("CMD Send command: " ++ text)
    (s.send Keyword.cmd.spelling (.sendingCommand text) (Text.toBytes text ++ s.eol.bytes))

def executeEol (s : Session S W) : Outcome Unit × Session S W :=
  eol.reportSuccess ("EOL Send End Of Line (" ++ s.eol.name ++ ")")
    (s.send Keyword.eol.spelling .sendingEol s.eol.bytes)

/-- Waits for a response. Nothing received is a fault, whatever was waited for. -/
def executeRes (pattern : String) (s : Session S W) : Outcome Unit × Session S W :=
  match s.requireStream Keyword.res.spelling with
  | .error stop => (.error stop, s)
  | .ok stream =>
    let (result, stream, bench) := Transport.readUntil pattern s.responseTimeout stream s.bench
    let s := { s with stream := some stream, bench }
    match result with
    | .error stop => (.error stop, s)
    | .ok received =>
      if received = "" then (.fail (.noResponse s.responseTimeout pattern), s)
      else
        let d := res pattern
        let raw : Event :=
          { d.event .debug "RES raw response" with fields := [("received", Text.escape received)] }
        (.ok (),
          (s.report raw).report (d.event .info ("RES Received expected response: " ++ pattern)))

def execute (d : Directive) (s : Session S W) : Outcome Unit × Session S W :=
  match d with
  | connect port baud => executeConnect port baud s
  | disconnect port => (.ok (), executeDisconnect port s)
  | cfgEol convention =>
    (.ok (), { s with eol := convention }.report
      (d.event .info ("CFGEOL End Of Line set to " ++ convention.name)))
  | cfgResTimeout ms => (.ok (), executeCfgResTimeout ms s)
  | delay seconds =>
    let s := s.report (d.event .info ("DELAY Waiting for " ++ toString seconds ++ "s..."))
    (.ok (), { s with bench := s.bench.wait d.pause })
  | delayMs ms =>
    let s := s.report (d.event .info ("DELAYMS Waiting for " ++ toString ms ++ "ms..."))
    (.ok (), { s with bench := s.bench.wait d.pause })
  | eol => executeEol s
  | cmd text => executeCmd text s
  | res pattern => executeRes pattern s

end Directive

namespace Session

variable {S W : Type} [Transport S W]

def perform (keyword : Keyword) (arguments : List String) (s : Session S W) :
    Outcome Unit × Session S W :=
  match Directive.ofArguments keyword arguments with
  | .error cause => (.fail cause, s)
  | .ok d => d.execute s

/-- Performs the directive that a word names, and answers with its keyword. -/
def performWord (word : String) (arguments : List String) (s : Session S W) :
    Outcome Keyword × Session S W :=
  match readKeyword word with
  | .error cause => (.fail cause, s)
  | .ok keyword =>
    let (result, s) := s.perform keyword arguments
    (result.map fun _ => keyword, s)

end Session

end SerialScript
