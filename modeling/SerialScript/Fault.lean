import SerialScript.Keyword

/-!
What can go wrong, as causes. A fault is a root cause inside any number of contexts, and `chain`
is the only place that words it.
-/

namespace SerialScript

inductive Activity where
  | runningLine (number : Nat) (text : String)
  | choosingEol
  | connecting
  | sendingCommand (text : String)
  | sendingEol
  | openingDevice (port : String) (baud : UInt32)
  | writingTo (port : String)
  | readingFrom (port : String)
  | readingScript (path : String)
  | loadingScript (path : String)
  deriving DecidableEq, Repr

inductive Fault where
  | unknownDirective (word : String)
  | missingArguments (directive : String)
  | negativeCount (directive quantity argument : String)
  | countOutOfRange (directive quantity argument : String)
  | notACount (directive quantity argument : String)
  | notABaudRate (argument : String)
  | baudRateOutOfRange (argument : String)
  | unknownEol (argument : String)
  | notConnected (directive : String)
  | closedOnOpening (port : String)
  | noResponse (waited : Nat) (pattern : String)
  | memoryStreamClosed
  | portClosed (port : String)
  | writeStalled
  | notUtf8
  /-- A reason worded by a device or by the host. -/
  | reported (reason : String)
  | during (activity : Activity) (cause : Fault)
  deriving DecidableEq, Repr

namespace Activity

def message : Activity → String
  | runningLine number text => "line " ++ toString number ++ ": " ++ text
  | choosingEol => "CFGEOL command without correct EOL value"
  | connecting => "CONNECT Can't open Serial port"
  | sendingCommand text => "CMD Fail to send command: " ++ text
  | sendingEol => "EOL Fail to send End Of Line"
  | openingDevice port baud =>
    "Failed to open serial port " ++ port ++ " at " ++ toString baud.toNat ++ " bauds"
  | writingTo port => "Failed to write to serial port " ++ port
  | readingFrom port => "Failed to read from serial port " ++ port
  | readingScript path => "Failed to read script file: " ++ path
  | loadingScript path => "Failed to load cmdscript: " ++ path

end Activity

namespace Fault

/-- The messages of a fault, from the outermost activity to the root cause. -/
def chain : Fault → List String
  | unknownDirective word => ["Unknown directive: " ++ word]
  | missingArguments directive => [directive ++ " command without required arguments"]
  | negativeCount directive quantity argument =>
    [directive ++ " " ++ quantity ++ " must not be negative, got '" ++ argument ++ "'"]
  | countOutOfRange directive quantity argument =>
    [directive ++ " " ++ quantity ++ " out of range, got '" ++ argument ++ "'"]
  | notACount directive quantity argument =>
    [directive ++ " command without correct " ++ quantity ++ " (integer), got '" ++ argument ++ "'"]
  | notABaudRate argument => ["CONNECT command without valid baudrate: '" ++ argument ++ "'"]
  | baudRateOutOfRange argument => ["CONNECT baudrate out of range: '" ++ argument ++ "'"]
  | unknownEol argument =>
    ["Invalid EOL value '" ++ argument ++ "' (expected CR, LF or CRLF)"]
  | notConnected directive => [directive ++ ": not connected (missing CONNECT?)"]
  | closedOnOpening port => ["Serial port " ++ port ++ " did not stay open"]
  | noResponse waited pattern =>
    ["RES Fail to receive expected response within " ++ toString waited ++ "ms: " ++ pattern]
  | memoryStreamClosed => ["Fake stream is closed"]
  | portClosed port => ["Serial port " ++ port ++ " is closed"]
  | writeStalled => ["failed to write whole buffer"]
  | notUtf8 => ["stream did not contain valid UTF-8"]
  | reported reason => [reason]
  | during activity cause => activity.message :: cause.chain

def message (fault : Fault) : String := String.intercalate ": " fault.chain

end Fault

/-- Why an operation has no result: a fault that is reported, or a program that broke off. -/
inductive Stop where
  | fault (cause : Fault)
  | broken
  deriving DecidableEq, Repr

def Stop.during (activity : Activity) : Stop → Stop
  | fault cause => fault (.during activity cause)
  | broken => broken

end SerialScript
