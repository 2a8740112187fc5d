import SerialScript.Keyword

namespace SerialScript

inductive Level where
  | error
  | warn
  | info
  | debug
  | trace
  deriving DecidableEq, Repr

inductive Origin where
  | program
  | reader
  | engine
  | directive (keyword : Keyword)
  | port
  deriving DecidableEq, Repr

structure Event where
  level : Level
  origin : Origin
  message : String
  /-- Named values, in the order in which they are shown. -/
  fields : List (String × String) := []
  deriving DecidableEq, Repr

namespace Level

def name : Level → String
  | error => "ERROR"
  | warn => "WARN"
  | info => "INFO"
  | debug => "DEBUG"
  | trace => "TRACE"

/-- How much is shown at this level: everything of no greater verbosity. -/
def verbosity : Level → Nat
  | error => 1
  | warn => 2
  | info => 3
  | debug => 4
  | trace => 5

end Level

end SerialScript
