namespace SerialScript

/-- What ends a command line on the wire. -/
inductive Eol where
  | cr
  | lf
  | crlf
  deriving DecidableEq, Repr

namespace Eol

def name : Eol → String
  | cr => "CR"
  | lf => "LF"
  | crlf => "CRLF"

def bytes : Eol → List UInt8
  | cr => [0x0D]
  | lf => [0x0A]
  | crlf => [0x0D, 0x0A]

def ofName? (s : String) : Option Eol := [cr, lf, crlf].find? fun eol => eol.name == s

theorem ofName?_name (eol : Eol) : ofName? eol.name = some eol := by
  cases eol <;> decide

end Eol

end SerialScript
