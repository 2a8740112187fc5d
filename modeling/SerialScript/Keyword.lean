namespace SerialScript

inductive Keyword where
  | connect
  | disconnect
  | cfgEol
  | cfgResTimeout
  | delay
  | delayMs
  | eol
  | cmd
  | res
  deriving DecidableEq, Repr

namespace Keyword

/-- Every keyword, in the order in which they are listed to a user. -/
def all : List Keyword :=
  [connect, disconnect, cfgEol, cfgResTimeout, delay, delayMs, eol, cmd, res]

def spelling : Keyword → String
  | connect => "CONNECT"
  | disconnect => "DISCONNECT"
  | cfgEol => "CFGEOL"
  | cfgResTimeout => "CFGRESTIMEOUT"
  | delay => "DELAY"
  | delayMs => "DELAYMS"
  | eol => "EOL"
  | cmd => "CMD"
  | res => "RES"

def ofSpelling? (s : String) : Option Keyword := all.find? fun k => k.spelling == s

theorem mem_all (k : Keyword) : k ∈ all := by
  cases k <;> decide

theorem ofSpelling?_spelling (k : Keyword) : ofSpelling? k.spelling = some k := by
  cases k <;> decide

theorem spelling_of_ofSpelling? {s : String} {k : Keyword} (h : ofSpelling? s = some k) :
    k.spelling = s := by
  simpa using List.find?_some h

end Keyword

end SerialScript
