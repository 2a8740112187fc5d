import SerialScript.Keyword
import SerialScript.Text.Blank

namespace SerialScript

structure Line where
  /-- The place of the line in its script, from 1. -/
  number : Nat
  text : String
  deriving DecidableEq, Repr

namespace Line

/-- The first word, empty if there is none, and the words after it. -/
def split (line : Line) : String × List String :=
  match Text.tokens line.text with
  | [] => ("", [])
  | word :: arguments => (word, arguments)

def keyword? (line : Line) : Option Keyword := Keyword.ofSpelling? line.split.1

def arguments (line : Line) : List String := line.split.2

end Line

end SerialScript
