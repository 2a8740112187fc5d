import SerialScript.Keyword

namespace SerialScript.Script

inductive Newline where
  | lf
  | crlf
  deriving DecidableEq, Repr

def Newline.text : Newline → String
  | lf => "\n"
  | crlf => "\r\n"

def printLine (keyword : Keyword) (arguments : List String) : String :=
  String.intercalate " " (keyword.spelling :: arguments)

/-- The text of a script. Each line may be ended in its own way; the last one has an end or not. -/
def print (newline : Nat → Newline) (ended : Bool) : List (Keyword × List String) → String
  | [] => ""
  | [line] => printLine line.1 line.2 ++ if ended then (newline 0).text else ""
  | line :: next :: later =>
    printLine line.1 line.2 ++ (newline 0).text ++
      print (fun i => newline (i + 1)) ended (next :: later)

end SerialScript.Script
