import SerialScript.Event

/-!
How events are written for a reader. This stands for the library that shows the log; nothing is
proved of it.
-/

namespace SerialScript.CommandLine

/-- A message as it is shown: control characters that a terminal would act on are spelled out. -/
def showChar (c : Char) : List Char :=
  let n := c.toNat
  if n = 0x07 || n = 0x08 || n = 0x0C || n = 0x1B || n = 0x7F then
    ['\\', 'x', Nat.digitChar (n / 16), Nat.digitChar (n % 16)]
  else if 0x80 ≤ n && n ≤ 0x9F then
    "\\u\x7b".toList ++ Nat.toDigits 16 n ++ "\x7d".toList
  else [c]

def showEvent (event : Event) : String :=
  event.level.name ++ " " ++ String.ofList (event.message.toList.flatMap showChar) ++
    String.join (event.fields.map fun (name, value) => " " ++ name ++ "=" ++ value)

end SerialScript.CommandLine
