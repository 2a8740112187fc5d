namespace SerialScript.Text

def escapeChar (c : Char) : List Char :=
  let n := c.toNat
  if n = 0x09 then ['\\', 't']
  else if n = 0x0A then ['\\', 'n']
  else if n = 0x0D then ['\\', 'r']
  else if n = 0x22 || n = 0x27 || n = 0x5C then ['\\', c]
  else if 0x20 ≤ n && n ≤ 0x7E then [c]
  else "\\u\x7b".toList ++ Nat.toDigits 16 n ++ "\x7d".toList

def escape (text : String) : String := String.ofList (text.toList.flatMap escapeChar)

end SerialScript.Text
