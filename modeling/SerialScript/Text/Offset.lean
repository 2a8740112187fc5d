/-!
Places in a text, counted in bytes. A character begins where the bytes of those before it end. Only
the text of a rule is read by places.
-/

namespace SerialScript.Text

def withOffsets (offset : Nat) : List Char → List (Nat × Char)
  | [] => []
  | c :: rest => (offset, c) :: withOffsets (offset + c.utf8Size) rest

def since (start : Nat) (text : List Char) : List Char :=
  ((withOffsets 0 text).filter fun (offset, _) => start ≤ offset).map Prod.snd

def between (start stop : Nat) (text : List Char) : List Char :=
  ((withOffsets 0 text).filter fun (offset, _) => start ≤ offset && offset < stop).map Prod.snd

end SerialScript.Text
