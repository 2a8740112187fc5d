/-!
How alike two words are, after Jaro: the share of their characters that match within a window,
less half of those that match out of order. The library that reads arguments finds what to suggest
in this way; nothing is proved of it.
-/

namespace SerialScript.Text

/-- Marks the first place between `low` and `high` that holds `c` and is not marked yet. -/
def markFirst (c : Char) (low high : Nat) :
    Nat → List (Char × Bool) → Option (List (Char × Bool))
  | _, [] => none
  | place, (d, marked) :: rest =>
    if low ≤ place ∧ place < high ∧ c = d ∧ marked = false then some ((d, true) :: rest)
    else (markFirst c low high (place + 1) rest).map ((d, marked) :: ·)

/-- The characters of the first word that match, and the second word with its matches marked. -/
def matchWithin (window : Nat) : Nat → List Char → List (Char × Bool) →
    List Char × List (Char × Bool)
  | _, [], second => ([], second)
  | place, c :: rest, second =>
    match markFirst c (place - window) (place + window + 1) 0 second with
    | some second =>
      let (found, second) := matchWithin window (place + 1) rest second
      (c :: found, second)
    | none => matchWithin window (place + 1) rest second

/-- A similarity between 0 and 1, the mean of three shares. -/
def similarity (first second : List Char) : Float :=
  let window := max first.length second.length / 2 - 1
  let (found, marked) := matchWithin window 0 first (second.map (·, false))
  let facing := (marked.filter Prod.snd).map Prod.fst
  let m := found.length
  let halfSwaps := ((found.zip facing).filter fun (a, b) => a ≠ b).length / 2
  let share (part whole : Nat) := part.toFloat / whole.toFloat
  if m = 0 then (if first = [] ∧ second = [] then 1 else 0)
  else (share m first.length + share m second.length + share (m - halfSwaps) m) / 3

end SerialScript.Text
