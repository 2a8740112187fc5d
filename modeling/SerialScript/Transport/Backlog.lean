/-!
The bytes that a stream has received and not matched. A backlog may grow past its capacity by one
read; it is then cut down to its newest bytes.
-/

namespace SerialScript.Backlog

def capacity : Nat := 10000

/-- How many of the newest bytes a cut keeps: half the capacity, and enough for an occurrence of
the pattern that ends in the next read. -/
def keepCount (pattern : List UInt8) : Nat := max (capacity / 2) (pattern.length - 1)

/-- Cuts a backlog that is over capacity. There is none if more would be kept than there is, which
takes a pattern longer than the capacity. -/
def trim (pattern pending : List UInt8) : Option (List UInt8) :=
  if pending.length ≤ capacity then some pending
  else if pending.length < keepCount pattern then none
  else some (pending.drop (pending.length - keepCount pattern))

end SerialScript.Backlog
