namespace SerialScript

inductive NumeralFault where
  | notAnInteger
  | outOfRange
  deriving DecidableEq, Repr

namespace Numeral

/-- The sign, true if negative, and what follows it. A missing sign counts as plus. -/
def splitSign : List Char → Bool × List Char
  | '-' :: rest => (true, rest)
  | '+' :: rest => (false, rest)
  | rest => (false, rest)

/-- The value of a digit string, most significant digit first. -/
def magnitude (digits : List Char) : Nat :=
  digits.foldl (fun value d => 10 * value + (d.toNat - 48)) 0

def signed (negative : Bool) (value : Nat) : Int :=
  if negative then -(value : Int) else value

def limit : Int := 0x8000000000000000

def Fits (value : Int) : Prop := -limit ≤ value ∧ value < limit

instance (value : Int) : Decidable (Fits value) := inferInstanceAs (Decidable (_ ∧ _))

def read (text : String) : Except NumeralFault Int :=
  let (negative, digits) := splitSign text.toList
  if digits = [] || !digits.all Char.isDigit then .error .notAnInteger
  else
    let value := signed negative (magnitude digits)
    if Fits value then .ok value else .error .outOfRange

end Numeral

end SerialScript
