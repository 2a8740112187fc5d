/-!
Text as bytes, and bytes read as text. `decode?` accepts well-formed input only; `decodeLossy`
puts a replacement character for each maximal malformed stretch.
-/

namespace SerialScript.Text

def bytes (text : List Char) : List UInt8 := text.flatMap String.utf8EncodeChar

def toBytes (text : String) : List UInt8 := bytes text.toList

def isContinuation (b : UInt8) : Bool := 0x80 ≤ b && b ≤ 0xBF

/-- What the byte after a lead byte may be. Four leads admit less than every continuation byte,
which rules out overlong forms, surrogates and values past the last code point. -/
def isSecond (lead b : UInt8) : Bool :=
  if lead = 0xE0 then 0xA0 ≤ b && b ≤ 0xBF
  else if lead = 0xED then 0x80 ≤ b && b ≤ 0x9F
  else if lead = 0xF0 then 0x90 ≤ b && b ≤ 0xBF
  else if lead = 0xF4 then 0x80 ≤ b && b ≤ 0x8F
  else isContinuation b

def payload (b : UInt8) : Nat := b.toNat % 64

/-- Reads the character that starts with `lead`: the character, or nothing if it is malformed,
and how many of the following bytes belong to it. -/
def readChar (lead : UInt8) (rest : List UInt8) : Option Char × Nat :=
  if lead < 0x80 then (some (Char.ofNat lead.toNat), 0)
  else if lead < 0xC2 then (none, 0)
  else if lead < 0xE0 then
    match rest with
    | a :: _ =>
      if isContinuation a then (some (Char.ofNat (lead.toNat % 32 * 64 + payload a)), 1)
      else (none, 0)
    | [] => (none, 0)
  else if lead < 0xF0 then
    match rest with
    | a :: b :: _ =>
      if !isSecond lead a then (none, 0)
      else if !isContinuation b then (none, 1)
      else (some (Char.ofNat ((lead.toNat % 16 * 64 + payload a) * 64 + payload b)), 2)
    | [a] => (none, if isSecond lead a then 1 else 0)
    | [] => (none, 0)
  else if lead < 0xF5 then
    match rest with
    | a :: b :: c :: _ =>
      if !isSecond lead a then (none, 0)
      else if !isContinuation b then (none, 1)
      else if !isContinuation c then (none, 2)
      else
        (some (Char.ofNat (((lead.toNat % 8 * 64 + payload a) * 64 + payload b) * 64 + payload c)),
          3)
    | [a, b] => (none, if !isSecond lead a then 0 else if isContinuation b then 2 else 1)
    | [a] => (none, if isSecond lead a then 1 else 0)
    | [] => (none, 0)
  else (none, 0)

/-- The characters of a byte sequence in order, with nothing for a malformed stretch. -/
def decodeUnits : List UInt8 → List (Option Char)
  | [] => []
  | lead :: rest =>
    let (unit, used) := readChar lead rest
    unit :: decodeUnits (rest.drop used)
termination_by bs => bs.length
decreasing_by
  simp only [List.length_drop, List.length_cons]
  omega

def decode? (bs : List UInt8) : Option String :=
  ((decodeUnits bs).mapM id).map String.ofList

/-- The text of any bytes, U+FFFD standing for what is malformed. -/
def decodeLossy (bs : List UInt8) : String :=
  String.ofList ((decodeUnits bs).map fun unit => unit.getD (Char.ofNat 0xFFFD))

end SerialScript.Text
