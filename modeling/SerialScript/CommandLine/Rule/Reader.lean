import SerialScript.CommandLine.Rule
import SerialScript.Numeral
import SerialScript.Text.Blank
import SerialScript.Text.Offset
import SerialScript.Text.Pattern
import SerialScript.Text.Pieces

/-!
The text of a rule, as the library that filters the log reads it: a target, then in brackets the
name of a span and in braces a field, then an equals sign and a verbosity. All of these may be
missing. The blanks around a text are not read, but offsets in what is read are taken as offsets in
the whole, and the last part runs to its end. Nothing is proved of this.
-/

namespace SerialScript.CommandLine.Rule

/-- The verbosity that a name, in any case, or a number from 0 to 5 stands for. -/
def verbosity? (text : List Char) : Option Nat :=
  match Numeral.read (String.ofList text) with
  | .ok value =>
    if 0 ≤ value ∧ value ≤ 5 ∧ text.head? ≠ some '-' then some value.toNat else none
  | .error _ =>
    let name := String.ofList (text.map Char.toLower)
    if name = "off" then some 0
    else if name = "error" then some 1
    else if name = "warn" then some 2
    else if name = "info" then some 3
    else if name = "debug" then some 4
    else if name = "trace" then some 5
    else none

/-- Whether a text can begin with this character, if not with a bracket. -/
def canBegin (c : Char) : Bool := Text.isAlphanumeric c || c = '-' || c = ':' || c = '_'

structure FieldTest where
  name : String
  hasValue : Bool
  deriving DecidableEq, Repr

def isExponent : List Char → Bool
  | [] => true
  | c :: rest =>
    let digits := (Numeral.splitSign rest).2
    (c = 'e' || c = 'E') && digits ≠ [] && digits.all Char.isDigit

/-- Whether a text is a real number without a sign: digits, which a point may divide, and an
exponent, or one of the names of what is infinite or undefined. -/
def isReal (text : List Char) : Bool :=
  let name := String.ofList (text.map Char.toLower)
  let whole := text.takeWhile Char.isDigit
  let (fraction, rest) := match text.dropWhile Char.isDigit with
    | '.' :: rest => (rest.takeWhile Char.isDigit, rest.dropWhile Char.isDigit)
    | rest => ([], rest)
  name = "inf" || name = "infinity" || name = "nan" || (whole ++ fraction ≠ [] && isExponent rest)

/-- Whether a text is a value: a number or a pattern. A number is a pattern unless it begins with a
plus sign. -/
def isValue : List Char → Bool
  | '+' :: rest => isReal rest
  | text => Text.isPattern text

/-- Reads a field, and its value if there is an equals sign. A second such sign ends the value. -/
def readField (text : List Char) : Option FieldTest :=
  match text, Text.pieces '=' text with
  | [], _ => none
  | _, name :: value :: _ => if isValue value then some ⟨String.ofList name, true⟩ else none
  | _, name :: [] => some ⟨String.ofList name, false⟩
  | _, [] => none

/-- The part of a text that is being read. The number is the offset where it begins. -/
inductive Part where
  | nothing
  /-- A target, or a verbosity without one. -/
  | first
  | span (start : Nat)
  | field (start : Nat)
  | closingBrace
  | closingBracket
  | verbosity (start : Nat)
  deriving DecidableEq, Repr

structure Draft where
  part : Part := .nothing
  target : Option String := none
  span : Option String := none
  field : Option FieldTest := none
  deriving DecidableEq, Repr

namespace Draft

def step (text : List Char) (d : Draft) (offset : Nat) (c : Char) : Option Draft :=
  let since (start : Nat) := Text.between start offset text
  match d.part with
  | .nothing =>
    if c = '[' then some { d with part := .span (offset + 1) }
    else if canBegin c then some { d with part := .first }
    else none
  | .first =>
    if c = '=' then
      some { d with target := some (String.ofList (since 0)), part := .verbosity (offset + 1) }
    else if c = '[' then
      some { d with target := some (String.ofList (since 0)), part := .span (offset + 1) }
    else some d
  | .span start =>
    let span := String.ofList (since start)
    if c = ']' then some { d with span := some span, part := .closingBracket }
    else if c = '\x7b' then
      some { d with span := if span = "" then none else some span, part := .field (offset + 1) }
    else some d
  | .field start =>
    if c = '\x7d' then
      (readField (since start)).map fun field => { d with field := some field, part := .closingBrace }
    else some d
  | .closingBrace => if c = ']' then some { d with part := .closingBracket } else none
  | .closingBracket =>
    if c = '=' then some { d with part := .verbosity (offset + 1) } else none
  | .verbosity _ => some d

/-- The rules of a draft. What is about spans or about values is none, since no event of this
program is inside a span. -/
def rules (d : Draft) (verbosity : Nat) : List Rule :=
  if d.span.isSome || d.field.any FieldTest.hasValue then []
  else [{ target := d.target, field := d.field.map FieldTest.name, verbosity }]

/-- What has been read once a text is at its end. A verbosity that is missing is the greatest. -/
def finish (text : List Char) (d : Draft) : Option (List Rule) :=
  match d.part with
  | .first =>
    match verbosity? text with
    | some verbosity => some [{ verbosity }]
    | none => some [{ target := some (String.ofList text), verbosity := 5 }]
  | .closingBracket => some (d.rules 5)
  | .verbosity start =>
    let word := Text.since start text
    if word = [] then some (d.rules 5) else (verbosity? word).map d.rules
  | _ => none

end Draft

def read (text : List Char) : Option (List Rule) :=
  ((Text.withOffsets 0 (Text.trim text)).foldlM
      (fun d (offset, c) => Draft.step text d offset c) {}).bind (Draft.finish text)

end SerialScript.CommandLine.Rule
