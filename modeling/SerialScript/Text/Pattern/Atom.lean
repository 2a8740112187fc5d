import SerialScript.Text.Blank

/-!
The smallest parts of a pattern: flags, escapes, and what is passed over between parts. Like all of
a pattern, they are those of the library that filters the log.
-/

namespace SerialScript.Text.Pattern

structure Flags where
  /-- Letters match in either case. -/
  folding : Bool := false
  /-- Characters are meant rather than bytes. -/
  unicode : Bool := true
  /-- Blanks and comments are passed over. -/
  spaced : Bool := false
  deriving DecidableEq, Repr

/-- Passes blanks and comments, which run from a number sign to the end of the line. -/
def passSpace (inComment : Bool) : List Char → List Char
  | [] => []
  | c :: rest =>
    if inComment then passSpace (c ≠ '\n') rest
    else if isBlank c then passSpace false rest
    else if c = '#' then passSpace true rest
    else c :: rest

namespace Flags

def skip (flags : Flags) (text : List Char) : List Char :=
  if flags.spaced then passSpace false text else text

/-- The next character, blanks and the first number sign aside if they are passed. -/
def peek (flags : Flags) (text : List Char) : Option Char :=
  if flags.spaced then
    match text.dropWhile isBlank with
    | '#' :: rest => (rest.dropWhile isBlank).head?
    | rest => rest.head?
  else text.head?

/-- Whether a character may stand for itself. In which cases it exists is not known here. -/
def admitsLiteral (flags : Flags) : Bool := !(flags.folding && flags.unicode)

/-- Whether a character may be a member of a set. A set of bytes holds ASCII alone. -/
def admitsMember (flags : Flags) (c : Char) : Bool :=
  flags.admitsLiteral && (flags.unicode || c.toNat < 0x80)

/-- Sets the flags in a list of letters, and clears those after a hyphen. A letter or a hyphen may
not come twice, and a hyphen not last. -/
def apply (flags : Flags) (letters : List Char) : Option Flags :=
  if letters.all "imsUuRx-".toList.contains && decide letters.Nodup && letters.getLast? ≠ some '-'
  then
    let on := letters.takeWhile (· ≠ '-')
    let off := letters.dropWhile (· ≠ '-')
    let value (letter : Char) (before : Bool) :=
      on.contains letter || (before && !off.contains letter)
    some
      { folding := value 'i' flags.folding
        unicode := value 'u' flags.unicode
        spaced := value 'x' flags.spaced }
  else none

end Flags

inductive Atom where
  | literal (c : Char)
  | kind
  | place
  deriving DecidableEq, Repr

def isHexDigit (c : Char) : Bool :=
  c.isDigit || ('a' ≤ c && c ≤ 'f') || ('A' ≤ c && c ≤ 'F')

def readDigits (flags : Flags) : Nat → List Char → Option (List Char × List Char)
  | 0, text => some ([], text)
  | count + 1, text =>
    match flags.skip text with
    | [] => none
    | c :: rest =>
      if isHexDigit c then
        (readDigits flags count rest).map fun (digits, rest) => (c :: digits, rest)
      else none

def hexValue (digits : List Char) : Nat :=
  digits.foldl
    (fun value d => 16 * value + (if d.isDigit then d.toNat - 48 else (d.toNat - 55) % 32)) 0

/-- The character with a code of so many digits, and what follows it. -/
def readCode (flags : Flags) (count : Nat) (text : List Char) : Option (Char × List Char) :=
  (readDigits flags count text).bind fun (digits, rest) =>
    if (hexValue digits).isValidChar then some (Char.ofNat (hexValue digits), rest) else none

def control? (c : Char) : Option Char :=
  if c = 'a' then some (Char.ofNat 0x07)
  else if c = 'f' then some (Char.ofNat 0x0C)
  else if c = 't' then some '\t'
  else if c = 'n' then some '\n'
  else if c = 'r' then some '\r'
  else if c = 'v' then some (Char.ofNat 0x0B)
  else none

/-- Reads an escape after its backslash. The kinds of characters and the edges of words are known
for bytes alone, and of a kind only what is in it. A code of two digits is that of a byte, which is
text in ASCII alone. -/
def readEscape (flags : Flags) : List Char → Option (Atom × List Char)
  | [] => none
  | c :: rest =>
    if c = 'x' then
      (readCode flags 2 rest).bind fun (d, rest) =>
        if flags.unicode ∨ d.toNat < 0x80 then some (.literal d, rest) else none
    else if c = 'u' then (readCode flags 4 rest).map fun (d, rest) => (.literal d, rest)
    else if c = 'U' then (readCode flags 8 rest).map fun (d, rest) => (.literal d, rest)
    else if "dsw".toList.contains c then if flags.unicode then none else some (.kind, rest)
    else if "Az".toList.contains c then some (.place, rest)
    else if "bB<>".toList.contains c then if flags.unicode then none else some (.place, rest)
    else
      match control? c with
      | some d => some (.literal d, rest)
      | none => if c.toNat < 0x80 ∧ !c.isAlphanum then some (.literal c, rest) else none

/-- How deep the parts of a sequence are nested, given how deep each of them is. -/
def sequenceDepth : List Nat → Nat
  | [] => 0
  | [depth] => depth
  | depths => 1 + depths.foldl max 0

end SerialScript.Text.Pattern
