/-!
Text without what a terminal would act on, as the library that reads arguments writes it. Escape
sequences are followed from their first character to their last, and control characters that are
not layout are dropped wherever they stand. Nothing is proved of this.
-/

namespace SerialScript.Text

inductive Control where
  | plain
  /-- An escape, of which nothing but the first character has been read. -/
  | escape
  | longEscape
  /-- A control sequence, which ends with a letter or a sign after the letters. -/
  | sequence
  /-- The beginning of a string for a device. -/
  | device
  | deviceParameters
  | deviceIntermediates
  | string
  /-- A command to the system, which a bell ends as well. -/
  | command
  deriving DecidableEq, Repr

namespace Control

def isLayout (c : Char) : Bool := c = '\t' || c = '\n' || c = '\r' || c.toNat = 0x0C

def isText (c : Char) : Bool := isLayout c || (0x20 ≤ c.toNat && c.toNat ≠ 0x7F)

/-- What the second character of an escape makes of it. -/
def ofSecond (c : Char) : Control :=
  if c.toNat < 0x30 then longEscape
  else if c = '[' then sequence
  else if c = ']' then command
  else if c = 'P' then device
  else if c = 'X' || c = '^' || c = '_' then string
  else plain

/-- Takes a character in the middle of an escape or a control sequence, where layout is kept. -/
def within (state next : Control) (c : Char) : Control × Bool :=
  if isLayout c then (state, true)
  else if c.toNat < 0x20 || 0x7E < c.toNat then (state, false)
  else (next, false)

/-- Takes a character of what comes before the string for a device. Parameters that are not well
formed make all of it a string that nothing reads. -/
def withinDevice (state : Control) (c : Char) : Control :=
  let n := c.toNat
  if n < 0x20 || 0x7E < n then state
  else if n < 0x30 then deviceIntermediates
  else if 0x40 ≤ n || state = deviceIntermediates || (state = deviceParameters && 0x3C ≤ n) then
    string
  else deviceParameters

/-- Takes a character that does not go on with text: what it belongs to or ends, and whether it is
kept. -/
def resume (state : Control) (c : Char) : Control × Bool :=
  let n := c.toNat
  if n = 0x1B then (escape, false)
  else if n = 0x18 || n = 0x1A then (plain, false)
  else
    match state with
    | plain => (plain, isText c)
    | escape => within escape (ofSecond c) c
    | longEscape => within longEscape (if n < 0x30 then longEscape else plain) c
    | sequence => within sequence (if n < 0x40 then sequence else plain) c
    | string => (if (String.utf8EncodeChar c).contains 0x9C then plain else string, false)
    | command => (if n = 0x07 then plain else command, false)
    | state => (withinDevice state c, false)

/-- Takes a character. Text that follows what is kept is kept too, whatever it is in the middle of,
and a character past ASCII ends that. -/
def step (state : Control) (inText : Bool) (c : Char) : Control × Bool :=
  if inText && isText c then (if c.toNat < 0x80 then state else plain, true) else resume state c

end Control

def keptAfter (state : Control) (inText : Bool) : List Char → List Char
  | [] => []
  | c :: rest =>
    let (next, kept) := state.step inText c
    if kept then c :: keptAfter next true rest else keptAfter next false rest

def withoutControl (text : String) : String := String.ofList (keptAfter .plain false text.toList)

end SerialScript.Text
