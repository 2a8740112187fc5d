import SerialScript.Text.Pattern.Atom

/-!
Sets in brackets: members, ranges, named sets, sets within sets, and operators between the members
before and after them. Like all of a pattern, they are those of the library that filters the log.
-/

namespace SerialScript.Text.Pattern

def namedSets : List String :=
  ["alnum", "alpha", "ascii", "blank", "cntrl", "digit", "graph", "lower", "print", "punct",
    "space", "upper", "word", "xdigit"]

/-- Reads a named set after its opening bracket, if there is one: whether it is the complement that
is meant, and what follows. -/
def readNamedSet (text : List Char) : Option (Bool × List Char) :=
  match text with
  | ':' :: rest =>
    let complement := rest.head? = some '^'
    let rest := if complement then rest.tail else rest
    match rest.dropWhile (· ≠ ':') with
    | ':' :: ']' :: later =>
      let name := String.ofList (rest.takeWhile (· ≠ ':'))
      if namedSets.contains name then some (complement, later) else none
    | _ => none
  | _ => none

def readMember (flags : Flags) : List Char → Option (Atom × List Char)
  | [] => none
  | '\\' :: rest =>
    match readEscape flags rest with
    | some (.literal c, rest) => if flags.admitsMember c then some (.literal c, rest) else none
    | some (.kind, rest) => some (.kind, rest)
    | _ => none
  | c :: rest => if flags.admitsMember c then some (.literal c, rest) else none

/-- Passes a member of a set, or a range from one character to one that is not before it. A hyphen
before a closing bracket or another hyphen makes no range. -/
def passMember (flags : Flags) (text : List Char) : Option (List Char) :=
  match readMember flags text with
  | none => none
  | some (first, rest) =>
    match flags.skip rest with
    | '-' :: later =>
      if flags.peek later = some ']' ∨ flags.peek later = some '-' then some ('-' :: later)
      else
        match first, readMember flags (flags.skip later) with
        | .literal a, some (.literal b, rest) => if a ≤ b then some rest else none
        | _, _ => none
    | rest => some rest

structure OpenSet where
  /-- How deep what stands before the last operator is nested, if there is one. -/
  left : Option Nat := none
  /-- How deep each member after it is nested. -/
  members : List Nat := []
  /-- Whether nothing but hyphens has been read, which are members here. -/
  fresh : Bool := false

namespace OpenSet

def depth (s : OpenSet) : Nat :=
  match s.left with
  | none => sequenceDepth s.members
  | some left => 1 + max left (sequenceDepth s.members)

def add (depth : Nat) (s : OpenSet) : OpenSet := { s with members := depth :: s.members }

def operate (s : OpenSet) : OpenSet := { left := some s.depth }

end OpenSet

/-- Passes the caret of a complement, if there is one. A complement of bytes is no text. -/
def openSet (flags : Flags) (text : List Char) : Option (List Char) :=
  match flags.skip text with
  | '^' :: rest => if flags.unicode then some rest else none
  | rest => some rest

/-- Passes a set from the inside of its innermost open bracket: how deep it is nested, and what
follows it. A closing bracket that is the first member does not close. The fuel is more than the
number of characters. -/
def passSet (flags : Flags) :
    Nat → OpenSet → List OpenSet → List Char → Option (Nat × List Char)
  | 0, _, _, _ => none
  | fuel + 1, s, outer, text =>
    match flags.skip text with
    | [] => none
    | c :: rest =>
      if s.fresh ∧ (c = '-' ∨ (c = ']' ∧ s.members = [])) then
        if flags.admitsMember c then
          passSet flags fuel { s.add 0 with fresh := decide (c = '-') } outer rest
        else none
      else
        let s := { s with fresh := false }
        if c = ']' then
          match outer with
          | [] => some (1 + s.depth, rest)
          | parent :: outer => passSet flags fuel (parent.add (1 + s.depth)) outer rest
        else if c = '[' then
          match readNamedSet rest with
          | some (complement, later) =>
            if flags.admitsLiteral && (flags.unicode || !complement) then
              passSet flags fuel (s.add 0) outer later
            else none
          | none =>
            match openSet flags rest with
            | some later => passSet flags fuel { fresh := true } (s :: outer) later
            | none => none
        else if (c = '&' ∨ c = '-' ∨ c = '~') ∧ rest.head? = some c then
          passSet flags fuel s.operate outer rest.tail
        else
          match passMember flags (c :: rest) with
          | some later => passSet flags fuel (s.add 0) outer later
          | none => none

def passOutermostSet (flags : Flags) (text : List Char) : Option (Nat × List Char) :=
  (openSet flags text).bind (passSet flags (text.length + 1) { fresh := true } [])

end SerialScript.Text.Pattern
