import SerialScript.Text.Alphanumeric
import SerialScript.Text.Pattern.Set

/-!
Which texts are patterns: regular expressions in the usual notation, with groups, sets in brackets
and escapes. Only the form is of interest, nothing is matched. The kinds and the cases of letters
are unknown here, so a pattern that asks for them is none, nor is one with a counted repetition.
Patterns stand in the rules of the library that filters the log, and this stands for what it takes
for one; nothing is proved of it.
-/

namespace SerialScript.Text

namespace Pattern

def isGroupName : List Char → Bool
  | [] => false
  | c :: rest =>
    (c = '_' || isAlphabetic c) &&
      rest.all fun c => isAlphanumeric c || "_.[]".toList.contains c

inductive Opening where
  | group (flags : Flags)
  | named (name : List Char)
  /-- No group, but flags for what follows. -/
  | directive (flags : Flags)
  deriving DecidableEq, Repr

def readName (text : List Char) : Option (Opening × List Char) :=
  let name := text.takeWhile (· ≠ '>')
  match text.dropWhile (· ≠ '>') with
  | _ :: later => if isGroupName name then some (.named name, later) else none
  | [] => none

/-- Reads what follows an opening parenthesis: a name, flags or nothing that is special. -/
def readOpening (flags : Flags) (text : List Char) : Option (Opening × List Char) :=
  match flags.skip text with
  | '?' :: 'P' :: '<' :: rest => readName rest
  | '?' :: '<' :: rest => readName rest
  | '?' :: rest =>
    let letters := rest.takeWhile fun c => c ≠ ':' && c ≠ ')'
    match flags.apply letters, rest.dropWhile fun c => c ≠ ':' && c ≠ ')' with
    | some flags, ':' :: later => some (.group flags, later)
    | some flags, ')' :: later => if letters = [] then none else some (.directive flags, later)
    | _, _ => none
  | rest => some (.group flags, rest)

structure Level where
  flags : Flags := {}
  /-- How deep the alternatives before the last bar are nested, if there is one. -/
  alternatives : Option Nat := none
  /-- How deep each part after it is nested, the last part first. -/
  parts : List Nat := []
  /-- Whether the last part can be repeated. -/
  repeatable : Bool := false

namespace Level

def depth (l : Level) : Nat :=
  match l.alternatives with
  | none => sequenceDepth l.parts
  | some alternatives => 1 + max alternatives (sequenceDepth l.parts)

def add (depth : Nat) (l : Level) : Level :=
  { l with parts := depth :: l.parts, repeatable := true }

def alternate (l : Level) : Level :=
  { flags := l.flags
    alternatives := some (max (l.alternatives.getD 0) (sequenceDepth l.parts)) }

def repeated (l : Level) : Level :=
  match l.parts with
  | [] => l
  | depth :: parts => { l with parts := (depth + 1) :: parts }

end Level

def depthLimit : Nat := 250

/-- Whether the rest of a text completes a pattern, at a level inside of others and after groups of
these names. The fuel is more than the number of characters. -/
def completes : Nat → List (List Char) → Level → List Level → List Char → Bool
  | 0, _, _, _, _ => false
  | fuel + 1, names, l, outer, text =>
    match l.flags.skip text with
    | [] => outer.isEmpty && l.depth ≤ depthLimit
    | c :: rest =>
      if c = '(' then
        match readOpening l.flags rest with
        | some (.group flags, later) => completes fuel names { flags } (l :: outer) later
        | some (.named name, later) =>
          !names.contains name &&
            completes fuel (name :: names) { flags := l.flags } (l :: outer) later
        | some (.directive flags, later) =>
          completes fuel names { l.add 0 with flags, repeatable := false } outer later
        | none => false
      else if c = ')' then
        match outer with
        | parent :: outer => completes fuel names (parent.add (1 + l.depth)) outer rest
        | [] => false
      else if c = '|' then completes fuel names l.alternate outer rest
      else if c = '*' ∨ c = '+' ∨ c = '?' then
        l.repeatable &&
          completes fuel names l.repeated outer (if rest.head? = some '?' then rest.tail else rest)
      else if c = '[' then
        match passOutermostSet l.flags rest with
        | some (depth, later) => completes fuel names (l.add depth) outer later
        | none => false
      else if c = '\\' then
        match readEscape l.flags rest with
        | some (.literal _, later) =>
          l.flags.admitsLiteral && completes fuel names (l.add 0) outer later
        | some (_, later) => completes fuel names (l.add 0) outer later
        | none => false
      else if c = '.' then l.flags.unicode && completes fuel names (l.add 0) outer rest
      else if c = '^' ∨ c = '$' then completes fuel names (l.add 0) outer rest
      else
        c ≠ Char.ofNat 0x7B && l.flags.admitsLiteral && completes fuel names (l.add 0) outer rest

end Pattern

def isPattern (text : List Char) : Bool := Pattern.completes (text.length + 1) [] {} [] text

end SerialScript.Text
