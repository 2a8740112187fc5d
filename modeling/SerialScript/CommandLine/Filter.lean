import SerialScript.CommandLine.Rule.Reader

/-!
Filters: lists of rules, of which one decides about each event. An event that no rule concerns is
not shown. Filters and their rules stand for the library that filters the log; nothing is proved of
them.
-/

namespace SerialScript.CommandLine

abbrev Filter := List Rule

namespace Filter

/-- The filter of a text, the rules between commas. Nothing between two commas is no rule, so that
the empty text shows nothing. -/
def read (text : String) : Option Filter :=
  (((Text.pieces ',' text.toList).filter (· ≠ [])).mapM Rule.read).map List.flatten

def decisive (event : Event) (filter : Filter) : Option Rule :=
  (filter.filter fun rule => rule.concerns event).foldl
    (fun best rule =>
      match best with
      | none => some rule
      | some other => if other.yieldsTo rule then some rule else best)
    none

def shows (filter : Filter) (event : Event) : Bool :=
  match filter.decisive event with
  | some rule => event.level.verbosity ≤ rule.verbosity
  | none => false

/-- The filter in force: that of the environment if there is one and it can be read, else that of
the option, else `info`. -/
def inForce (environment : Option String) (logLevel : String) : Filter :=
  match environment.bind read with
  | some filter => filter
  | none => (read logLevel).getD [{ verbosity := 3 }]

end Filter

end SerialScript.CommandLine
