import SerialScript.Event

/-!
Rules about which events are shown. A rule concerns the events of a part of the program, perhaps
only those that have a field; where several rules concern an event, the most specific one decides.
The names of the parts are the program's; the rules are those of the library that filters the log,
and nothing is proved of them.
-/

namespace SerialScript

def Origin.target : Origin → String
  | program => "sercmd"
  | reader => "sercmd::parser"
  | engine => "sercmd::engine"
  | port => "sercmd::transport::serial"
  | directive keyword =>
    "sercmd::commands::" ++
      match keyword with
      | .connect => "connect"
      | .disconnect => "disconnect"
      | .cfgEol => "cfg_eol"
      | .cfgResTimeout => "cfg_res_timeout"
      | .delay => "delay"
      | .delayMs => "delay_ms"
      | .eol => "send_eol"
      | .cmd => "send_command"
      | .res => "expect_response"

def Event.hasField (event : Event) (name : String) : Bool :=
  name = "message" || event.fields.any fun field => field.1 = name

namespace CommandLine

structure Rule where
  /-- How the targets concerned begin. -/
  target : Option String := none
  /-- The field that the events concerned have. -/
  field : Option String := none
  /-- What is shown of them: nothing at 0, everything at 5. -/
  verbosity : Nat
  deriving DecidableEq, Repr

namespace Rule

def concerns (rule : Rule) (event : Event) : Bool :=
  rule.target.all (fun target => target.toList.isPrefixOf event.origin.target.toList) &&
    rule.field.all event.hasField

/-- How specific a target is. Any target is more so than none. -/
def reach (rule : Rule) : Nat :=
  match rule.target with
  | none => 0
  | some target => target.utf8ByteSize + 1

/-- Whether a rule gives way to another that concerns the same event. The longer target counts,
then having a field, then the later name of a field; of two that are alike the other counts. -/
def yieldsTo (rule other : Rule) : Bool :=
  rule.reach < other.reach ||
    (rule.reach = other.reach &&
      match rule.field, other.field with
      | none, _ => true
      | some _, none => false
      | some name, some otherName => name ≤ otherName)

end Rule

end CommandLine

end SerialScript
