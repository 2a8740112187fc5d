import SerialScript.Eol
import SerialScript.Fault
import SerialScript.Numeral

/-!
Directives with valid arguments. `Directive.ofArguments` is the only way from the words of a line
to a directive, and it settles every question about arguments before anything is executed.
-/

namespace SerialScript

inductive Directive where
  | connect (port : String) (baud : UInt32)
  | disconnect (port : String)
  | cfgEol (eol : Eol)
  | cfgResTimeout (ms : Nat)
  | delay (seconds : Nat)
  | delayMs (ms : Nat)
  | eol
  | cmd (text : String)
  | res (pattern : String)
  deriving DecidableEq, Repr

def readKeyword (word : String) : Except Fault Keyword :=
  match Keyword.ofSpelling? word with
  | some keyword => .ok keyword
  | none => .error (.unknownDirective word)

def requireArguments (directive : String) (arguments : List String) (least : Nat) :
    Except Fault Unit :=
  if arguments.length < least then .error (.missingArguments directive) else .ok ()

theorem requireArguments_of_lt {directive : String} {arguments : List String} {least : Nat}
    (h : arguments.length < least) :
    requireArguments directive arguments least = .error (.missingArguments directive) :=
  if_pos h

theorem requireArguments_of_le {directive : String} {arguments : List String} {least : Nat}
    (h : least ≤ arguments.length) : requireArguments directive arguments least = .ok () :=
  if_neg (Nat.not_lt.2 h)

/-- A numeral that counts something, so a negative one is refused. -/
def readCount (directive quantity argument : String) : Except Fault Nat :=
  match Numeral.read argument with
  | .ok value =>
    if 0 ≤ value then .ok value.toNat else .error (.negativeCount directive quantity argument)
  | .error .outOfRange => .error (.countOutOfRange directive quantity argument)
  | .error .notAnInteger => .error (.notACount directive quantity argument)

/-- A numeral in the range of an unsigned 32-bit word. -/
def readBaudRate (argument : String) : Except Fault UInt32 :=
  match Numeral.read argument with
  | .ok value =>
    if 0 ≤ value ∧ value < 0x100000000 then .ok (UInt32.ofNat value.toNat)
    else .error (.baudRateOutOfRange argument)
  | .error .outOfRange => .error (.baudRateOutOfRange argument)
  | .error .notAnInteger => .error (.notABaudRate argument)

def readEol (argument : String) : Except Fault Eol :=
  match Eol.ofName? argument with
  | some eol => .ok eol
  | none => .error (.unknownEol argument)

namespace Directive

def keyword : Directive → Keyword
  | connect _ _ => .connect
  | disconnect _ => .disconnect
  | cfgEol _ => .cfgEol
  | cfgResTimeout _ => .cfgResTimeout
  | delay _ => .delay
  | delayMs _ => .delayMs
  | eol => .eol
  | cmd _ => .cmd
  | res _ => .res

def phrase (arguments : List String) : String := String.intercalate " " arguments

/-- Hands the first argument on, and refuses to go without one. -/
def withFirst (keyword : Keyword) (arguments : List String)
    (build : String → Except Fault Directive) : Except Fault Directive :=
  match arguments with
  | [] => .error (.missingArguments keyword.spelling)
  | argument :: _ => build argument

/-- The directive that a keyword and its arguments ask for. Words beyond those needed are
ignored, except by `CMD` and `RES`, which take them all. -/
def ofArguments (keyword : Keyword) (arguments : List String) : Except Fault Directive :=
  match keyword with
  | .connect =>
    match arguments with
    | port :: baud :: _ => (readBaudRate baud).map (connect port)
    | _ => .error (.missingArguments keyword.spelling)
  | .disconnect => withFirst keyword arguments fun port => .ok (disconnect port)
  | .cfgEol =>
    withFirst keyword arguments fun argument =>
      match readEol argument with
      | .ok convention => .ok (cfgEol convention)
      | .error cause => .error (.during .choosingEol cause)
  | .cfgResTimeout =>
    withFirst keyword arguments fun argument =>
      (readCount keyword.spelling "time value" argument).map cfgResTimeout
  | .delay =>
    withFirst keyword arguments fun argument =>
      (readCount keyword.spelling "time value" argument).map delay
  | .delayMs =>
    withFirst keyword arguments fun argument =>
      (readCount keyword.spelling "time value" argument).map delayMs
  | .eol => .ok eol
  | .cmd => withFirst keyword arguments fun _ => .ok (cmd (phrase arguments))
  | .res => withFirst keyword arguments fun _ => .ok (res (phrase arguments))

theorem withFirst_eq_bind (keyword : Keyword) (arguments : List String)
    (build : String → Except Fault Directive) :
    withFirst keyword arguments build =
      (requireArguments keyword.spelling arguments 1).bind fun _ => build (arguments.headD "") := by
  cases arguments with
  | nil => rfl
  | cons first later =>
    rw [requireArguments_of_le (by simp)]
    rfl

theorem ofArguments_connect_eq_bind (arguments : List String) :
    ofArguments .connect arguments =
      (requireArguments Keyword.connect.spelling arguments 2).bind fun _ =>
        (readBaudRate (arguments.getD 1 "")).map (connect (arguments.headD "")) := by
  match arguments with
  | [] => rfl
  | [port] => rfl
  | port :: baud :: later =>
    rw [requireArguments_of_le (by simp)]
    rfl

/-- How long a directive pauses the run, in milliseconds. -/
def pause : Directive → Nat
  | delay seconds => 1000 * seconds
  | delayMs ms => ms
  | _ => 0

end Directive

end SerialScript
