import SerialScript.Text.Control
import SerialScript.Text.Pieces
import SerialScript.Text.Similarity

/-!
The arguments of the program. This stands for the library that reads arguments, whose rules are not
the program's own; nothing is proved of it. Options are read from left to right; a value that stands
in an argument of its own is settled only when the next option, or the end, is reached, and then the
faults of that option come first.
-/

namespace SerialScript.CommandLine

inductive Flag where
  | file
  | logLevel
  | version
  | help
  deriving DecidableEq, Repr

namespace Flag

def all : List Flag := [file, logLevel, version, help]

def long : Flag → String
  | file => "file"
  | logLevel => "log-level"
  | version => "version"
  | help => "help"

def short? : Flag → Option Char
  | file => some 'f'
  | logLevel => none
  | version => some 'v'
  | help => some 'h'

/-- What stands for the value in a usage text, if the option has one. -/
def placeholder? : Flag → Option String
  | file => some "<FILE>"
  | logLevel => some "<LOG_LEVEL>"
  | version => none
  | help => none

def shown (flag : Flag) : String :=
  match flag.placeholder? with
  | some value => "--" ++ flag.long ++ " " ++ value
  | none => "--" ++ flag.long

def ofLong? (name : String) : Option Flag := all.find? fun flag => flag.long == name

def ofShort? (c : Char) : Option Flag := all.find? fun flag => flag.short? == some c

def resembles (flag : Flag) (word : String) : Bool :=
  0.7 < Text.similarity word.toList flag.long.toList

/-- The option whose name is most like a word, if one is alike at all, and the last of them if
several are equally so. -/
def mostLike? (word : String) : Option Flag :=
  (all.filter fun flag => flag.resembles word).foldl
    (fun best flag =>
      match best with
      | none => some flag
      | some other =>
        if Text.similarity word.toList other.long.toList ≤
            Text.similarity word.toList flag.long.toList then
          some flag
        else best)
    none

end Flag

/-- Why arguments are refused. `used` are the options that the usage text then names, and `alone`
tells that no other option has a value yet. -/
inductive UsageFault where
  | unexpected (argument : String) (similar : Option Flag) (used : List Flag)
  | valueMissing (flag : Flag)
  | repeated (flag : Flag)
  | valueUnneeded (flag : Flag) (value : String) (alone : Bool)
  deriving DecidableEq, Repr

structure Options where
  file : Option String := none
  logLevel : String := "info"
  deriving DecidableEq, Repr

inductive Request where
  | showHelp
  | showVersion
  | start (options : Options)
  | refuse (fault : UsageFault)
  deriving DecidableEq, Repr

/-- What has been read so far: the options with their values, and the option whose value is not
settled, with that value if it has been read. -/
structure Progress where
  given : List (Flag × String) := []
  pending : Option (Flag × Option String) := none

namespace Progress

def give (flag : Flag) (value : String) (p : Progress) : Except UsageFault Progress :=
  if p.given.any fun entry => entry.1 = flag then .error (.repeated flag)
  else if flag = .file ∧ value = "" then .error (.valueMissing flag)
  else .ok { p with given := p.given ++ [(flag, value)] }

def settle (p : Progress) : Except UsageFault Progress :=
  match p.pending with
  | none => .ok p
  | some (flag, none) => .error (.valueMissing flag)
  | some (flag, some value) => give flag value { p with pending := none }

def used (p : Progress) : List Flag :=
  let settled := p.given.map Prod.fst
  match p.pending with
  | some (flag, some _) => if settled.contains flag then settled else settled ++ [flag]
  | _ => settled

def unexpected (argument : String) : Request := .refuse (.unexpected argument none [])

def unknownLong (name : String) (p : Progress) : Request :=
  let similar := Flag.mostLike? name
  let used := match similar with
    | some flag => if p.used.contains flag then p.used else p.used ++ [flag]
    | none => p.used
  .refuse (.unexpected ("--" ++ name) similar used)

/-- Takes an option, with the value written in the same argument if there is one. -/
def take (flag : Flag) (value : Option String) (p : Progress) : Except Request Progress :=
  match flag.placeholder?, value with
  | none, some value =>
    .error (.refuse (.valueUnneeded flag value p.given.isEmpty))
  | _, _ =>
    match p.settle with
    | .error fault => .error (.refuse fault)
    | .ok p =>
      match flag, value with
      | .version, _ => .error .showVersion
      | .help, _ => .error .showHelp
      | flag, none => .ok { p with pending := some (flag, none) }
      | flag, some value => (p.give flag value).mapError .refuse

def splitValue (argument : List Char) : String × Option String :=
  let name := argument.takeWhile (· ≠ '=')
  match argument.dropWhile (· ≠ '=') with
  | [] => (String.ofList name, none)
  | _ :: value => (String.ofList name, some (String.ofList value))

/-- Takes one argument, or ends with what is asked for. -/
def step (argument : String) (p : Progress) : Except Request Progress :=
  match argument.toList with
  | '-' :: '-' :: rest =>
    let (name, value) := splitValue rest
    match Flag.ofLong? name with
    | some flag => p.take flag value
    | none => .error (p.unknownLong name)
  | '-' :: c :: rest =>
    match Flag.ofShort? c with
    | none => .error (unexpected (String.ofList ['-', c]))
    | some flag =>
      match flag.placeholder?, rest with
      | none, _ => p.take flag none
      | some _, [] => p.take flag none
      | some _, '=' :: value => p.take flag (some (String.ofList value))
      | some _, value => p.take flag (some (String.ofList value))
  | _ =>
    match p.pending with
    | some (flag, none) => .ok { p with pending := some (flag, some argument) }
    | _ => .error (unexpected argument)

def options (p : Progress) : Options :=
  let value? (flag : Flag) := (p.given.find? fun entry => entry.1 = flag).map Prod.snd
  { file := value? .file, logLevel := (value? .logLevel).getD "info" }

/-- Reads the arguments that are left. After two dashes alone nothing is an option, and there is
nothing else that an argument can be. -/
def finish (p : Progress) : List String → Request
  | [] =>
    match p.settle with
    | .error fault => .refuse fault
    | .ok p => .start p.options
  | argument :: later =>
    if argument = "--" then
      match later with
      | [] => finish p []
      | extra :: _ => unexpected extra
    else
      match p.step argument with
      | .error request => request
      | .ok p => finish p later

end Progress

def Request.ofArguments (arguments : List String) : Request := Progress.finish {} arguments

def usage (options : String) : String := "Usage: sercmd " ++ options

def shownFlags (used : List Flag) : String :=
  if used = [] then "[OPTIONS]" else String.intercalate " " (used.map Flag.shown)

/-- The options of the program itself, any of which may be given. Help is not one of them. -/
def shownChoice : String :=
  "<" ++ String.intercalate "|" ([Flag.file, .logLevel, .version].map Flag.shown) ++ ">"

/-- An option that takes no value, next to others that have one. -/
def shownBeside : Flag → String
  | .help => Flag.help.shown ++ " " ++ shownChoice
  | _ => shownChoice

/-- The lines that explain a refusal. What the user wrote is shown without terminal control. -/
def UsageFault.lines : UsageFault → List String
  | unexpected argument similar used =>
    ["error: unexpected argument '" ++ Text.withoutControl argument ++ "' found", ""] ++
      (match similar with
        | some flag => ["  tip: a similar argument exists: '--" ++ flag.long ++ "'", ""]
        | none => []) ++
      [usage (shownFlags used), "", "For more information, try '--help'."]
  | valueMissing flag =>
    ["error: a value is required for '" ++ flag.shown ++ "' but none was supplied", "",
      "For more information, try '--help'."]
  | repeated flag =>
    ["error: the argument '" ++ flag.shown ++ "' cannot be used multiple times", "",
      usage (shownFlags []), "", "For more information, try '--help'."]
  | valueUnneeded flag value alone =>
    ["error: unexpected value '" ++ Text.withoutControl value ++ "' for '" ++ flag.shown ++
        "' found; no more were expected", "",
      usage (if alone then flag.shown else shownBeside flag), "",
      "For more information, try '--help'."]

def helpLines : List String :=
  ["Send commands to a serial command line interface from a cmdscript file", "",
    usage (shownFlags []), "",
    "Options:",
    "  -f, --file <FILE>            Path to the cmdscript file",
    "      --log-level <LOG_LEVEL>  Log level used when RUST_LOG is not set [default: info]",
    "  -v, --version                Print version",
    "  -h, --help                   Print help"]

def versionLine : String := "sercmd 0.1.0"

end SerialScript.CommandLine
