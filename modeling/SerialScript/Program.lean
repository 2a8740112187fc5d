import SerialScript.CommandLine.Filter
import SerialScript.Program.Basic

/-!
The outer layer: the program with its own reader of arguments and its own filter, and the machine on
which folders are laid out for it. No theorem rests on what is here.
-/

namespace SerialScript

def Program.run (arguments : List String) (environment : Option String) (host : Host) : Report :=
  runWith CommandLine.Request.ofArguments
    (fun options => (CommandLine.Filter.inForce environment options.logLevel).shows) arguments host

namespace Host

/-- The directories and files of the machine, as far as they matter. -/
def common : List (List String × Node) :=
  [(["bin", "sh"], .file []), (["boot"], .directory), (["dev", "full"], .file []),
    (["dev", "null"], .file []), (["dev", "zero"], .file []), (["etc", "group"], .file []),
    (["etc", "hostname"], .file []), (["etc", "hosts"], .file []), (["etc", "passwd"], .file []),
    (["home"], .directory), (["lib"], .directory), (["media"], .directory), (["mnt"], .directory),
    (["opt"], .directory), (["proc"], .directory), (["root"], .directory), (["run"], .directory),
    (["sbin"], .directory), (["srv"], .directory), (["sys"], .directory), (["tmp"], .directory),
    (["usr", "bin"], .directory), (["usr", "lib"], .directory), (["usr", "local"], .directory),
    (["usr", "sbin"], .directory), (["usr", "share"], .directory), (["var", "lib"], .directory),
    (["var", "log"], .directory), (["var", "tmp"], .directory)]

/-- A directory without a name of its own that a path could spell: a piece of a path holds no
slash. It is reached only by starting there. -/
def freshDirectory : List String := ["tmp", "/"]

/-- A host whose working directory is fresh and holds the given files and directories. -/
def ofFolder (folder : List (String × Node)) : Host :=
  let home := freshDirectory
  { nodes := (home, .directory) :: folder.map (fun entry => (place home entry.1, entry.2)) ++ common
    home }

end Host

end SerialScript
