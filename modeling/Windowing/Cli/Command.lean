import Windowing.Settings

set_option autoImplicit false

/-! # Commands and their flags

The program `correlog` has the commands `run`, `validate`, `alerts` and `version`;
`help`, which shows the help of another; `completion`, whose commands `bash`, `fish`,
`powershell` and `zsh` write a shell's completion script; and the hidden `__complete`
(also called `__completeNoDesc`), which lists the choices for the last word of a command
line. Every command takes the settings flags and `--config`; each also has flags of its
own, and `-h`/`--help`.

The command is found before any flag is read, level by level: the words of the arguments
that are not flags, nor the value after a flag that takes one, name it; the first such
word names a command below the one found so far, or the search stops there. When a flag
that takes a value is the last but one argument, the words stop there. Each command
found is taken out of the arguments. Below the program itself the first word must be a
command. Then the words left are checked: `validate` takes at most one, the commands
that do something none, and `__complete` at least one. -/

namespace Windowing.Cli

/-- The shells a completion script is written for. -/
inductive Shell where
  | bash
  | fish
  | powershell
  | zsh
  deriving BEq

/-- The name of a shell. -/
def Shell.name : Shell → String
  | .bash => "bash"
  | .fish => "fish"
  | .powershell => "powershell"
  | .zsh => "zsh"

/-- The commands. -/
inductive Command where
  | root
  | run
  | validate
  | alerts
  | version
  /-- Help on the command its arguments name. -/
  | help
  /-- The commands that write completion scripts. -/
  | completion
  /-- Write the completion script of a shell. -/
  | script (shell : Shell)
  /-- List the choices for the last word of a command line, with their descriptions or
  without them. -/
  | complete (described : Bool)
  deriving BEq

namespace Command

/-- The name of a command. -/
def name : Command → String
  | .root => "correlog"
  | .run => "run"
  | .validate => "validate"
  | .alerts => "alerts"
  | .version => "version"
  | .help => "help"
  | .completion => "completion"
  | .script s => s.name
  | .complete true => "__complete"
  | .complete false => "__completeNoDesc"

/-- How a command is called, from the program's name. -/
def path : Command → String
  | .root => "correlog"
  | .script s => "correlog completion " ++ s.name
  | c => "correlog " ++ c.name

/-- The commands below a command, in name order; the hidden `__complete` is not among
them. -/
def children : Command → List Command
  | .root => [.alerts, .completion, .help, .run, .validate, .version]
  | .completion => [.script .bash, .script .fish, .script .powershell, .script .zsh]
  | _ => []

/-- Whether a command does something of its own, rather than only gather others. -/
def runnable : Command → Bool
  | .root | .completion => false
  | _ => true

/-- The commands below the program. -/
def all : List Command := children .root

/-- The flags every command takes: `--config` and the settings flags. -/
def globalFlags : List Flag :=
  Flag.long "config" .text (.text "") ("settings file (default " ++ defaultSettingsFile ++ " if present)") ::
    settingFlags

/-- The flag that asks for a command's help. -/
def helpFlag (c : Command) : Flag :=
  { name := "help", type := .bool, default := .bool false, short := some 'h', usage := "help for " ++ c.name }

/-- The flags of a command's own. -/
def ownFlags : Command → List Flag
  | .run =>
    [{ name := "input", type := .text, default := .text "-", short := some 'i',
       usage := "read messages from this file (- for stdin)" },
     .long "json" .bool (.bool false) "print alerts as JSON lines",
     .long "no-journal" .bool (.bool false) "do not record alerts in the journal"]
  | .validate => [.long "json" .bool (.bool false) "JSON output"]
  | .alerts =>
    [.long "since" .int (.int 0) "only alerts with id > this",
     .long "limit" .int (.int 50) "max alerts to return",
     .long "context" .text (.text "") "only alerts of this context name",
     .long "json" .bool (.bool false) "JSON output"]
  | .script _ => [.long "no-descriptions" .bool (.bool false) "disable completion descriptions"]
  | _ => []

/-- Every flag a command reads. -/
def flags (c : Command) : List Flag := c.ownFlags ++ globalFlags ++ [c.helpFlag]

/-- Whether a flag of a set takes no value. -/
def takesNoValue (fs : List Flag) (name : String) : Bool :=
  match fs.find? (·.name == name) with
  | some f => f.type == .bool
  | none => false

/-- Whether a one-letter flag of a set takes no value. -/
def shortTakesNoValue (fs : List Flag) (c : Char) : Bool :=
  match fs.find? (·.short == some c) with
  | some f => f.type == .bool
  | none => false

/-- Whether an argument is a flag that takes its value from the next argument. -/
def takesNext (fs : List Flag) (s : String) : Bool :=
  if s.contains '=' then false
  else match s.toList with
    | '-' :: '-' :: name => !takesNoValue fs (String.ofList name)
    | ['-', c] => !shortTakesNoValue fs c
    | _ => false

/-- The words of arguments that are neither flags nor flag values. -/
def words (fs : List Flag) : List String → List String
  | [] => []
  | s :: rest =>
    if s == "--" then []
    else if takesNext fs s then
      match rest with
      | [] | [_] => []
      | _ :: more => words fs more
    else if !s.isEmpty && !s.startsWith "-" then s :: words fs rest
    else words fs rest

/-- The arguments without the first word equal to `x`. -/
def withoutWord (fs : List Flag) (x : String) : List String → List String
  | [] => []
  | s :: rest =>
    if s == "--" then s :: rest
    else if takesNext fs s then
      match rest with
      | [] => [s]
      | v :: more => s :: v :: withoutWord fs x more
    else if !s.startsWith "-" && s == x then rest
    else s :: withoutWord fs x rest

/-- The flags known while looking for the command below `c`: the global ones and the
command's own. -/
def searchFlags (c : Command) : List Flag := globalFlags ++ c.ownFlags

/-- The command below `c` that a word names; `__complete` is found below the program. -/
def child? (c : Command) (w : String) : Option Command :=
  if c == .root && w == "__complete" then some (.complete true)
  else if c == .root && w == "__completeNoDesc" then some (.complete false)
  else c.children.find? (·.name == w)

/-- Go down from a command to the one the arguments name, taking each name found out of
the arguments. Each level goes one step down the tree, which is three levels deep. -/
def descend : Nat → Command → List String → Command × List String
  | 0, c, args => (c, args)
  | fuel + 1, c, args =>
    match words c.searchFlags args with
    | [] => (c, args)
    | w :: _ =>
      match c.child? w with
      | some d => descend fuel d (withoutWord c.searchFlags w args)
      | none => (c, args)

/-- Find the command the arguments name, and the arguments left for it. Below the program
itself, a word that names no command is refused. -/
def find (args : List String) : Except String (Command × List String) :=
  let (c, rest) := descend 3 .root args
  if c == .root then
    match words globalFlags rest with
    | [] => .ok (c, rest)
    | w :: _ => .error ("unknown command " ++ Text.quote w ++ " for " ++ Text.quote "correlog")
  else .ok (c, rest)

/-- Check the words left for a command. -/
def checkArgs (c : Command) (args : List String) : Option String :=
  match c, args with
  | .validate, _ :: _ :: _ =>
    some ("accepts at most 1 arg(s), received " ++ toString args.length)
  | .complete _, [] => some "requires at least 1 arg(s), only received 0"
  | .validate, _ | .root, _ | .help, _ | .completion, _ | .complete _, _ => none
  | _, a :: _ => some ("unknown command " ++ Text.quote a ++ " for " ++ Text.quote c.path)
  | _, [] => none

end Command

end Windowing.Cli
