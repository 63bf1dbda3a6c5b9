import Windowing.Cli.Command
import Windowing.Decimal.Shortest

set_option autoImplicit false

/-! # Help

A command's help is what it is for, a blank line, and its usage: how it is called, the
commands below it (for the program itself), its own flags and the global ones, each part
after a blank line.

A flag's help line is its forms (`  -i, --input`, or six blanks and `--name`), the name of
its value (`string`, `int`, `float`, `duration`; none for a boolean), then what it is for
and its default, unless that is the zero of its type (an empty text, false, 0). The texts
of one list of flags start in one column, three past the end of the longest head. Flags
are listed in name order. -/

namespace Windowing

/-- The name help gives to a value of a type; a boolean flag takes no value. -/
def FlagType.valueName : FlagType → String
  | .text => "string"
  | .bool => ""
  | .int => "int"
  | .float => "float"
  | .duration => "duration"

/-- A default as help shows it: text quoted, numbers and durations as they are read. -/
def FlagValue.helpText : FlagValue → String
  | .text s => Text.quote s
  | .bool b => if b then "true" else "false"
  | .int i => toString i
  | .float f => Decimal.formatFloat f 'g' none
  | .duration d => Duration.text d

/-- Whether a default is the zero of its type, which help leaves out. -/
def FlagValue.isZero : FlagValue → Bool
  | .text s => s.isEmpty
  | .bool b => !b
  | .int i => i == 0
  | .float f => Decimal.formatFloat f 'g' none == "0"
  | .duration d => d.toInt == 0

/-- The head of a flag's help line: its forms and the name of its value. -/
def Flag.helpHead (f : Flag) : String :=
  let forms := match f.short with
    | some c => "  -" ++ c.toString ++ ", --" ++ f.name
    | none => "      --" ++ f.name
  let v := f.type.valueName
  if v.isEmpty then forms else forms ++ " " ++ v

/-- The rest of a flag's help line: what it is for, and its default unless it is zero. -/
def Flag.helpTail (f : Flag) : String :=
  if f.default.isZero then f.usage else f.usage ++ " (default " ++ f.default.helpText ++ ")"

/-- Text padded with blanks on the right to a width. -/
def padRight (width : Nat) (s : String) : String :=
  s ++ String.ofList (List.replicate (width - s.length) ' ')

/-- The help lines of flags, in name order, with their texts lined up. -/
def flagHelp (flags : List Flag) : String :=
  let sorted := flags.mergeSort fun a b => decide (a.name ≤ b.name)
  let width := (sorted.map fun f => f.helpHead.length).foldl max 0
  "\n".intercalate (sorted.map fun f => padRight (width + 3) f.helpHead ++ f.helpTail)

end Windowing

namespace Windowing.Cli

namespace Command

/-- What a command is for, in one line. -/
def short : Command → String
  | .root => "Correlate message streams into alerts"
  | .run => "Correlate JSON-lines messages and print alerts"
  | .validate => "Check a contexts document and summarize it"
  | .alerts => "Query the alert journal"
  | .version => "Print the correlog version"
  | .help => "Help about any command"
  | .completion => "Generate the autocompletion script for the specified shell"
  | .script s => "Generate the autocompletion script for " ++ s.name
  | .complete _ => "Request shell completion choices for the specified command-line"

/-- How to load a shell's completion script, now and for every new session. -/
def scriptLong : Shell → String
  | .bash =>
    "Generate the autocompletion script for the bash shell.\n\n" ++
    "This script depends on the 'bash-completion' package.\n" ++
    "If it is not installed already, you can install it via your OS's package manager.\n\n" ++
    "To load completions in your current shell session:\n\n" ++
    "\tsource <(correlog completion bash)\n\n" ++
    "To load completions for every new session, execute once:\n\n" ++
    "#### Linux:\n\n" ++
    "\tcorrelog completion bash > /etc/bash_completion.d/correlog\n\n" ++
    "#### macOS:\n\n" ++
    "\tcorrelog completion bash > $(brew --prefix)/etc/bash_completion.d/correlog\n\n" ++
    "You will need to start a new shell for this setup to take effect."
  | .zsh =>
    "Generate the autocompletion script for the zsh shell.\n\n" ++
    "If shell completion is not already enabled in your environment you will need\n" ++
    "to enable it.  You can execute the following once:\n\n" ++
    "\techo \"autoload -U compinit; compinit\" >> ~/.zshrc\n\n" ++
    "To load completions in your current shell session:\n\n" ++
    "\tsource <(correlog completion zsh)\n\n" ++
    "To load completions for every new session, execute once:\n\n" ++
    "#### Linux:\n\n" ++
    "\tcorrelog completion zsh > \"$\x7bfpath[1]\x7d/_correlog\"\n\n" ++
    "#### macOS:\n\n" ++
    "\tcorrelog completion zsh > $(brew --prefix)/share/zsh/site-functions/_correlog\n\n" ++
    "You will need to start a new shell for this setup to take effect."
  | .fish =>
    "Generate the autocompletion script for the fish shell.\n\n" ++
    "To load completions in your current shell session:\n\n" ++
    "\tcorrelog completion fish | source\n\n" ++
    "To load completions for every new session, execute once:\n\n" ++
    "\tcorrelog completion fish > ~/.config/fish/completions/correlog.fish\n\n" ++
    "You will need to start a new shell for this setup to take effect."
  | .powershell =>
    "Generate the autocompletion script for powershell.\n\n" ++
    "To load completions in your current shell session:\n\n" ++
    "\tcorrelog completion powershell | Out-String | Invoke-Expression\n\n" ++
    "To load completions for every new session, add the output of the above command\n" ++
    "to your powershell profile."

/-- What a command is for, at length; empty when the one line says it all. -/
def long : Command → String
  | .root =>
    "correlog groups related messages into time- and size-bounded windows and\n" ++
    "runs actions when a window closes.\n\n" ++
    "Settings are read from correlog.yaml (or --config), CORRELOG_* environment\n" ++
    "variables and flags, in increasing priority. Example: CORRELOG_LOG_LEVEL=debug."
  | .run =>
    "run reads one message per line, e.g.\n\n" ++
    "  \x7b\"id\": \"LOGIN_FAILED\", \"name\": \"sshd\", \"values\": \x7b\"HOST\": \"web-1\"\x7d\x7d\n\n" ++
    "feeds them to the configured contexts and prints every alert. It stops at\n" ++
    "end of input or on SIGINT/SIGTERM after delivering the alerts already\n" ++
    "produced. Windows still open at that point are dropped."
  | .help =>
    "Help provides help for any command in the application.\n" ++
    "Simply type correlog help [path to command] for full details."
  | .completion =>
    "Generate the autocompletion script for correlog for the specified shell.\n" ++
    "See each sub-command's help for details on how to use the generated script."
  | .script s => scriptLong s
  | .complete _ =>
    "__complete is a special command that is used by the shell completion logic\n" ++
    "to request completion choices for the specified command-line."
  | _ => ""

/-- How a command is called, after the program's name. -/
def use : Command → String
  | .validate => "validate [contexts]"
  | .help => "help [command]"
  | .script s => "completion " ++ s.name
  | .complete _ => "__complete [command-line]"
  | c => c.name

/-- Whether a command's usage line leaves out `[flags]`. -/
def bareUseLine : Command → Bool
  | .script .bash | .complete _ => true
  | _ => false

/-- The flags a command has of its own: for the program, the global ones. -/
def localFlags (c : Command) : List Flag :=
  match c with
  | .root => globalFlags ++ [c.helpFlag]
  | _ => c.ownFlags ++ [c.helpFlag]

/-- The flags a command takes from the program. -/
def inheritedFlags : Command → List Flag
  | .root => []
  | _ => globalFlags

/-- The commands a command's help lists, with what each is for. -/
def listed (c : Command) : List (String × String) := c.children.map fun d => (d.name, d.short)

/-- The usage part of a command's help. -/
def usageText (c : Command) : String :=
  let calls :=
    (if c.runnable then "\n  correlog " ++ c.use ++ (if c.bareUseLine then "" else " [flags]") else "") ++
    (if c.children.isEmpty then "" else "\n  " ++ c.path ++ " [command]")
  let commands :=
    if c.children.isEmpty then ""
    else "\n\nAvailable Commands:" ++
      String.join (c.listed.map fun (n, s) => "\n  " ++ padRight 11 n ++ " " ++ s)
  let global := if c.inheritedFlags.isEmpty then "" else "\n\nGlobal Flags:\n" ++ flagHelp c.inheritedFlags
  let more :=
    if c.children.isEmpty then ""
    else "\n\nUse \"" ++ c.path ++ " [command] --help\" for more information about a command."
  "Usage:" ++ calls ++ commands ++ "\n\nFlags:\n" ++ flagHelp c.localFlags ++ global ++ more ++ "\n"

/-- The help of a command. -/
def helpText (c : Command) : String :=
  (if c.long.isEmpty then c.short else c.long) ++ "\n\n" ++ c.usageText

end Command

end Windowing.Cli
