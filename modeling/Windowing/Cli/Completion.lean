import Windowing.Cli.Help
import Windowing.Cli.Completion.Bash
import Windowing.Cli.Completion.Zsh
import Windowing.Cli.Completion.Fish
import Windowing.Cli.Completion.PowerShell

set_option autoImplicit false

/-! # Completing command lines

A shell's completion script runs `correlog __complete WORDS... LAST` and reads back the
choices for the last word, one per line (a choice, a tab and what it is for), and then a
line `:N` with the *directive*: 0 lets the shell also offer file names, 4 does not.

The words before the last one name a command, found as for running it; when they name
none there are no choices and the directive is 0. The choices are then:

* when the last word starts with `-` (and has no `=`), and no `--` came before it, the
  flags of the command not yet given: first those it takes from the program, then its
  own, each in name order, as `--name` and (for a one-letter form) `-x`, each kept when
  it starts with the last word; the directive is 4;
* when the word before the last is a flag that takes a value (or the last word is
  `--flag=...`), none: flag values are not completed, and the directive is 0; a flag
  the command does not have gives no choices either;
* otherwise, when no word is left for the command, the commands below it that start
  with the last word (the directive is 4 if it has any); `help` offers the commands
  below the one its words name, and the `completion` commands offer nothing more, both
  with the directive 4.

After `--help` nothing is offered, with the directive 4. With `__completeNoDesc`, or when
`CORRELOG_COMPLETION_DESCRIPTIONS` (else `COBRA_COMPLETION_DESCRIPTIONS`) reads as false,
the choices come without their descriptions. -/

namespace Windowing.Cli

/-- A choice: what is offered and what it is for. -/
abbrev Choice := String × String

/-- The choices offered for a word and the directive that closes them. -/
structure Choices where
  offered : List Choice := []
  directive : Nat := 0

namespace Command

/-- The flags a command takes from the program, in name order. -/
def inheritedSorted (c : Command) : List Flag :=
  c.inheritedFlags.mergeSort fun a b => decide (a.name ≤ b.name)

/-- The flags a command has of its own, in name order. -/
def localSorted (c : Command) : List Flag :=
  c.localFlags.mergeSort fun a b => decide (a.name ≤ b.name)

/-- The forms of a flag that start with a word. -/
def flagChoices (word : String) (f : Flag) : List Choice :=
  let long := "--" ++ f.name
  (if long.startsWith word then [(long, f.usage)] else []) ++
    match f.short with
    | some c => if ("-" ++ c.toString).startsWith word then [("-" ++ c.toString, f.usage)] else []
    | none => []

/-- The commands below a command whose names start with a word. -/
def commandChoices (c : Command) (word : String) : List Choice :=
  (c.children.filter fun d => d.name.startsWith word).map fun d => (d.name, d.short)

/-- Whether an argument looks like a flag with its name written out. -/
def isFlagArg (s : String) : Bool :=
  (s.length ≥ 3 && s.startsWith "--") || (s.length ≥ 2 && s.startsWith "-" && !s.startsWith "--")

/-- The flag of a command with a name: a one-letter name is a short form. -/
def flagNamed (c : Command) (name : String) : Option Flag :=
  match name.toList with
  | [ch] => c.flags.find? (·.short == some ch)
  | _ => c.flags.find? (·.name == name)

/-- Whether the last word is a flag's value: the flag, the arguments without the flag
when it stands before the word, and the part of the word to complete; or the complaint
of a flag the command does not have. -/
def valueOf (c : Command) (args : List String) (word : String) :
    Except Unit (Option Flag × List String × String) :=
  let (name, word', withEqual, trimmed) :=
    if word.startsWith "-" then
      match word.splitOn "=" with
      | head :: rest@(_ :: _) =>
        let name := if head.startsWith "--" then (head.drop 2).toString
          else String.ofList (head.toList.getLast?).toList
        (name, "=".intercalate rest, true, args)
      | _ => ("", word, false, args)
    else
      match args.getLast? with
      | some prev =>
        if isFlagArg prev && !prev.contains '=' then
          let name := if prev.startsWith "--" then (prev.drop 2).toString
            else String.ofList (prev.toList.getLast?).toList
          (name, word, false, args.dropLast)
        else ("", word, false, args)
      | none => ("", word, false, args)
  if name.isEmpty then .ok (none, trimmed, word')
  else
    match c.flagNamed name with
    | none => .error ()
    | some f =>
      if !withEqual && f.type == .bool then .ok (none, args, word')
      else .ok (some f, trimmed, word')

/-- The choices a command's own completer adds, if it has one. -/
def completer (c : Command) (args : List String) (word : String) : Option Choices :=
  match c with
  | .completion | .script _ => some { directive := 4 }
  | .help =>
    match find args with
    | .ok (d, _) => some { offered := d.commandChoices word, directive := 4 }
    | .error _ => some { directive := 4 }
  | _ => none

/-- The choices for the last word of a command line. -/
def choices (line : List String) : Choices :=
  let word := line.getLastD ""
  match find line.dropLast with
  | .error _ => {}
  | .ok (c, args) =>
    let flags := c.flags
    let (flag, args, word, bad) := match c.valueOf args word with
      | .ok (f, a, w) => (f, a, w, false)
      | .error _ => (none, args, word, true)
    let withEnd := parseFlags flags (args ++ ["--"])
    match parseFlags flags args with
    | .error _ => {}
    | .ok parsed =>
      let afterEnd := match withEnd with
        | .ok p => p.args.length > parsed.args.length
        | .error _ => false
      if bad && !afterEnd then {}
      else if parsed.set.any (·.1 == "help") then { directive := 4 }
      else if flag.isNone && word.startsWith "-" && !word.contains '=' && !afterEnd then
        let unset := (c.inheritedSorted ++ c.localSorted).filter fun f => !parsed.set.any (·.1 == f.name)
        { offered := unset.flatMap (flagChoices word), directive := 4 }
      else if flag.isSome && !afterEnd then {}
      else
        let ownSet := c.ownFlags.any fun f => parsed.set.any (·.1 == f.name)
        let base : Choices :=
          if flag.isNone && parsed.args.isEmpty && !ownSet && !c.children.isEmpty then
            { offered := c.commandChoices word, directive := 4 }
          else {}
        match c.completer parsed.args word with
        | some more => { offered := base.offered ++ more.offered, directive := more.directive }
        | none => base

end Command

/-- Text with blanks taken off both ends. -/
def trimBlanks (s : String) : String :=
  String.ofList ((s.toList.dropWhile Char.isWhitespace).reverse.dropWhile Char.isWhitespace).reverse

/-- What `__complete` prints: a line per choice (its first line, with its description
unless they are left out) and the directive. -/
def choicesText (cs : Choices) (described : Bool) : String :=
  let line (c : Choice) : String :=
    let text := if described && !c.2.isEmpty then c.1 ++ "\t" ++ c.2 else c.1
    trimBlanks ((text.splitOn "\n").headD "") ++ "\n"
  String.join (cs.offered.map line) ++ ":" ++ toString cs.directive ++ "\n"

/-- Whether descriptions are wanted, by the command called and the environment. -/
def describedBy (env : List (String × String)) (described : Bool) : Bool :=
  if !described then false
  else
    let v := match env.lookup "CORRELOG_COMPLETION_DESCRIPTIONS" with
      | some v => if v.isEmpty then (env.lookup "COBRA_COMPLETION_DESCRIPTIONS").getD "" else v
      | none => (env.lookup "COBRA_COMPLETION_DESCRIPTIONS").getD ""
    match readBool v with
    | .ok b => b
    | .error _ => true

/-- The completion script of a shell, asking for choices with descriptions or without. -/
def Shell.script (s : Shell) (described : Bool) : String :=
  let request := if described then "__complete" else "__completeNoDesc"
  match s with
  | .bash => Completion.bashScript "correlog" request
  | .zsh => Completion.zshScript "correlog" request
  | .fish => Completion.fishScript "correlog" request
  | .powershell => Completion.powerShellScript "correlog" request

end Windowing.Cli
