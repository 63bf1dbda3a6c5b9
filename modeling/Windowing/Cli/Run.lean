import Windowing.Cli.Disk
import Windowing.Cli.Ingest
import Windowing.Cli.Completion
import Windowing.Correlator
import Windowing.Message.Wire
import Windowing.Workspace

set_option autoImplicit false

/-! # Running a command

A command writes its output and, when it fails, gives the message the program prints
after `correlog: ` (and then exits with 1).

* `run` reads messages, one JSON object per line, from the standard input or from the
  file `--input` names; it feeds them to the contexts of the contexts document and
  prints every alert, as a line of JSON with `--json` or else as
  `[CONTEXT] ACTION (N messages): TEXT`; alerts are also recorded in the journal unless
  `--no-journal` is given. Lines that are blank, are not a message, or have an empty id
  are passed over. A line of 1 MiB or more stops the reading with
  `read input: bufio.Scanner: token too long`, after the lines before it
  (`Windowing.Cli.ingest`). At the end of the input the correlator stops and open windows
  are dropped.
* `validate` checks the contexts document (the one named as its argument, else the one
  the settings name) and summarizes its contexts.
* `alerts` lists the journal's alerts, `#ID TIME ALERT` per line (or `no alerts`), or as
  indented JSON with `--json`.
* `version` prints the program's version and runtime; it reads no settings.
* `help` prints the help of the command its arguments name.
* `completion SHELL` prints the shell's completion script (`--no-descriptions` makes it
  ask for choices without their descriptions), and `__complete` lists the choices for a
  command line (`Windowing.Cli.Completion`).

The program alone, `completion` alone, or any command with `-h` or `--help`, prints its
help instead.

Every other command first resolves the settings, from the settings file, the
environment and the flags. -/

namespace Windowing.Cli

open Command

/-- What a command did: its output, and its failure if it failed. -/
structure Outcome where
  stdout : String := ""
  failure : Option String := none

/-- The version of the program. -/
def programVersion : String := "0.1.0"

/-- A text flag's value, or its default. -/
def textFlag (c : Command) (p : ParsedFlags) (name : String) : String :=
  match p.set.lookup name with
  | some (.text s) => s
  | _ =>
    match (c.flags.find? (·.name == name)).map Flag.default with
    | some (.text s) => s
    | _ => ""

/-- A boolean flag's value (false when not set). -/
def boolFlag (p : ParsedFlags) (name : String) : Bool :=
  match p.set.lookup name with
  | some (.bool b) => b
  | _ => false

/-- An integer flag's value, or its default. -/
def intFlag (c : Command) (p : ParsedFlags) (name : String) : Int :=
  match p.set.lookup name with
  | some (.int i) => i
  | _ =>
    match (c.flags.find? (·.name == name)).map Flag.default with
    | some (.int i) => i
    | _ => 0

/-! ## Output -/

/-- The fields of an alert as JSON. -/
def alertFields (a : Alert) : List (String × Json) :=
  [("action_id", .str a.actionId), ("context_id", .str a.contextId)] ++
    (if a.contextName.isEmpty then [] else [("context_name", .str a.contextName)]) ++
    [("message", a.message.toJson), ("window_len", .int a.windowLen)] ++
    (if a.inject then [("inject", .bool true)] else [])

/-- An alert as one line of text. -/
def formatAlert (a : Alert) : String :=
  let ctx := if a.contextName.isEmpty then a.contextId else a.contextName
  let head := "[" ++ ctx ++ "] " ++ a.actionId ++ " (" ++ toString a.windowLen ++ " messages)"
  match a.message.value? "MESSAGE" with
  | some t => if t.isEmpty then head else head ++ ": " ++ t
  | none => head

/-- A summary as a JSON value. -/
def summaryJson (s : Summary) : Json :=
  .obj ((if s.name.isEmpty then [] else [("name", .str s.name)]) ++
    [("uuid", .str s.id), ("kind", .str s.kind)] ++
    (if s.patterns.isEmpty then [] else [("patterns", .arr (s.patterns.map Json.str))]) ++
    [("actions", .int s.actions)])

/-- A summary as a line of the `validate` report. -/
def summaryLine (s : Summary) : String :=
  let name := if s.name.isEmpty then "(unnamed)" else s.name
  let pats := if s.patterns.isEmpty then "*" else ",".intercalate s.patterns
  "  " ++ padRight 20 name ++ " " ++ padRight 6 s.kind ++ " " ++ s.id ++ " patterns=" ++ pats ++
    " actions=" ++ toString s.actions ++ "\n"

/-- A journal entry as a JSON value. -/
def entryJson (e : JournalEntry) : Json :=
  .obj ([("id", .int e.id), ("created_at", .str e.createdAt.rfc3339)] ++ alertFields e.alert)

/-- A journal entry as a line of the `alerts` report. -/
def entryLine (e : JournalEntry) : String :=
  "#" ++ toString e.id ++ " " ++ e.createdAt.plain ++ " " ++ formatAlert e.alert ++ "\n"

/-- A value as indented JSON text, with a line break after it. -/
def printJson (j : Json) : String := j.encodeIndented 0 ++ "\n"

/-! ## Steps shared by commands -/

variable {m : Type → Type} [Monad m] [Host m]

/-- Resolve the settings for a command from its flags and the environment. -/
def resolveSettings (env : List (String × String)) (c : Command) (p : ParsedFlags) :
    m (Except String Settings) := do
  let config := textFlag c p "config"
  let path := if config.isEmpty then defaultSettingsFile else config
  let found ← match ← Host.pathExists path with
    | .error e => pure (FileRead.unknown e)
    | .ok false => pure FileRead.missing
    | .ok true =>
      match ← Host.readFile path with
      | .ok text => pure (FileRead.contents text)
      | .error e => pure (FileRead.failed e)
  let global := { p with set := p.set.filter fun e => globalFlags.any (·.name == e.1) }
  pure ((loadSettings (fun _ => found) config env (some (globalFlags, global))).mapError (·.message))

/-- Read, check and build the contexts document at a path. -/
def loadContexts (path : String) : m (Except String (List Context)) := do
  if path.isEmpty then
    return .error "no contexts document: pass --contexts or set it in the settings file"
  match ← Host.readFile path with
  | .error e => return .error ("read contexts: " ++ e)
  | .ok text =>
    match Document.parseContexts text with
    | .error f => return .error (path ++ ": " ++ f.message)
    | .ok cfgs =>
      let fresh ← Host.freshUuids
      match buildConfigs fresh cfgs with
      | .error f => return .error (path ++ ": " ++ f.message)
      | .ok cs => return .ok cs

/-- Open the journal at a path, making its directory first. -/
def openJournal (path : String) : m (Except String Journal) := do
  let dir := parentOf (cleanPath path)
  if dir != "." then
    if let some e ← Host.makeDirs dir then
      return .error ("cannot create " ++ dir ++ ": " ++ e)
  match ← Host.loadJournal path with
  | .error f => return .error ("cannot open journal " ++ Text.quote path ++ ": " ++ f.message)
  | .ok data =>
    match Journal.openOn data with
    | .error f => return .error ("cannot open journal " ++ Text.quote path ++ ": " ++ f.message)
    | .ok j =>
      Host.storeJournal path j.data
      return .ok j

/-- Record alerts in a journal, in order; a record that fails is passed over. -/
def recordAlerts (j : Journal) : List Alert → m Journal
  | [] => pure j
  | a :: rest => do
    let now ← Host.now
    match j.insert (some a) now with
    | .ok (j', _) => recordAlerts j' rest
    | .error _ => recordAlerts j rest

/-! ## The commands -/

/-- The `run` command. -/
def runCommand (s : Settings) (p : ParsedFlags) : m Outcome := do
  let input := textFlag .run p "input"
  let text ← if input.isEmpty || input == "-" then do
      let stdin ← Host.readStdin
      pure (Except.ok (Except.ok stdin))
    else Host.openInput input
  match text with
  | .error e => return { failure := some e }
  | .ok text =>
    match ← loadContexts s.contexts with
    | .error e => return { failure := some e }
    | .ok contexts =>
      let journal ← if boolFlag p "no-journal" then pure (Except.ok none)
        else do
          let r ← openJournal s.db
          pure (r.map some)
      match journal with
      | .error e => return { failure := some e }
      | .ok journal =>
        let setup : CorrelatorSetup :=
          { reinject := true, stopRetries := if s.stopRetries ≥ 0 then s.stopRetries.toNat else 3 }
        let c := Correlator.new setup contexts
        let (c, _, ingestFailure) :=
          ingest (fun (c : Correlator) msg => c.push (some msg)) c (decide (0 < s.ingestRate)) text
        let (c, stopFailure) := c.stop
        let out := String.join (c.alerts.map fun a =>
          (if boolFlag p "json" then (Json.obj (alertFields a)).encode else formatAlert a) ++ "\n")
        if let some j := journal then
          let j ← recordAlerts j c.alerts
          Host.storeJournal s.db j.data
        -- both failures are reported, one per line, as errors are joined
        let failure := match ingestFailure, stopFailure with
          | none, none => none
          | some a, none => some a
          | none, some b => some b.message
          | some a, some b => some (a ++ "\n" ++ b.message)
        return { stdout := out, failure }

/-- The `validate` command. -/
def validateCommand (s : Settings) (p : ParsedFlags) (args : List String) : m Outcome := do
  let path := args.headD s.contexts
  match ← loadContexts path with
  | .error e => return { failure := some e }
  | .ok contexts =>
    let sums := contexts.map Context.summary
    if boolFlag p "json" then
      return { stdout := printJson (.obj [("contexts", .arr (sums.map summaryJson)),
        ("count", .int sums.length)]) }
    else
      return { stdout := path ++ ": " ++ toString sums.length ++ " context(s) OK\n" ++
        String.join (sums.map summaryLine) }

/-- The `alerts` command. -/
def alertsCommand (s : Settings) (p : ParsedFlags) : m Outcome := do
  match ← openJournal s.db with
  | .error e => return { failure := some e }
  | .ok j =>
    let context := textFlag .alerts p "context"
    let listed := j.list (if context.isEmpty then none else some context)
      (intFlag .alerts p "since") (intFlag .alerts p "limit")
    match listed with
    | .error f => return { failure := some ("alerts: " ++ f.message) }
    | .ok entries =>
      if boolFlag p "json" then
        let alertsJ : Json := if entries.isEmpty then .null else .arr (entries.map entryJson)
        return { stdout := printJson (.obj [("alerts", alertsJ), ("count", .int entries.length),
          ("total", .int j.count)]) }
      else if entries.isEmpty then return { stdout := "no alerts\n" }
      else return { stdout := String.join (entries.map entryLine) }

/-- The help the `help` command prints for the command its arguments name; nothing (on the
standard output) when they name none. -/
def helpTopic (args : List String) : Outcome :=
  match Command.find args with
  | .ok (c, _) => { stdout := c.helpText }
  | .error _ => {}

/-- Run the program with arguments and an environment. -/
def execute (env : List (String × String)) (args : List String) : m Outcome := do
  match Command.find args with
  | .error e => return { failure := some e }
  | .ok (.complete described, rest) =>
    -- no flag is read: every argument is a word of the line to complete
    match Command.checkArgs (.complete described) rest with
    | some e => return { failure := some e }
    | none =>
      match ← resolveSettings env (.complete described) {} with
      | .error e => return { failure := some e }
      | .ok _ => return { stdout := choicesText (Command.choices rest) (describedBy env described) }
  | .ok (c, rest) =>
    match parseFlags c.flags rest with
    | .error .help => return {}
    | .error e => return { failure := some e.message }
    | .ok p =>
      if boolFlag p "help" || !c.runnable then return { stdout := c.helpText }
      else
        match c.checkArgs p.args with
        | some e => return { failure := some e }
        | none =>
          if c == .version then
            let rt ← Host.runtime
            return { stdout := "correlog " ++ programVersion ++ " (" ++ rt ++ ")\n" }
          else
            match ← resolveSettings env c p with
            | .error e => return { failure := some e }
            | .ok s =>
              match c with
              | .run => runCommand s p
              | .validate => validateCommand s p p.args
              | .alerts => alertsCommand s p
              | .help => return helpTopic p.args
              | .script sh => return { stdout := sh.script (!boolFlag p "no-descriptions") }
              | _ => return {}

end Windowing.Cli
