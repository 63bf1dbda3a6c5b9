import Windowing.Workspace
import Windowing.Config.Build

set_option autoImplicit false

/-! # The disk the command line works on

The command line reads and writes files through a small interface: reading a file,
asking whether a path exists, opening the input, making directories, and loading and
storing journals; it also asks for the time, for fresh identifiers, for the name of
the runtime and for the standard input. A failure of the
disk reads as the operating system words it: `open P: no such file or directory`,
`open P: not a directory` (a file stands where a directory should), `read P: is a
directory`, `mkdir P: not a directory`.

`Disk` is a disk held in memory: files (text, or journals) and directories, where a
directory holds every path that runs through it. `World` adds a fixed clock and a count
of identifiers handed out, and runs the interface in a state monad. -/

namespace Windowing

/-- What a file holds. -/
inductive DiskEntry where
  | text (s : String)
  | journal (d : Sql.Database)

/-- The text a journal file reads as: its header, which no text document starts with. -/
def journalHeader : String := "SQLite format 3\x00"

/-- Files and directories held in memory, by cleaned path. -/
structure Disk where
  files : List (String × DiskEntry) := []
  dirs : List String := []

namespace Disk

/-- The file at a path. -/
def entry? (d : Disk) (p : String) : Option DiskEntry :=
  let q := cleanPath p
  (d.files.find? (·.1 == q)).map (·.2)

/-- Whether a path is a directory. -/
def isDir (d : Disk) (p : String) : Bool :=
  let q := cleanPath p
  q == "." || q == "/" || d.dirs.contains q ||
    ((d.files.map (·.1)) ++ d.dirs).any (·.startsWith (q ++ "/"))

/-- The paths on the way to a path, shortest first, the path itself last. -/
def prefixes (p : String) : List String :=
  let parts := (cleanPath p).splitOn "/"
  (List.range parts.length).map fun i => "/".intercalate (parts.take (i + 1))

/-- The first directory on the way to a path that is a file instead, if any. -/
def fileOnTheWay (d : Disk) (p : String) : Option String :=
  ((prefixes p).dropLast).find? fun a => (d.entry? a).isSome

/-- Read a file. -/
def readFile (d : Disk) (p : String) : Except String String :=
  if (d.fileOnTheWay p).isSome then .error ("open " ++ p ++ ": not a directory")
  else match d.entry? p with
    | some (.text s) => .ok s
    | some (.journal _) => .ok journalHeader
    | none =>
      if d.isDir p then .error ("read " ++ p ++ ": is a directory")
      else .error ("open " ++ p ++ ": no such file or directory")

/-- Whether a path exists. -/
def pathExists (d : Disk) (p : String) : Except String Bool :=
  if (d.fileOnTheWay p).isSome then .error ("stat " ++ p ++ ": not a directory")
  else .ok ((d.entry? p).isSome || d.isDir p)

/-- Open the input: the failure of opening it, or else its contents or the failure of
reading them. -/
def openInput (d : Disk) (p : String) : Except String (Except String String) :=
  if (d.fileOnTheWay p).isSome then .error ("open " ++ p ++ ": not a directory")
  else match d.entry? p with
    | some (.text s) => .ok (.ok s)
    | some (.journal _) => .ok (.ok journalHeader)
    | none =>
      if d.isDir p then .ok (.error ("read " ++ p ++ ": is a directory"))
      else .error ("open " ++ p ++ ": no such file or directory")

/-- Make a directory and those on the way to it. -/
def makeDirs (d : Disk) (p : String) : Disk × Option String :=
  if d.isDir p then (d, none)
  else match (prefixes p).find? (fun a => (d.entry? a).isSome) with
    | some a => (d, some ("mkdir " ++ a ++ ": not a directory"))
    | none => ({ d with dirs := d.dirs ++ [cleanPath p] }, none)

/-- Open the journal at a path: what it holds, fresh when the file is new or empty. -/
def loadJournal (d : Disk) (p : String) : Except Failure Sql.Database :=
  if !d.isDir (parentOf (cleanPath p)) || d.isDir p then .error openFailure
  else match d.entry? p with
    | some (.journal j) => .ok j
    | some (.text s) => if s.isEmpty then .ok {} else .error notJournalFailure
    | none => .ok {}

/-- Store a journal at a path. -/
def storeJournal (d : Disk) (p : String) (j : Sql.Database) : Disk :=
  let q := cleanPath p
  if d.files.any (·.1 == q) then
    { d with files := d.files.map fun e => if e.1 == q then (q, .journal j) else e }
  else { d with files := d.files ++ [(q, .journal j)] }

/-- A disk with text files and directories. -/
def ofFiles (files : List (String × String)) (dirs : List String) : Disk :=
  { files := files.map fun (p, s) => (cleanPath p, .text s), dirs := dirs.map cleanPath }

end Disk

/-- What the command line needs from the host it runs on. -/
class Host (m : Type → Type) where
  readFile : String → m (Except String String)
  pathExists : String → m (Except String Bool)
  /-- Open the input: the failure of opening it, or else its octets or the failure of reading
  them. -/
  openInput : String → m (Except String (Except String (List UInt8)))
  makeDirs : String → m (Option String)
  loadJournal : String → m (Except Failure Sql.Database)
  storeJournal : String → Sql.Database → m Unit
  /-- The time, as RFC 3339 text. -/
  now : m String
  /-- A supply of fresh identifiers, by position. -/
  freshUuids : m (Nat → Uuid)
  /-- What the program runs on, as the version line shows it. -/
  runtime : m String
  /-- The octets of the whole standard input. -/
  readStdin : m (List UInt8)

/-- A disk in memory with a fixed clock, a count of identifiers handed out, the name of the
runtime and the standard input. -/
structure World where
  disk : Disk
  clock : String
  issued : Nat := 0
  runtimeName : String
  stdin : String := ""

instance : Host (StateM World) where
  readFile p := do pure ((← get).disk.readFile p)
  pathExists p := do pure ((← get).disk.pathExists p)
  openInput p := do pure (((← get).disk.openInput p).map (·.map (·.toUTF8.data.toList)))
  makeDirs p := do
    let w ← get
    let (d, err) := w.disk.makeDirs p
    set { w with disk := d }
    pure err
  loadJournal p := do pure ((← get).disk.loadJournal p)
  storeJournal p j := modify fun w => { w with disk := w.disk.storeJournal p j }
  now := do pure (← get).clock
  freshUuids := do
    let w ← get
    -- each supply gets its own block of numbers
    set { w with issued := w.issued + 1000000 }
    pure fun i => numberedUuid (w.issued + i)
  runtime := do pure (← get).runtimeName
  readStdin := do pure (← get).stdin.toUTF8.data.toList

end Windowing
