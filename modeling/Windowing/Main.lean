import Windowing.Cli.Run
import Windowing.Journal.File
import Std.Time

set_option autoImplicit false

/-! # The program

`correlog ARGS` runs a command on the files of the working directory and prints its
output; a failure is printed as `correlog: MESSAGE` on the standard error, and the exit
status is then 1. The settings in the environment are read from every variable the process
was started with, in the order the system lists them (`environment`); those whose names start
with `CORRELOG_` are settings.

Journals are kept as journal files (`Windowing.Journal.File`). Fresh context identifiers
are random (version 4), and the time of a journal entry is the system's, in UTC. -/

namespace Windowing.Cli

/-- The words the operating system has for an error. -/
def osText (e : IO.Error) : String :=
  match e with
  | .noFileOrDirectory .. => "no such file or directory"
  | .permissionDenied .. => "permission denied"
  | .inappropriateType _ 21 _ => "is a directory"
  | .inappropriateType _ 20 _ => "not a directory"
  | .alreadyExists .. => "file exists"
  | e => toString e

/-- Whether an error says that a directory was read as a file. -/
def isDirectoryError (e : IO.Error) : Bool :=
  match e with
  | .inappropriateType _ 21 _ => true
  | _ => false

/-- Octets as text, each octet that starts no well-formed sequence read as U+FFFD. -/
def octetsText (bs : ByteArray) : String :=
  match String.fromUTF8? bs with
  | some s => s
  | none => Utf8.decodeLossy bs.data.toList

/-- The octets of a file, or why they do not read. -/
def readOctets (p : String) : IO (Except IO.Error ByteArray) := do
  try
    return .ok (← IO.FS.readBinFile p)
  catch e => return .error e

/-- The text of a file, or why it does not read. -/
def readText (p : String) : IO (Except IO.Error String) := do
  return (← readOctets p).map octetsText

/-- Whether a path that exists is a directory. -/
def isDirectory (p : String) : IO Bool := do
  try
    let _ ← IO.FS.Handle.mk (p ++ "/.") .read
    return true
  catch _ => return false

/-- Make a directory and those on the way to it; a file on the way is named. -/
def makeDirectories (p : String) : IO (Option String) :=
  go ((Disk.prefixes p).filter (!·.isEmpty))
where
  go : List String → IO (Option String)
    | [] => pure none
    | q :: rest => do
      let made ← try
          IO.FS.createDir q
          pure (Except.ok ())
        catch e => pure (Except.error e)
      match made with
      | .ok () => go rest
      | .error (.alreadyExists ..) =>
        if ← isDirectory q then go rest
        else return some ("mkdir " ++ q ++ ": not a directory")
      | .error e => return some ("mkdir " ++ q ++ ": " ++ osText e)

/-- A random identifier of version 4 from a seed and a position. -/
def randomUuid (seed : Nat) (i : Nat) : Uuid :=
  let (octets, _) := (List.range 16).foldl (fun (acc : List UInt8 × StdGen) _ =>
    let (n, g) := randNat acc.2 0 255
    (acc.1 ++ [n.toUInt8], g)) ([], mkStdGen (seed + i))
  let octets := octets.set 6 (((octets.getD 6 0) &&& 0x0f) ||| 0x40)
  ⟨octets.set 8 (((octets.getD 8 0) &&& 0x3f) ||| 0x80)⟩

instance : Host IO where
  readFile p := do
    match ← readText p with
    | .ok s => return .ok s
    | .error e => return .error ((if isDirectoryError e then "read " else "open ") ++ p ++ ": " ++ osText e)
  pathExists p := do
    try
      let _ ← IO.FS.Handle.mk p .read
      return .ok true
    catch e =>
      match e with
      | .noFileOrDirectory .. => return .ok false
      | .permissionDenied .. => return .ok true
      | e => return .error ("stat " ++ p ++ ": " ++ osText e)
  openInput p := do
    match ← readOctets p with
    | .ok bs => return .ok (.ok bs.data.toList)
    | .error e =>
      if isDirectoryError e then return .ok (.error ("read " ++ p ++ ": " ++ osText e))
      else return .error ("open " ++ p ++ ": " ++ osText e)
  makeDirs p := makeDirectories p
  loadJournal p := do
    match ← readText p with
    | .ok s =>
      if s.isEmpty then return .ok {}
      else match journalOfFileText? s with
        | some d => return .ok d
        | none => return .error notJournalFailure
    | .error (.noFileOrDirectory ..) =>
      -- a new journal's file is made when it opens, in a directory that must be there
      try
        IO.FS.writeFile p (journalFileText {})
        return .ok {}
      catch _ => return .error openFailure
    | .error _ => return .error openFailure
  storeJournal p d := do
    try IO.FS.writeFile p (journalFileText d)
    catch e => IO.eprintln ("correlog: store journal " ++ p ++ ": " ++ osText e)
  now := do
    let t ← Std.Time.Timestamp.now
    return (Timestamp.ofUnixNanos t.toNanosecondsSinceUnixEpoch.val).rfc3339
  freshUuids := do
    let bs ← IO.getRandomBytes 8
    return randomUuid (bs.data.toList.foldl (fun n b => n * 256 + b.toNat) 0)
  runtime := return "lean4"
  readStdin := do
    let bs ← (← IO.getStdin).readBinToEnd
    return bs.data.toList

/-- One entry of the environment, `NAME=VALUE`, split at its first `=`: the name read as text
(an ill-formed octet as U+FFFD), the value keeping its octets. -/
def environmentEntry (entry : List UInt8) : Option (String × String) :=
  let name := entry.takeWhile (· != 61)
  if name.length = entry.length then none
  else some (Utf8.decodeLossy name, Utf8.ofOctets (entry.drop (name.length + 1)))

/-- The variables the process was started with, in order, from the system's record of them
(entries separated by zero octets); none where there is no such record. -/
def environment : IO (Option (List (String × String))) := do
  match ← readOctets "/proc/self/environ" with
  | .ok bs => return some ((bs.data.toList.splitOn 0).filterMap environmentEntry)
  | .error _ => return none

end Windowing.Cli

open Windowing in
/-- Run the command the arguments name, with the settings in the environment. -/
def main (args : List String) : IO UInt32 := do
  let env ← match ← Cli.environment with
    | some env => pure env
    | none =>
      -- with no record of the environment, ask for the variable of each setting's flag
      settingFlags.filterMapM fun f => do
        let name := envName f.name
        return (← IO.getEnv name).map (name, ·)
  let o ← Cli.execute env args
  -- text is written as its octets, stray ones included
  (← IO.getStdout).write (ByteArray.mk (Utf8.bytes o.stdout).toArray)
  match o.failure with
  | some m =>
    (← IO.getStderr).write (ByteArray.mk (Utf8.bytes ("correlog: " ++ m ++ "\n")).toArray)
    return 1
  | none => return 0
