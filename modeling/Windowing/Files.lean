import Windowing.Settings

set_option autoImplicit false

/-! # Files held in memory

A directory tree held in memory: files with their text, and directories. Paths are taken
as written once cleaned: repeated and trailing `/` and `.` parts go, and `..` removes the
part before it. A directory holds every file and directory whose path runs through it, so
the directories on the way to a file are there without being listed; the top (`.`, or `/`
for rooted paths) is always a directory. -/

namespace Windowing

/-- The parts of a path, cleaned. -/
def cleanParts (parts : List String) : List String :=
  (parts.foldl (fun acc p =>
    if p.isEmpty || p == "." then acc
    else if p == ".." then
      match acc with
      | [] => [".."]
      | q :: rest => if q == ".." then p :: acc else rest
    else p :: acc) []).reverse

/-- A path, cleaned. -/
def cleanPath (p : String) : String :=
  let rooted := p.startsWith "/"
  let parts := cleanParts (p.splitOn "/")
  let parts := if rooted then parts.dropWhile (· == "..") else parts
  let body := "/".intercalate parts
  if rooted then "/" ++ body else if body.isEmpty then "." else body

/-- Files with their text, and directories. -/
structure FileTree where
  files : List (String × String) := []
  dirs : List String := []

namespace FileTree

/-- Whether a path is a directory: the top, a listed one, or one on the way to a file or
a listed directory. -/
def isDir (t : FileTree) (p : String) : Bool :=
  let q := cleanPath p
  q == "." || q == "/" ||
    (t.dirs.map cleanPath).contains q ||
    ((t.files.map (cleanPath ·.1)) ++ t.dirs.map cleanPath).any (·.startsWith (q ++ "/"))

/-- The text of the file at a path. -/
def text? (t : FileTree) (p : String) : Option String :=
  let q := cleanPath p
  (t.files.find? (cleanPath ·.1 == q)).map (·.2)

/-- Read a path where reading a directory finds nothing in it. -/
def readLoose (t : FileTree) (p : String) : FileRead :=
  match t.text? p with
  | some s => .contents s
  | none => if t.isDir p then .contents "" else .missing

end FileTree

end Windowing
