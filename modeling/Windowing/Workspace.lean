import Windowing.Files
import Windowing.Journal

set_option autoImplicit false

/-! # Journals among files

A journal file opens when the directory it is in exists and the path is not itself a
directory; a file already at the path must be empty (a fresh journal) or a journal. -/

namespace Windowing

/-- The directory a cleaned path is in. -/
def parentOf (path : String) : String :=
  let parts := path.splitOn "/"
  if parts.length ≤ 1 then "."
  else
    let dir := "/".intercalate (parts.take (parts.length - 1))
    if dir.isEmpty then "/" else dir

/-- Open a fresh journal at a path of a tree of files. -/
def FileTree.openJournal (t : FileTree) (path : String) : Except Failure Journal :=
  let q := cleanPath path
  if !t.isDir (parentOf q) || t.isDir q then .error openFailure
  else
    match t.text? q with
    | some s => if s.isEmpty then Journal.openOn {} else .error notJournalFailure
    | none => Journal.openOn {}

end Windowing
