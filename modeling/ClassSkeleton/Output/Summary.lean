import ClassSkeleton.FileTree
import ClassSkeleton.Text.Utf8

/-
  ClassSkeleton.Output.Summary — a summary in a file.

  Creating it empties the file; every notice is a line; after it is closed notices are lost.
-/

namespace ClassSkeleton

/-- The place of the file while the summary is open. -/
structure FileSummary where
  place : Option Place
  deriving DecidableEq, Repr

namespace FileSummary

def create (files : FileTree) (path : Path) : Except IoError FileSummary × FileTree :=
  match files.createWithParents path with
  | (.ok place, files) => (.ok ⟨some place⟩, files)
  | (.error e, files) => (.error e, files)

def notify (s : FileSummary) (text : String) (files : FileTree) : FileTree :=
  match s.place with
  | some place => files.append place (Text.utf8 (text ++ "\n"))
  | none => files

def close (_ : FileSummary) : FileSummary := ⟨none⟩

end FileSummary

end ClassSkeleton
