import ClassSkeleton.Output.Outlet
import ClassSkeleton.Output.Summary

/-
  ClassSkeleton.Output.Directory — source files below a directory.

  The sink of a type writes `<package path>/<Simple>.java` below the root. Without `clobber` a file that
  exists is left alone: the sink takes the text and drops it, and a notice says so. The summary is
  `summary.txt` at the root, begun anew for every archive.
-/

namespace ClassSkeleton

def summaryFile : String := "summary.txt"

structure DirectoryState where
  /-- The places of the sinks; `none` for one that drops its text. -/
  sinks : Table Nat (Option Place)
  summary : FileSummary
  deriving DecidableEq, Repr

def DirectoryState.start : DirectoryState := ⟨[], ⟨none⟩⟩

namespace Directory

def acquire (root : Path) (clobber : Bool) (n : Nat) (t : TypeName) (s : Surroundings DirectoryState) :
    (List String × Except SinkError Unit) × Surroundings DirectoryState :=
  let target := root.join t.sourcePath
  if s.files.exists? target && !clobber then
    ((["Not overwriting " ++ target.text ++ " (use --clobber)"], .ok ()),
      { s with state := { s.state with sinks := s.state.sinks.put n none } })
  else
    match s.files.createWithParents target with
    | (.ok place, files) => (([], .ok ()), ⟨files, { s.state with sinks := s.state.sinks.put n (some place) }⟩)
    | (.error e, files) => (([], .error ⟨t, e⟩), { s with files := files })

def print (n : Nat) (text : String) (s : Surroundings DirectoryState) :
    Except IoError Unit × Surroundings DirectoryState :=
  match s.state.sinks.get? n with
  | some (some place) => (.ok (), { s with files := s.files.append place (Text.utf8 text) })
  | _ => (.ok (), s)

def openSummary (root : Path) (s : Surroundings DirectoryState) : Except SinkError Unit × Surroundings DirectoryState :=
  match FileSummary.create s.files (root.join ⟨summaryFile⟩) with
  | (.ok summary, files) => (.ok (), ⟨files, { s.state with summary := summary }⟩)
  | (.error e, files) => (.error ⟨⟨summaryFile⟩, e⟩, { s with files := files })

def outlet (root : Path) (clobber : Bool) : Outlet DirectoryState where
  acquire n t _ _ := acquire root clobber n t
  print := print
  close _ := pure (.ok ())
  openSummary := openSummary root
  notify text := fun s => ((), { s with files := s.state.summary.notify text s.files })
  closeSummary := fun s => ((), { s with state := { s.state with summary := s.state.summary.close } })

end Directory

end ClassSkeleton
