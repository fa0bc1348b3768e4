import LedStrip.Error

/-!
# Disks

Files in folders, and what comes of reading the file at a path.  A path leads from name to name,
from the root if it begins with a slash and otherwise from the folder one works in.
-/

namespace LedStrip

/-- Files, each under its names from the root down, and the folder one works in. -/
structure Disk where
  files : List (List String × Except FileFault String)
  home : List String

namespace Disk

/-- A place on a disk. -/
inductive Place where
  | folder (names : List String)
  | file (content : Except FileFault String)

/-- The names in a path. -/
def names (path : String) : List String :=
  (path.splitOn "/").filter fun name => name ≠ "" ∧ name ≠ "."

/-- The names from the root down to where a path begins. -/
def origin (home : List String) (path : String) : List String :=
  if path.startsWith "/" then [] else home

/-- A disk with files at these paths, which do not lead back. -/
def ofFiles (home : String) (files : List (String × Except FileFault String)) : Disk where
  files := files.map fun (path, content) => (origin (names home) path ++ names path, content)
  home := names home

/-- Whether there is a folder of these names: one works in it or below, or there is a file below. -/
def hasFolder (d : Disk) (folder : List String) : Bool :=
  folder.isPrefixOf d.home || d.files.any fun (file, _) => folder.isPrefixOf file

/-- The longest name, in bytes. -/
def maxName : Nat := 255

/-- The longest path, in bytes. -/
def maxPath : Nat := 4095

/-- Go from a place to the one of the next name.  Two dots lead back; no name and a single dot lead
nowhere, but only from a folder. -/
def enter (d : Disk) : Place → String → Except FileFault Place
  | .file _, _ => .error .notFolder
  | .folder here, name =>
    if name = "" ∨ name = "." then .ok (.folder here)
    else if name = ".." then .ok (.folder here.dropLast)
    else if maxName < name.utf8ByteSize then .error .nameTooLong
    else
      let there := here ++ [name]
      match d.files.lookup there with
      | some content => .ok (.file content)
      | none => if d.hasFolder there then .ok (.folder there) else .error .missing

/-- Read the file at a path. -/
def read (d : Disk) (path : String) : Except FileFault String := do
  if path.isEmpty then throw .missing
  if maxPath < path.utf8ByteSize then throw .nameTooLong
  match ← (path.splitOn "/").foldlM d.enter (.folder (origin d.home path)) with
  | .folder _ => throw .folder
  | .file content => content

end Disk

end LedStrip
