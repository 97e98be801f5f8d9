import TagSync.NameMap

/-!
# Trees of files

A tree of directories and files as a value, and reading a file of it by its path. Reading fails
as the operating system would have it fail: `FileFault` says why.
-/

set_option autoImplicit false

namespace TagSync

/-- Why a file cannot be read. -/
inductive FileFault where
  /-- There is nothing at the path. -/
  | notFound
  /-- What is at the path may not be used in this way. -/
  | notPermitted
  /-- The path leads through a file. -/
  | notADirectory
  /-- At the path is a directory. -/
  | isADirectory
  /-- A name of the path or the path as a whole is too long. -/
  | nameTooLong
  /-- The path has a character that no path has. -/
  | badName
  /-- What the file holds is no text. -/
  | notText
  /-- Any other reason, in words. -/
  | other (text : String)
  deriving DecidableEq, Repr

namespace FileFault

/-- The number, the kind and the text of a fault that the system reports. -/
def ofSystem? : FileFault → Option (Nat × String × String)
  | .notFound => some (2, "NotFound", "No such file or directory")
  | .notPermitted => some (13, "PermissionDenied", "Permission denied")
  | .notADirectory => some (20, "NotADirectory", "Not a directory")
  | .isADirectory => some (21, "IsADirectory", "Is a directory")
  | .nameTooLong => some (36, "InvalidFilename", "File name too long")
  | _ => none

/-- The text of a fault that the system does not report. -/
def ownText : FileFault → String
  | .badName => "file name contained an unexpected NUL byte"
  | .notText => "stream did not contain valid UTF-8"
  | .other text => text
  | _ => ""

def message (fault : FileFault) : String :=
  match fault.ofSystem? with
  | some (number, _, text) => s!"{text} (os error {number})"
  | none => fault.ownText

end FileFault

/-- Directories and files. -/
inductive FileTree where
  | file (octets : List UInt8)
  | directory (entries : List (String × FileTree))
  deriving Inhabited

namespace FileTree

/-- What is at the end of some names. An empty name or a dot stays where it is, and two dots go
back to the directory around, of which `outer` lists all, innermost first; the outermost directory
has none around it and stays where it is. -/
def walk (outer : List FileTree) : FileTree → List String → Except FileFault FileTree
  | t, [] => .ok t
  | .file _, _ :: _ => .error .notADirectory
  | .directory entries, name :: names =>
    if 255 < name.utf8ByteSize then .error .nameTooLong
    else if name = "" ∨ name = "." then walk outer (.directory entries) names
    else if name = ".." then
      match outer with
      | [] => walk [] (.directory entries) names
      | t :: outer => walk outer t names
    else
      match entries.lookup name with
      | none => .error .notFound
      | some t => walk (.directory entries :: outer) t names

def read (root : FileTree) (path : String) : Except FileFault (List UInt8) :=
  if path.toList.contains '\x00' then .error .badName
  else if path = "" then .error .notFound
  else if 4096 ≤ path.utf8ByteSize then .error .nameTooLong
  else
    match walk [] root (path.splitOn "/") with
    | .error fault => .error fault
    | .ok (.directory _) => .error .isADirectory
    | .ok (.file octets) => .ok octets

end FileTree

end TagSync
