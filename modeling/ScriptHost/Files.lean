/-!
# Files in a directory

A directory is a list of entries in the order of their creation; an entry is
named by the components of its path.  Reading walks the path component by
component, the way the operating system resolves it, so the reason why a file
cannot be read is found where the walk stops.
-/

namespace ScriptHost

/-- An entry of a directory. -/
inductive FileEntry where
  | directory
  | file (bytes : List UInt8)
  deriving DecidableEq, Repr

/-- Why a file could not be read. -/
inductive FileError where
  | notFound
  | notDirectory
  | isDirectory
  | nameTooLong
  | nulInName
  | notText
  deriving DecidableEq, Repr

def FileError.message : FileError → String
  | .notFound => "No such file or directory (os error 2)"
  | .notDirectory => "Not a directory (os error 20)"
  | .isDirectory => "Is a directory (os error 21)"
  | .nameTooLong => "File name too long (os error 36)"
  | .nulInName => "file name contained an unexpected NUL byte"
  | .notText => "stream did not contain valid UTF-8"

/-- Entries by the components of their paths. -/
abbrev Directory := List (List String × FileEntry)

namespace Directory

/-- The components of a relative path. -/
def components (path : String) : List String :=
  (path.splitOn "/").filter fun c => c != "" && c != "."

/-- The entry at a path; the directory itself is at the empty one. -/
def find? (d : Directory) : List String → Option FileEntry
  | [] => some .directory
  | path => (List.find? (fun e => e.1 == path) d).map (·.2)

/-- Makes an entry; one that was there is replaced. -/
def create (d : Directory) (path : String) (entry : FileEntry) : Directory :=
  (components path, entry) :: d.filter fun e => e.1 != components path

/-- Follows the components of a path from the entry at `here`. -/
private def walk (d : Directory) (here : List String) (entry : FileEntry) :
    List String → Except FileError FileEntry
  | [] => .ok entry
  | c :: path =>
    match entry with
    | .file _ => .error .notDirectory
    | .directory =>
      if c = "" ∨ c = "." then walk d here .directory path
      else if c = ".." then walk d here.dropLast .directory path
      else if 255 < c.utf8ByteSize then .error .nameTooLong
      else
        match d.find? (here ++ [c]) with
        | none => .error .notFound
        | some entry => walk d (here ++ [c]) entry path

/-- The bytes of the file at a path. -/
def read (d : Directory) (path : String) : Except FileError (List UInt8) :=
  if path.toList.contains '\x00' then .error .nulInName
  else if path = "" then .error .notFound
  else if path.startsWith "/" then
    (if (components path).isEmpty then .error .isDirectory else .error .notFound)
  else
    match walk d [] .directory (path.splitOn "/") with
    | .error e => .error e
    | .ok .directory => .error .isDirectory
    | .ok (.file bytes) => .ok bytes

end Directory

/-- The text of a byte sequence that is valid UTF-8. -/
def textOf (bytes : List UInt8) : Except FileError String :=
  match String.fromUTF8? (ByteArray.mk bytes.toArray) with
  | some s => .ok s
  | none => .error .notText

/-- The text of the file at a path. -/
def Directory.readText (d : Directory) (path : String) : Except FileError String :=
  d.read path >>= textOf

end ScriptHost
