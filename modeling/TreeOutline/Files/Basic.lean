import TreeOutline.Text.Utf8

namespace TreeOutline

/-!
# Files

* `FileProblem` — why a file cannot be read or made; `FileProblem.message` is its wording.
* `Files` — what a directory holds, as the names and contents of its files.
* `Files.locate` — the place in the directory that a path names; `Files.find` — what stands there.
* `Files.read`, `Files.readText` — the contents of a file by its path.
* `Files.isFile` — whether there is a file at a path.
* `Files.create` — the directory with an empty file more; `Files.put`, `Files.remove` — with a file
  changed or gone.
-/

/-- Why a file cannot be read or made. -/
inductive FileProblem where
  | notFound
  | notText
  | isDirectory
  | notDirectory
  | badName
  | nameTooLong
deriving DecidableEq, Repr

namespace FileProblem

/-- The wording of a file problem. -/
def message : FileProblem → String
  | .notFound => "No such file or directory (os error 2)"
  | .notText => "stream did not contain valid UTF-8"
  | .isDirectory => "Is a directory (os error 21)"
  | .notDirectory => "Not a directory (os error 20)"
  | .badName => "file name contained an unexpected NUL byte"
  | .nameTooLong => "File name too long (os error 36)"

/-- The name of the kind of problem. -/
def kind : FileProblem → String
  | .notFound => "NotFound"
  | .notText => "InvalidData"
  | .isDirectory => "IsADirectory"
  | .notDirectory => "NotADirectory"
  | .badName => "InvalidInput"
  | .nameTooLong => "InvalidFilename"

end FileProblem

/-- The text of some bytes. -/
def textOfBytes (bytes : Bytes) : Except FileProblem String :=
  match decodeText? bytes with
  | some text => .ok text
  | none => .error .notText

/-- The files of a directory: the parts of their paths, and their contents. -/
structure Files where
  entries : List (List String × Bytes)
deriving Repr

namespace Files

/-! ### Paths -/

/-- The part that absolute paths begin with. -/
def rootPart : String := "/"

/-- The parts of a path that matter. -/
def partsOf (path : String) : List String :=
  let parts := (path.splitOn "/").filter fun part => part ≠ "" ∧ part ≠ "."
  if path.startsWith "/" then rootPart :: parts else parts

/-- A directory with these files. -/
def ofList (files : List (String × Bytes)) : Files :=
  ⟨files.map fun (name, contents) => (partsOf name, contents)⟩

/-- Directories that are always there. -/
def standardDirectories : List (List String) :=
  ["/", "/bin", "/boot", "/dev", "/dev/fd", "/dev/pts", "/dev/shm", "/etc", "/home", "/lib",
    "/media", "/mnt", "/opt", "/proc", "/proc/self", "/proc/self/fd", "/root", "/run", "/sbin",
    "/srv", "/sys", "/tmp", "/usr", "/usr/bin", "/usr/lib", "/usr/local", "/usr/local/bin",
    "/usr/local/lib", "/usr/local/share", "/usr/sbin", "/usr/share", "/var", "/var/cache",
    "/var/lib", "/var/log", "/var/tmp"].map partsOf

/-- Files that are always there and always empty. -/
def devices : List (List String) :=
  ["/dev/null", "/dev/stdin", "/dev/stdout", "/dev/stderr", "/dev/fd/0", "/proc/self/fd/0"].map
    partsOf

/-- The most octets that a name may have. -/
def longestName : Nat := 255

/-- The most octets that a path may have. -/
def longestPath : Nat := 4095

/-- Whether a place is the directory itself or one around it, which only `..` leads to. -/
def isAround (place : List String) : Bool := place.all (· == "..")

/-- Whether a place is a directory: one that is always there, or one that holds some of the
files. -/
def isDirectory (files : Files) (place : List String) : Bool :=
  standardDirectories.contains place || isAround place || files.entries.any fun (name, _) =>
    place.isPrefixOf name && place.length < name.length

/-- The contents of the file at a place. -/
def contents? (files : Files) (place : List String) : Option Bytes :=
  if devices.contains place then some [] else files.entries.lookup place

/-- The place that parts of a path lead to from a directory.  Every place on the way has to be a
directory, also where the next part leads out of it again. -/
def walk (files : Files) : (place parts : List String) → Except FileProblem (List String)
  | place, [] => .ok place
  | place, part :: rest =>
    if files.isDirectory place then
      if longestName < part.utf8ByteSize then .error .nameTooLong
      else if part ≠ ".." ∨ isAround place then walk files (place ++ [part]) rest
      else walk files (if place = [rootPart] then place else place.dropLast) rest
    else if (files.contents? place).isSome then .error .notDirectory
    else .error .notFound

/-- The place that a path names. -/
def locate (files : Files) (path : String) : Except FileProblem (List String) :=
  if path.isEmpty then .error .notFound
  else if path.toList.contains '\x00' then .error .badName
  else if longestPath < path.utf8ByteSize then .error .nameTooLong
  else files.walk [] (partsOf path)

/-- Whether a path can only name a directory. -/
def asksDirectory (path : String) : Bool := path.endsWith "/" || path.endsWith "/."

/-! ### Reading and making files -/

/-- What can stand at a place. -/
inductive Found where
  | file (contents : Bytes)
  | directory
deriving DecidableEq, Repr

/-- The contents of what stands at a place. -/
def Found.contents : Found → Except FileProblem Bytes
  | .file contents => .ok contents
  | .directory => .error .isDirectory

/-- What stands at a path. -/
def find (files : Files) (path : String) : Except FileProblem Found := do
  let place ← files.locate path
  match files.contents? place with
  | some contents => if asksDirectory path then .error .notDirectory else .ok (.file contents)
  | none => if files.isDirectory place then .ok .directory else .error .notFound

/-- The contents of the file at a path. -/
def read (files : Files) (path : String) : Except FileProblem Bytes :=
  files.find path >>= Found.contents

/-- Whether a path names one of the directory's own files. -/
def isFile (files : Files) (path : String) : Bool :=
  match files.locate path with
  | .ok place => (files.entries.lookup place).isSome && !asksDirectory path
  | .error _ => false

/-- The text of the file at a path. -/
def readText (files : Files) (path : String) : Except FileProblem String :=
  files.read path >>= textOfBytes

/-- Makes the file at a path empty, whether it is there or not. -/
def create (files : Files) (path : String) : Except FileProblem Files := do
  let place ← files.locate path
  if files.isDirectory place then .error .isDirectory
  else if asksDirectory path then
    .error (if (files.contents? place).isSome then .notDirectory else .isDirectory)
  else .ok ⟨(place, []) :: files.entries⟩

/-- Puts contents into the file at a path; a path that leads nowhere changes nothing. -/
def put (files : Files) (path : String) (contents : Bytes) : Files :=
  match files.locate path with
  | .ok place => ⟨(place, contents) :: files.entries.filter (·.1 ≠ place)⟩
  | .error _ => files

/-- Removes the file at a path, if there is one. -/
def remove (files : Files) (path : String) : Files :=
  match files.locate path with
  | .ok place => ⟨files.entries.filter (·.1 ≠ place)⟩
  | .error _ => files

end Files

end TreeOutline
