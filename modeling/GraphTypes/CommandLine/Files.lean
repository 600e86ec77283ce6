/-!
# Files

What a command line needs from a file system, and a file system in memory. Reading and writing
either succeed as a whole or fail without effect.
-/

namespace GraphTypes.CommandLine

/-- Why a file cannot be read or written. -/
inductive FileError where
  /-- There is nothing at the path, or no directory on the way to it. -/
  | notFound
  /-- The path goes on behind a file. -/
  | notDirectory
  | isDirectory
  /-- The path, or one of the names in it, has too many bytes. -/
  | nameTooLong
  /-- The bytes are not UTF-8. -/
  | notText
  | other (reason : String)
  deriving DecidableEq, Repr

/-- The wording of an error. -/
def FileError.message : FileError → String
  | notFound => "No such file or directory (os error 2)"
  | notDirectory => "Not a directory (os error 20)"
  | isDirectory => "Is a directory (os error 21)"
  | nameTooLong => "File name too long (os error 36)"
  | notText => "stream did not contain valid UTF-8"
  | other reason => reason

/-- Reading and writing text files by path. -/
structure FileAccess (m : Type → Type) where
  read (path : String) : m (Except FileError String)
  write (path text : String) : m (Except FileError Unit)

/-! ### Places

A path is walked part by part from the directory it begins in. -/

/-- A directory that a path can begin in or climb to. -/
inductive Base where
  /-- The directory so many levels above the working directory. -/
  | above (levels : Nat)
  /-- The root, where absolute paths begin. -/
  | root
  deriving DecidableEq, Repr

/-- Where a file or a directory can be: the names on the way down from a base. -/
structure Place where
  base : Base
  names : List String
  deriving DecidableEq, Repr

namespace Place

/-- The directory that a place is in. The root is in itself. -/
def parent : Place → Place
  | ⟨.above levels, []⟩ => ⟨.above (levels + 1), []⟩
  | ⟨base, names⟩ => ⟨base, names.dropLast⟩

/-- How many bytes a name can have. -/
def maxName : Nat := 255

/-- Where a part of a path leads from a directory. -/
def step (directory : Place) : String → Except FileError Place
  | "" | "." => .ok directory
  | ".." => .ok directory.parent
  | name =>
    if name.utf8ByteSize ≤ maxName then .ok { directory with names := directory.names ++ [name] }
    else .error .nameTooLong

/-- How many bytes a path can have, with one more for its end. -/
def maxPath : Nat := 4096

/-- The directory that a path begins in. -/
def start (path : String) : Except FileError Place :=
  if path = "" then .error .notFound
  else if maxPath ≤ path.utf8ByteSize then .error .nameTooLong
  else .ok ⟨if path.toList.head? = some '/' then .root else .above 0, []⟩

end Place

/-- The parts of a path. There is an empty one at each end that has a slash. -/
def pathParts (path : String) : List String := path.splitOn "/"

/-! ### Files in memory -/

/-- Files by their places. Bases are there as directories, others as far as files are in them. -/
structure FileTree where
  files : List (Place × ByteArray) := []

namespace FileTree

/-- The tree of files with given paths. They lead down from the working directory. -/
def ofFiles (files : List (String × ByteArray)) : FileTree where
  files := files.map fun (path, bytes) =>
    (⟨.above 0, (pathParts path).filter fun p => p != "" && p != "."⟩, bytes)

/-- The bytes of a file. -/
def bytes? (t : FileTree) (p : Place) : Option ByteArray := t.files.lookup p

/-- Whether there is a directory: a base, or one with something in it. -/
def isDirectory (t : FileTree) (p : Place) : Bool :=
  p.names.isEmpty || t.files.any fun (q, _) =>
    q.base = p.base && p.names.isPrefixOf q.names && p.names.length < q.names.length

/-- A path can only go on where there is a directory. -/
def requireDirectory (t : FileTree) (p : Place) : Except FileError Unit :=
  if t.isDirectory p then .ok ()
  else .error (if (t.bytes? p).isSome then .notDirectory else .notFound)

/-- Where the parts of a path lead from a place. -/
def walk (t : FileTree) (p : Place) : List String → Except FileError Place
  | [] => .ok p
  | part :: rest => do
    t.requireDirectory p
    t.walk (← p.step part) rest

/-- The text of a file. -/
def read (t : FileTree) (path : String) : Except FileError String := do
  let p ← t.walk (← Place.start path) (pathParts path)
  match t.bytes? p with
  | some bytes => match String.fromUTF8? bytes with
    | some text => return text
    | none => throw .notText
  | none => throw (if t.isDirectory p then .isDirectory else .notFound)

/-- The tree with a file put in the place of what stood there. -/
def put (t : FileTree) (p : Place) (text : String) : FileTree where
  files := (p, text.toUTF8) :: t.files.filter (·.1 != p)

/-- Writes a file. Its directory must be there, and its path must not end like that of a
directory. -/
def write (t : FileTree) (path text : String) : Except FileError FileTree := do
  let parts := pathParts path
  let named := (parts.reverse.dropWhile (· == "")).reverse
  let base ← Place.start path
  let some last := named.getLast? | throw .isDirectory
  let directory ← t.walk base named.dropLast
  t.requireDirectory directory
  if named.length < parts.length || last = "." || last = ".." then throw .isDirectory
  let p ← directory.step last
  if t.isDirectory p then throw .isDirectory
  return t.put p text

/-- Access to a tree that is handed on from step to step. -/
def access : FileAccess (StateM FileTree) where
  read path := do return (← get).read path
  write path text := do
    match (← get).write path text with
    | .ok t => set t; return .ok ()
    | .error e => return .error e

end FileTree

end GraphTypes.CommandLine
