/-!
# Files

What a file system answers about a path, and the answers of a small tree of files in a working
directory. A path is resolved part by part: every part but the last must be a directory, and so must
the last one if a slash or a dot follows it. Neither a part nor a whole path may be too long. Of what
lies outside the working directory only that is known which every system has: the directories above
it, some at the root, and a few devices.
-/

namespace Delimited

/-- Why a file cannot be read. -/
inductive FileFault where
  /-- Nothing is there. -/
  | missing
  /-- The path leads through something that is no directory. -/
  | notDirectory
  /-- A directory is there. -/
  | isDirectory
  /-- The path or a part of it is too long. -/
  | nameTooLong
  /-- Access is not granted. -/
  | denied
  deriving DecidableEq, Repr

/-- The text with which a system reports that a file cannot be read. -/
def FileFault.message : FileFault → String
  | .missing => "No such file or directory (os error 2)"
  | .notDirectory => "Not a directory (os error 20)"
  | .isDirectory => "Is a directory (os error 21)"
  | .nameTooLong => "File name too long (os error 36)"
  | .denied => "Permission denied (os error 13)"

/-- What is found at a path. -/
inductive Lookup where
  /-- Nothing that can be opened. -/
  | none (fault : FileFault)
  /-- A directory. -/
  | directory
  /-- A file with its bytes. -/
  | file (bytes : List UInt8)
  /-- A device that gives no bytes. -/
  | emptyDevice
  /-- The device that gives the bytes of the standard input. -/
  | inputDevice
  deriving DecidableEq, Repr

/-- The answers of a file system. -/
abbrev Files := String → Lookup

/-- There is a file at the path. -/
def Lookup.isFile : Lookup → Bool
  | .file _ => true
  | _ => false

namespace FilePath

/-- The parts of a path between the slashes. -/
def parts (path : String) : List String :=
  go [] path.toList
where
  /-- Collect the parts; the characters of the part that is being read stand in reverse order. -/
  go (read : List Char) : List Char → List String
    | [] => [String.ofList read.reverse]
    | char :: rest =>
        if char = '/' then String.ofList read.reverse :: go [] rest else go (char :: read) rest

/-- The path starts at the root of the file system. -/
def isAbsolute (path : String) : Bool :=
  path.toList.head? == some '/'

/-- The parts of a path that lead somewhere. -/
def components (path : String) : List String :=
  (parts path).filter fun part ↦ part != "" && part != "."

/-- The path behind a directory. -/
def join (directory name : String) : String :=
  if directory == "" || directory.toList.getLast? == some '/' then directory ++ name
  else directory ++ "/" ++ name

/-- The path of a directory that is given by its parts from the root. -/
def ofDirectory (directory : List String) : String :=
  "/" ++ String.intercalate "/" directory

/-- The path as one that starts at the root, seen from a directory that is given by its parts. -/
def absolute (directory : List String) (path : String) : String :=
  if isAbsolute path then path else join (ofDirectory directory) path

/-- Drop the slashes and dots behind the last part that leads somewhere; the path is given in reverse
order. -/
def dropTail : List Char → List Char
  | '/' :: rest => dropTail rest
  | '.' :: '/' :: rest => dropTail rest
  | path => path

/-- The path with an extension behind its last part, unless that part is no name. -/
def withExtension? (path extension : String) : Option String :=
  match (components path).getLast? with
  | none => none
  | some ".." => none
  | some _ =>
      some (String.ofList (dropTail path.toList.reverse).reverse ++ "." ++ extension)

/-- Leave out the parts that two paths start with in common. -/
def afterCommon : List String → List String → List String × List String
  | left :: lefts, right :: rights =>
      if left = right then afterCommon lefts rights else (left :: lefts, right :: rights)
  | lefts, rights => (lefts, rights)

/-- A path as seen from a directory that is given by its parts. -/
def relativeTo (directory : List String) (path : String) : String :=
  let whole := if isAbsolute path then components path else directory ++ components path
  let (down, up) := afterCommon whole directory
  String.intercalate "/" (up.map (fun _ ↦ "..") ++ down)

end FilePath

/-- The directories that every system has at its root. -/
def rootDirectories : List String :=
  ["bin", "dev", "etc", "home", "lib", "opt", "proc", "run", "sbin", "srv", "sys", "tmp", "usr",
    "var"]

/-- What every system has at the end of plain parts, from the root. -/
def systemAt? : List String → Lookup
  | [] => .directory
  | [name] => if rootDirectories.contains name then .directory else .none .missing
  | ["dev", "null"] => .emptyDevice
  | ["dev", "stdin"] => .inputDevice
  | ["dev", "fd"] => .directory
  | ["dev", "fd", "0"] => .inputDevice
  | _ => .none .missing

/-- A tree of files in a working directory. -/
structure FileTree where
  /-- The working directory, by its parts from the root. -/
  directory : List String := []
  /-- What lies in it: paths with the bytes of the files, and without bytes for directories. -/
  entries : List (List String × Option (List UInt8))

namespace FileTree

/-- What lies at the end of plain parts, from the working directory. The directories on the way to
an entry exist too. -/
def entryAt? (tree : FileTree) (path : List String) : Lookup :=
  if path.isEmpty then .directory
  else
    match tree.entries.find? fun entry ↦ entry.1 == path with
    | some (_, some bytes) => .file bytes
    | some (_, none) => .directory
    | none =>
        if tree.entries.any fun entry ↦ path.isPrefixOf entry.1 then .directory else .none .missing

/-- What lies at the end of plain parts, from the root. -/
def at? (tree : FileTree) (path : List String) : Lookup :=
  match FilePath.afterCommon tree.directory path with
  | ([], inside) => tree.entryAt? inside
  | (_, []) => .directory
  | _ => systemAt? path

/-- The greatest number of bytes of a part of a path. -/
def longestPart : Nat := 255

/-- The greatest number of bytes of a path. -/
def longestPath : Nat := 4095

/-- Follow the parts of a path from the end of plain parts that were reached from the root, in reverse
order. Nothing is above the root but the root itself. -/
def follow (tree : FileTree) (reached : List String) : List String → Lookup
  | [] => tree.at? reached.reverse
  | part :: rest =>
      match tree.at? reached.reverse with
      | .none fault => .none fault
      | .directory =>
          if part == "" || part == "." then tree.follow reached rest
          else if part == ".." then tree.follow (reached.drop 1) rest
          else if longestPart < part.utf8ByteSize then .none .nameTooLong
          else tree.follow (part :: reached) rest
      | _ => .none .notDirectory

/-- What is found at a path. -/
def lookup (tree : FileTree) : Files := fun path ↦
  if path == "" then .none .missing
  else if longestPath < path.utf8ByteSize then .none .nameTooLong
  else
    let start := if FilePath.isAbsolute path then [] else tree.directory.reverse
    tree.follow start (FilePath.parts path)

end FileTree

end Delimited
