/-!
# Directories and files

A tree of directories whose leaves are files with bytes in them. A path is a text with slashes: an
empty part and `.` stay where they are, `..` goes up, and any other part goes down to the entry of
that name. Only a directory has entries, so a path that goes on behind a file leads nowhere. Above
the root of the tree there are directories, of which nothing is known but that they are there.
-/

namespace VmSupport.Files

/-- Why a file cannot be read. -/
inductive FileError where
  | notFound
  | isDirectory
  | notDirectory
  | notText
  | nameTooLong
  | nameWithNul
  | other (reason : String)
  deriving DecidableEq, Repr

/-- The sentence that reports the error. -/
def FileError.message : FileError → String
  | notFound => "No such file or directory (os error 2)"
  | isDirectory => "Is a directory (os error 21)"
  | notDirectory => "Not a directory (os error 20)"
  | notText => "stream did not contain valid UTF-8"
  | nameTooLong => "File name too long (os error 36)"
  | nameWithNul => "file name contained an unexpected NUL byte"
  | other reason => reason

/-- A file with its bytes, or a directory with its entries. -/
inductive Node where
  | file (content : ByteArray)
  | directory (entries : List (String × Node))

namespace Node

/-- The directory without entries. -/
def empty : Node := .directory []

/-- The entry of a directory with a name. A file has no entries. -/
def child? (name : String) : Node → Option Node
  | .file _ => none
  | .directory entries => entries.lookup name

/-- A directory with one entry more, or with another node in place of an entry of that name. A file
stays as it is. -/
def withChild (parent : Node) (name : String) (node : Node) : Node :=
  match parent with
  | .file content => .file content
  | .directory entries => .directory (entries.filter (·.1 ≠ name) ++ [(name, node)])

/-- Places a node at a path below a directory, making the directories on the way. -/
def place (node : Node) : List String → Node → Node
  | [], _ => node
  | name :: path, parent => parent.withChild name (place node path ((parent.child? name).getD empty))

/-- The text of a file. -/
def readText : Node → Except FileError String
  | .file content =>
    match String.fromUTF8? content with
    | some s => .ok s
    | none => .error .notText
  | .directory _ => .error .isDirectory

end Node

/-- A place in a tree: the directories and perhaps the file on the way to it, each with its name, the
innermost first and the root last. Above the root there is no way left. -/
abbrev Place := List (String × Node)

/-- The longest name of an entry, in bytes. -/
def maxNameBytes : Nat := 255

/-- The longest path, in bytes. -/
def maxPathBytes : Nat := 4095

/-- Goes one part of a path further. -/
def goOn (place : Place) (part : String) : Except FileError Place :=
  match place with
  | [] =>
    if part = "" ∨ part = "." ∨ part = ".." then .ok []
    else if maxNameBytes < part.utf8ByteSize then .error .nameTooLong
    else .error .notFound
  | (_, .file _) :: _ => .error .notDirectory
  | (_, .directory entries) :: up =>
    if part = "" ∨ part = "." then .ok place
    else if part = ".." then .ok up
    else if maxNameBytes < part.utf8ByteSize then .error .nameTooLong
    else
      match entries.lookup part with
      | some node => .ok ((part, node) :: place)
      | none => .error .notFound

/-- Follows a path from a place. A path that begins with a slash starts above the root. -/
def follow (start : Place) (path : String) : Except FileError Place :=
  if path.contains '\x00' then .error .nameWithNul
  else if path = "" then .error .notFound
  else if maxPathBytes < path.utf8ByteSize then .error .nameTooLong
  else (path.splitOn "/").foldlM goOn (if path.startsWith "/" then [] else start)

/-- The text of the file at a path. -/
def readAt (start : Place) (path : String) : Except FileError String :=
  match follow start path with
  | .ok ((_, node) :: _) => node.readText
  | .ok [] => .error .isDirectory
  | .error e => .error e

/-- The name of a place: the names on the way to it, from the root on. -/
def Place.name (place : Place) : String :=
  "/".intercalate (place.reverse.map (·.1))

end VmSupport.Files
