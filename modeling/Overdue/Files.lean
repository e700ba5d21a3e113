import Overdue.Text.Blank
import Overdue.Text.Lines

/-!
# Files

A tree of directories with text files in it, the paths that lead through it, and the one way in
which files change here: text is appended at their end.
-/

namespace Overdue

/-- A place in the tree: the names on the way to it, from the top. -/
abbrev Place := List String

/-- What is at a place. -/
inductive Node where
  | directory
  | file (content : String)
deriving DecidableEq, Repr

/-- Why a path leads nowhere, or not to a file. -/
inductive FileError where
  | missing
  | notDirectory
  | isDirectory
  | tooLong
  | nulInPath
deriving DecidableEq, Repr

/-- The error as a message shows it. -/
def FileError.message : FileError → String
  | missing => "No such file or directory (os error 2)"
  | notDirectory => "Not a directory (os error 20)"
  | isDirectory => "Is a directory (os error 21)"
  | tooLong => "File name too long (os error 36)"
  | nulInPath => "file name contained an unexpected NUL byte"

/-- A tree of files. -/
structure Files where
  nodes : List (Place × Node)
  /-- The directory at which relative paths start. -/
  current : Place
deriving DecidableEq, Repr

namespace Files

/-- What is at a place. The top is always a directory. -/
def node? (fs : Files) (place : Place) : Option Node :=
  if place.isEmpty then some .directory else fs.nodes.lookup place

/-- A name that is no name of its own, but stays where it is or leads one step up. -/
def isStep (name : String) : Bool :=
  name == "" || name == "." || name == ".."

/-- The greatest number of bytes in a name. -/
def maxNameSize : Nat := 255

/-- The greatest number of bytes in a path. -/
def maxPathSize : Nat := 4095

/-- The place to which a name leads from a directory. -/
def next (place : Place) (name : String) : Except FileError Place :=
  if name == "" || name == "." then .ok place
  else if name == ".." then .ok place.dropLast
  else if maxNameSize < name.utf8ByteSize then .error .tooLong
  else .ok (place ++ [name])

/-- Follows some names. All but the last must lead to directories. -/
def walk (fs : Files) (place : Place) : List String → Except FileError Place
  | [] => .ok place
  | name :: names =>
    match fs.node? place with
    | none => .error .missing
    | some (.file _) => .error .notDirectory
    | some .directory =>
      match next place name with
      | .error e => .error e
      | .ok place => fs.walk place names

/-- The names in a path. -/
def names (path : String) : List String :=
  (Text.splitAll '/' path.toList).map String.ofList

/-- Where a path starts. -/
def start (fs : Files) (path : String) : Place :=
  if path.toList.head? = some '/' then [] else fs.current

/-- Whether a path leads to a directory. -/
def isDirectory (fs : Files) (path : String) : Bool :=
  if path.isEmpty || path.toList.contains '\x00' || maxPathSize < path.utf8ByteSize then false
  else
    match fs.walk (fs.start path) (names path) with
    | .ok place => fs.node? place == some .directory
    | .error _ => false

/-- The directory that some names lead to. -/
def directoryAt (fs : Files) (place : Place) (names : List String) : Except FileError Place := do
  let place ← fs.walk place names
  match fs.node? place with
  | some .directory => return place
  | some (.file _) => throw .notDirectory
  | none => throw .missing

/-- The place of the file that a path names. The file itself need not be there, but the directory
that it is in must. -/
def filePlace (fs : Files) (path : String) : Except FileError Place := do
  if path.isEmpty then throw .missing
  if path.toList.contains '\x00' then throw .nulInPath
  if maxPathSize < path.utf8ByteSize then throw .tooLong
  let all := names path
  let (way, slashed) := (Text.dropEnding (· == "") all, all.getLast? == some "")
  let place ← fs.directoryAt (fs.start path) way.dropLast
  match way.getLast? with
  | none => throw .isDirectory
  | some name => if slashed || isStep name then throw .isDirectory else next place name

/-- The tree with a file at a place. -/
def put (fs : Files) (place : Place) (content : String) : Files :=
  { fs with nodes := (place, .file content) :: fs.nodes.filter fun n => n.1 != place }

/-- Appends a text to the file that a path names. A file that is not there is made. -/
def append (fs : Files) (path text : String) : Except FileError Files := do
  let place ← fs.filePlace path
  match fs.node? place with
  | some .directory => throw .isDirectory
  | some (.file content) => return fs.put place (content ++ text)
  | none => return fs.put place text

/-- What the file at a place holds. -/
def content? (fs : Files) (place : Place) : Option String :=
  match fs.node? place with
  | some (.file content) => some content
  | _ => none

end Files

end Overdue
