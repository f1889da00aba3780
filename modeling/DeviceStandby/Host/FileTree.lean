import DeviceStandby.Config.Location
import DeviceStandby.Data.Table
import DeviceStandby.Text.Blank

/-!
# Directories and files

A `FileTree` holds directories and files by their places, and the directory that relative paths start
from.  A path is followed part by part: `.` stays where it is, `..` goes to the directory above, and
any other part has to be the name of a directory, the last one apart.

`FileTree.find` looks up a file.  `FileTree.makeDirectories` makes a directory together with those
above it, and `FileTree.fileIn?` gives the place of a file in a directory that is made like that.
-/

namespace DeviceStandby

/-- What stands at a place. -/
inductive FileNode where
  | directory
  | file (content : List UInt8)
deriving DecidableEq, Repr

/-- Why a path leads nowhere, or a directory cannot be made. -/
inductive PathFault where
  /-- A directory on the way is missing. -/
  | missing
  /-- A file stands where a directory should. -/
  | blocked
deriving DecidableEq, Repr

/-- What is found under the path of a file. -/
inductive FoundFile where
  | missing
  /-- What is there is no file. -/
  | unreadable
  | content (bytes : List UInt8)
deriving DecidableEq, Repr

namespace FoundFile

/-- What the file holds, if it can be read. -/
def bytes? : FoundFile → Option (List UInt8)
  | content bytes => some bytes
  | _ => none

end FoundFile

/-- The place under the root that some names lead to, as an absolute path. -/
def placeText (place : List String) : String := String.join (place.map ("/" ++ ·))

/-- Directories and files by the absolute paths of their places. -/
structure FileTree where
  /-- The directory that relative paths start from. -/
  current : String
  nodes : Table FileNode := Table.empty
deriving DecidableEq

namespace FileTree

/-- What stands at a place; the root is a directory. -/
def node? (files : FileTree) (place : List String) : Option FileNode :=
  if place.isEmpty then some .directory else files.nodes.get? (placeText place)

/-- Puts a directory or a file at a place. -/
def put (files : FileTree) (path : String) (node : FileNode) : FileTree :=
  { files with nodes := files.nodes.insert path node }

/-- Takes away what stands at a place. -/
def remove (files : FileTree) (path : String) : FileTree :=
  { files with nodes := files.nodes.erase path }

/-- The parts of a path, from the root on. -/
def parts (files : FileTree) (path : String) : List String :=
  ((splitAt '/' (joinPath files.current path).toList).map String.ofList).filter (· ≠ "")

/-- Whether a part of a path is no name. -/
def isStep (part : String) : Bool := part = "." || part = ".."

/-- The directory that some parts lead to, from the directory at `place`. -/
def follow (files : FileTree) (place : List String) : List String → Except PathFault (List String)
  | [] => .ok place
  | part :: rest =>
    if part = "." then files.follow place rest
    else if part = ".." then files.follow place.dropLast rest
    else match files.node? (place ++ [part]) with
      | some .directory => files.follow (place ++ [part]) rest
      | some (.file _) => .error .blocked
      | none => .error .missing

/-- What is found under a path.  A path that ends with a slash names a directory. -/
def find (files : FileTree) (path : String) : FoundFile :=
  let parts := files.parts path ++ (if path.endsWith "/" then ["."] else [])
  match files.follow [] parts.dropLast, parts.getLast? with
  | .error _, _ => .missing
  | .ok _, none => .unreadable
  | .ok place, some last =>
    if isStep last then .unreadable
    else match files.node? (place ++ [last]) with
      | some .directory => .unreadable
      | some (.file bytes) => .content bytes
      | none => .missing

/-! ## Making directories -/

/-- Makes a directory in one that is there.  A directory that is there already will do, and so will
any that the last part leads to without naming it. -/
def make (files : FileTree) (parts : List String) : Except PathFault FileTree := do
  let place ← files.follow [] parts.dropLast
  match parts.getLast? with
  | none => return files
  | some last =>
    if isStep last then return files
    else match files.node? (place ++ [last]) with
      | some .directory => return files
      | some (.file _) => throw .blocked
      | none => return files.put (placeText (place ++ [last])) .directory

/-- Makes a directory; if one above it is missing, after making those above it. -/
def makeAfter (files : FileTree) (parts : List String)
    (makeAbove : FileTree → Except PathFault FileTree) : Except PathFault FileTree :=
  match files.make parts with
  | .error .missing => do (← makeAbove files).make parts
  | result => result

/-- Makes a directory and those above it that are missing.  Its parts come the last one first. -/
def makeUpward : List String → FileTree → Except PathFault FileTree
  | [], files => .ok files
  | part :: above, files => files.makeAfter (part :: above).reverse (makeUpward above)

/-- Makes the directory of a path and those above it that are missing.  The parts above the last name
are those that get made: where the path ends with `.`, the last name is not among them and has to be
there. -/
def makeDirectories (files : FileTree) (path : String) : Except PathFault FileTree :=
  let parts := files.parts path
  files.makeAfter parts (makeUpward (parts.filter (· ≠ ".")).dropLast.reverse)

/-- The place of the file `name` in the directory of a path, if the directory can be made and no
directory has that place. -/
def fileIn? (files : FileTree) (path name : String) : Option String :=
  match files.makeDirectories path with
  | .error _ => none
  | .ok files =>
    match files.follow [] (files.parts path) with
    | .error _ => none
    | .ok place =>
      if files.node? (place ++ [name]) = some .directory then none
      else some (placeText (place ++ [name]))

end FileTree

end DeviceStandby
