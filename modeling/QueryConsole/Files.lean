/-!
# Files

Files and directories as far as they can be seen, and how a path leads through them.

## Main definitions

- `FileTree`: a file, or a directory and what it holds
- `Trail`: a place among the files, with the directories above it
- `Trail.follow`: the place that a path leads to
- `Trail.find`: what is at a path
-/

namespace QueryConsole

/-- A file, or a directory and what it holds. -/
inductive FileTree
  | file (content : List UInt8) (executable : Bool)
  | directory (entries : List (String × FileTree))
  deriving Repr

/-- Why nothing is at a path. -/
inductive Missing
  /-- there is no such entry -/
  | entry
  /-- something on the way is no directory -/
  | directory
  /-- a name or the path itself is longer than it can be -/
  | name
  deriving DecidableEq, Repr

/-- The wording of the system. -/
def Missing.message : Missing → String
  | .entry => "No such file or directory (os error 2)"
  | .directory => "Not a directory (os error 20)"
  | .name => "File name too long (os error 36)"

/-- The wording of the system for reading a directory as if it were a file. -/
def FileTree.isDirectory : String := "Is a directory (os error 21)"

/-- A place among the files: what is there, and the directories above it, the nearest first. -/
abbrev Trail := List FileTree

namespace Trail

/-- The longest names, in bytes. -/
def longestName : Nat := 255

/-- The longest paths, in bytes. -/
def longestPath : Nat := 4095

/-- The directory above a place; the topmost one is above itself. -/
def above : Trail → Trail
  | _ :: parent :: rest => parent :: rest
  | trail => trail

/-- The topmost directory. -/
def top (trail : Trail) : Trail := trail.getLast?.toList

/-- The place that the components of a path lead to. Every component must be taken in a directory,
also those that mean the place itself or the one above it. -/
def walk : List String → Trail → Except Missing Trail
  | [], trail => .ok trail
  | name :: path, trail =>
    match trail.head? with
    | some (.directory entries) =>
      if name = "" ∨ name = "." then walk path trail
      else if name = ".." then walk path trail.above
      else if longestName < name.utf8ByteSize then .error .name
      else match entries.lookup name with
        | some next => walk path (next :: trail)
        | none => .error .entry
    | _ => .error .directory

/-- The components of a path. -/
def components (path : String) : List String := (path.toList.splitOn '/').map String.ofList

/-- Whether a path starts at the top. -/
def isAbsolute (path : String) : Bool := path.startsWith "/"

/-- The place that a path leads to from another one. The empty path leads nowhere, and a path that
is too long is not looked at. -/
def follow (trail : Trail) (path : String) : Except Missing Trail :=
  if path.isEmpty then .error .entry
  else if longestPath < path.utf8ByteSize then .error .name
  else walk (components path) (if isAbsolute path then trail.top else trail)

/-- What is at a path. -/
def find (trail : Trail) (path : String) : Except Missing FileTree :=
  (trail.follow path).bind fun place =>
    match place with
    | t :: _ => .ok t
    | [] => .error .entry

end Trail

end QueryConsole
