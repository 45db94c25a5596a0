import QueryConsole.Files
import QueryConsole.Supervisor.Basic

/-!
# Spawning programs

Which program a setting names, and what the system says to the wish to spawn it. A name without
directories is looked for among the commands; any other relative path starts from the working
directory. The working directory is entered before the program is looked for.

## Main definitions

- `Supervisor.Machine`: the files and commands that can be seen, and what programs do
- `Supervisor.Machine.resolve`: the path of the program that a setting names
- `Supervisor.Machine.spawn`: the spawned program, or why there is none
-/

namespace QueryConsole

namespace Supervisor

/-- What becomes of a running program. -/
inductive Ending
  /-- it ends by itself -/
  | own (status : ExitStatus)
  /-- it ends when it is asked to, and says nothing about it -/
  | asked
  /-- it ends with a code when it is asked to -/
  | trapped (code : Nat)
  /-- it ends only when it is killed -/
  | killed
  deriving DecidableEq, Repr

/-- How a program ends that is sent a signal, if it does. -/
def Ending.reaction (signal : Nat) : Ending → Option ExitStatus
  | .own status => some status
  | .asked => some (.signal signal)
  | .trapped code => some (if signal = terminate then .ofCode code else .signal signal)
  | .killed => if signal = terminate then none else some (.signal signal)

/-- What a program does: what it writes to its two streams, which may depend on the directory it
runs in, and what becomes of it. -/
structure Program where
  output : Trail → List UInt8 × List UInt8
  ending : Ending

namespace Program

/-- A program that writes nothing. -/
def silent (ending : Ending) : Program := ⟨fun _ => ([], []), ending⟩

/-- What copying a file to a stream writes: its content, or a complaint. -/
def copy (place : Trail) (name : String) : List UInt8 × List UInt8 :=
  match place.find name with
  | .ok (.file content _) => (content, [])
  | .ok (.directory _) => ([], Utf8.bytesOf s!"cat: {name}: Is a directory\n")
  | .error .entry => ([], Utf8.bytesOf s!"cat: {name}: No such file or directory\n")
  | .error .directory => ([], Utf8.bytesOf s!"cat: {name}: Not a directory\n")
  | .error .name => ([], Utf8.bytesOf s!"cat: {name}: File name too long\n")

/-- A program that copies one file to its output and another one to its error output. -/
def copying (out err : String) (ending : Ending) : Program where
  output place :=
    let (stdout, complaint) := copy place out
    let (stderr, complaint') := copy place err
    (stdout, complaint ++ stderr ++ complaint')
  ending := ending

end Program

/-- The files and commands that can be seen, and what programs do. -/
structure Machine where
  /-- the path of the current directory -/
  path : String
  /-- the current directory -/
  place : Trail
  /-- the commands that have a name -/
  commands : List (String × Program)
  /-- what executable files do -/
  executable : Program

namespace Machine

/-- The characters of a path behind the current directories it starts with. -/
def components (path : String) : List String :=
  (Trail.components path).filter (· != "")

/-- Whether a path is one plain name. Slashes behind it and the current directory behind it do not
count. -/
def isBare (path : String) : Bool :=
  match components path with
  | [] => false
  | name :: rest =>
    !Trail.isAbsolute path && name != "." && name != ".." && rest.all (· == ".")

/-- A path taken from a directory. -/
def join (directory path : String) : String :=
  if Trail.isAbsolute path ∨ directory.isEmpty then path
  else if directory.endsWith "/" then directory ++ path
  else directory ++ "/" ++ path

/-- The path of the program that a setting names. -/
def resolve (m : Machine) (binary workingDir : String) : String :=
  if Trail.isAbsolute binary ∨ isBare binary then binary
  else join (join m.path workingDir) binary

/-- The wording of the system for a file that must not be executed. -/
def denied : String := "Permission denied (os error 13)"

/-- The wording for a path that no file can have. -/
def nulByte : String := "nul byte found in provided data"

/-- The program at a path, taken from a directory. -/
def programAt (m : Machine) (place : Trail) (path : String) : Except String Program :=
  if path.contains '/' then
    match place.find path with
    | .error missing => .error missing.message
    | .ok (.file _ true) => .ok m.executable
    | .ok _ => .error denied
  else if Trail.longestName < path.utf8ByteSize then .error Missing.name.message
  else match m.commands.lookup path with
    | some program => .ok program
    | none => .error Missing.entry.message

/-- The directory that a program runs in. -/
def enter (m : Machine) (workingDir : String) : Except String Trail :=
  match m.place.follow workingDir with
  | .error missing => .error missing.message
  | .ok place =>
    match place.head? with
    | some (.directory _) => .ok place
    | _ => .error Missing.directory.message

/-- Spawn a program: what it does and where it runs, or why it cannot be spawned. -/
def launch (m : Machine) (program workingDir : String) : Except String (Program × Trail) := do
  if program.contains '\x00' ∨ workingDir.contains '\x00' then throw nulByte
  let place ← m.enter workingDir
  return (← m.programAt place program, place)

/-- Spawn the program that a setting names. -/
def spawn (m : Machine) (binary workingDir : String) : Except SpawnFault (Program × Trail) :=
  let program := m.resolve binary workingDir
  match m.launch program workingDir with
  | .ok spawned => .ok spawned
  | .error cause => .error ⟨program, cause⟩

end Machine

end Supervisor

end QueryConsole
