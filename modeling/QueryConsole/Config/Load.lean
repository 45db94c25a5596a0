import QueryConsole.Config.Decode
import QueryConsole.Files
import QueryConsole.Text.Utf8
import QueryConsole.Toml.Document

/-!
# Loading settings

A file that the environment names has to exist; the default file may be missing. The environment
replaces settings after the file has been read and found usable.

The system keeps the values of variables as bytes. One that is no text can be told from one that is
not set, but loading does not ask which of the two it is.

## Main definitions

- `Config.Variables`, `Config.Variables.read`: the variables of a program, and one of them as a text
- `Config.Variables.environment`: the environment that they make
- `Config.ofText`: the settings in the text of a file
- `Config.ofFile`: the settings in a file
- `Config.effective`: the settings of a text in an environment
- `Config.load`: the settings that are in force
-/

namespace QueryConsole

namespace Config

/-! ## Variables -/

/-- The variables of a program: a name has bytes as its value, or is not set. -/
abbrev Variables := String → Option (List UInt8)

/-- Why a variable gives no text. -/
inductive Unread
  /-- it is not set -/
  | unset
  /-- its value is no text -/
  | garbled (value : List UInt8)
  deriving DecidableEq, Repr

/-- The text of a variable. -/
def Variables.read (vars : Variables) (name : String) : Except Unread String :=
  match vars name with
  | none => .error .unset
  | some value =>
    match Utf8.decode? value with
    | none => .error (.garbled value)
    | some cs => .ok (String.ofList cs)

/-- The environment that variables make: those that give no text replace nothing. -/
def Variables.environment (vars : Variables) : Environment :=
  .ofLookup fun name => (vars.read name).toOption

/-- The variable that names the file with the settings. -/
def fileVariable : String := "HMSCONSOLE_CONFIG"

/-! ## Files -/

/-- The file that is read when none is named. -/
def defaultFile : String := "hmsconsole.toml"

/-- The settings in the text of a file. -/
def ofText (text : String) : Except Fault Config :=
  match (Toml.parse text).bind ofToml with
  | none => .error .malformed
  | some c => c.validate

/-- The wording of the system for a text that is not UTF-8. -/
def notText : String := "stream did not contain valid UTF-8"

/-- What is at each path. -/
abbrev Files := String → Except Missing FileTree

/-- The settings in a file. -/
def ofFile (files : Files) (path : String) : Except Fault Config :=
  match files path with
  | .error _ => .error (.notFound path)
  | .ok (.directory _) => .error (.unreadable path FileTree.isDirectory)
  | .ok (.file content _) =>
    match Utf8.decode? content with
    | none => .error (.unreadable path notText)
    | some cs => ofText (String.ofList cs)

/-- The settings before the environment replaces some: of the named file, of the default file if
there is one, or the defaults. Why a variable names no file does not matter. -/
def base (files : Files) (vars : Variables) : Except Fault Config :=
  match vars.read fileVariable with
  | .ok path => ofFile files path
  | .error _ =>
    match files defaultFile with
    | .ok _ => ofFile files defaultFile
    | .error _ => .ok {}

/-- Settings with those that the environment replaces. -/
def settle (base : Except Fault Config) (env : Environment) : Except Fault Config := do
  ((← base).override env).validate

/-- The settings of a text, or the defaults if there is none, in an environment. -/
def effective (text : Option String) (env : Environment) : Except Fault Config :=
  settle (text.elim (.ok {}) ofText) env

/-- The settings that are in force. -/
def load (files : Files) (vars : Variables) : Except Fault Config :=
  settle (base files vars) vars.environment

end Config

end QueryConsole
