import QueryConsole.Config.Basic
import QueryConsole.Toml.Value

/-!
# Settings from a document

A document has a section for each part of the settings; a section is a table, or a list that holds
its settings in order. What is missing has its default, and what is not known does not matter.

## Main definitions

- `Config.ofToml`: the settings of a document
-/

namespace QueryConsole

open Toml (Value Entries)

/-- A value of the kind that a setting wants. -/
class Setting (α : Type) where
  ofValue : Value → Option α

instance : Setting String where
  ofValue
    | .text s => some s
    | _ => none

instance : Setting Nat where
  ofValue
    | .integer n => n.toNat?
    | _ => none

instance : Setting Bool where
  ofValue
    | .boolean b => some b
    | _ => none

/-- A setting of a section: its default where the section has no such field, and nothing where the
field has the wrong kind or the section cannot have fields. -/
def setting {α : Type} [Setting α] (part : Value) (position : Nat) (name : String)
    (default : α) : Option α := do
  match ← part.field position name with
  | none => some default
  | some v => Setting.ofValue v

/-- The settings of the web server in a section. -/
def ServerConfig.ofToml (v : Value) : Option ServerConfig := do
  let default : ServerConfig := {}
  return ⟨← setting v 0 "bind" default.bind, ← setting v 1 "static_dir" default.staticDir⟩

/-- The settings of the daemon in a section. -/
def DaemonConfig.ofToml (v : Value) : Option DaemonConfig := do
  let default : DaemonConfig := {}
  return ⟨← setting v 0 "binary" default.binary, ← setting v 1 "working_dir" default.workingDir,
    ← setting v 2 "query_url" default.queryUrl,
    ← setting v 3 "request_timeout_secs" default.requestTimeoutSecs,
    ← setting v 4 "autostart" default.autostart,
    ← setting v 5 "stop_timeout_secs" default.stopTimeoutSecs⟩

/-- The settings of the front end in a section. -/
def ConsoleConfig.ofToml (v : Value) : Option ConsoleConfig := do
  let default : ConsoleConfig := {}
  return ⟨← setting v 0 "proxy_url" default.proxyUrl,
    ← setting v 1 "live_interval_ms" default.liveIntervalMs⟩

/-- A section of a document, which may be missing. -/
def Config.sectionOf (entries : Entries) (name : String) : Value :=
  (entries.lookup name).getD (.table [])

/-- The settings of a document, unless a value has the wrong kind. -/
def Config.ofToml (entries : Entries) : Option Config := do
  return ⟨← ServerConfig.ofToml (sectionOf entries "server"),
    ← DaemonConfig.ofToml (sectionOf entries "daemon"),
    ← ConsoleConfig.ofToml (sectionOf entries "console")⟩

end QueryConsole
