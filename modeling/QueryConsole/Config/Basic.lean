import QueryConsole.Text.Lines

/-!
# Settings

## Main definitions

- `Config`: the settings of the web server, the daemon and the console front end
- `Config.validate`: refusing durations of zero
- `Environment`, `Config.override`: the settings that the environment replaces
- `Config.Fault`: why settings cannot be used
-/

namespace QueryConsole

/-- Settings of the web server. -/
structure ServerConfig where
  /-- the address to listen at -/
  bind : String := "0.0.0.0:3000"
  /-- the directory of the static files -/
  staticDir : String := "static"
  deriving DecidableEq, Repr

/-- How the daemon is launched and reached. -/
structure DaemonConfig where
  binary : String := "./daemon"
  workingDir : String := "../../build/bin"
  queryUrl : String := "http://localhost:8080/query"
  requestTimeoutSecs : Nat := 10
  autostart : Bool := true
  stopTimeoutSecs : Nat := 5
  deriving DecidableEq, Repr

/-- Settings of the front end that talks to the web server. -/
structure ConsoleConfig where
  proxyUrl : String := "http://localhost:3000/query"
  liveIntervalMs : Nat := 2000
  deriving DecidableEq, Repr

/-- All settings. -/
structure Config where
  server : ServerConfig := {}
  daemon : DaemonConfig := {}
  console : ConsoleConfig := {}
  deriving DecidableEq, Repr

namespace DaemonConfig

/-- How long the daemon may take for an answer, in milliseconds. -/
def requestTimeout (d : DaemonConfig) : Nat := d.requestTimeoutSecs * 1000

/-- How long the daemon may take to stop, in milliseconds. -/
def stopTimeout (d : DaemonConfig) : Nat := d.stopTimeoutSecs * 1000

end DaemonConfig

/-- How often a watched table is fetched, in milliseconds. -/
def ConsoleConfig.liveInterval (c : ConsoleConfig) : Nat := c.liveIntervalMs

namespace Config

/-- Why settings cannot be used. -/
inductive Fault
  /-- the named file does not exist -/
  | notFound (path : String)
  /-- the file cannot be read -/
  | unreadable (path cause : String)
  /-- the text is malformed, or a setting has a value of the wrong kind -/
  | malformed
  /-- a setting has a value that cannot work -/
  | zero (setting : String)
  deriving DecidableEq, Repr

/-- The wording of a fault. -/
def Fault.message : Fault → String
  | .notFound path => s!"Config file not found: {path}"
  | .unreadable path cause => s!"Failed to read {path}: {cause}"
  | .malformed => "Invalid config"
  | .zero setting => s!"Invalid config value: {setting} must be greater than zero"

/-- The wording of a fault, and of what lies behind it. -/
def Fault.causes : Fault → List String
  | .unreadable path cause => [(Fault.unreadable path cause).message, cause]
  | f => [f.message]

/-- What a program says that cannot load its settings. -/
def Fault.report (f : Fault) : String :=
  Text.report "Could not load configuration" f.causes

/-- The settings that must not be zero, in the order they are looked at. -/
def positive (c : Config) : List (String × Nat) :=
  [("daemon.request_timeout_secs", c.daemon.requestTimeoutSecs),
    ("daemon.stop_timeout_secs", c.daemon.stopTimeoutSecs),
    ("console.live_interval_ms", c.console.liveIntervalMs)]

/-- The settings themselves, unless one of them is zero that must not be. -/
def validate (c : Config) : Except Fault Config :=
  match c.positive.find? (·.2 == 0) with
  | some (setting, _) => .error (.zero setting)
  | none => .ok c

end Config

/-- The variables that replace settings, as far as they are set. -/
structure Environment where
  /-- the path of the file with the settings -/
  config : Option String := none
  bind : Option String := none
  daemonUrl : Option String := none
  proxyUrl : Option String := none
  deriving DecidableEq, Repr

/-- The environment in which a name has a value, or has none. -/
def Environment.ofLookup (value : String → Option String) : Environment :=
  ⟨value "HMSCONSOLE_CONFIG", value "HMSCONSOLE_BIND", value "HMSCONSOLE_DAEMON_URL",
    value "HMSCONSOLE_PROXY_URL"⟩

/-- The settings with those that the environment replaces. -/
def Config.override (c : Config) (env : Environment) : Config :=
  { server := { c.server with bind := env.bind.getD c.server.bind }
    daemon := { c.daemon with queryUrl := env.daemonUrl.getD c.daemon.queryUrl }
    console := { c.console with proxyUrl := env.proxyUrl.getD c.console.proxyUrl } }

end QueryConsole
