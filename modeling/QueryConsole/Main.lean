import QueryConsole.Terminal.Program

/-!
# The command

The terminal program on the standard streams. Settings come from the file that the environment
names, or from the default file. A query is sent nowhere: the command has no connection of its own,
and shows that as it shows every failure on the way to the daemon.
-/

namespace QueryConsole

namespace CommandLine

/-- What is at a path among the files of the system. -/
def look (path : String) : IO (Except Missing FileTree) := do
  try
    let content ← IO.FS.readBinFile path
    return .ok (.file content.toList false)
  catch
    | .noFileOrDirectory .. => return .error .entry
    | _ => return .ok (.directory [])

/-- The variables that matter. -/
def vars : IO Config.Variables := do
  let names := [Config.fileVariable, "HMSCONSOLE_BIND", "HMSCONSOLE_DAEMON_URL",
    "HMSCONSOLE_PROXY_URL"]
  let values ← names.mapM fun name => do return (name, ← IO.getEnv name)
  return fun name => ((values.lookup name).join).map Utf8.bytesOf

/-- The settings that are in force. -/
def settings : IO (Except Config.Fault Config) := do
  let vars ← vars
  let path := (vars.read Config.fileVariable).toOption.getD Config.defaultFile
  let found ← look path
  return Config.load (fun p => if p = path then found else .error .entry) vars

/-- What comes of every query without a connection. -/
def offline : Relay := fun _ _ => .error (.http "no connection")

/-- All bytes of a stream. -/
partial def readAll (stream : IO.FS.Stream) (done : ByteArray) : IO ByteArray := do
  let chunk ← stream.read 65536
  if chunk.isEmpty then return done else readAll stream (done ++ chunk)

end CommandLine

end QueryConsole

open QueryConsole in
/-- Carry out the lines of standard input. -/
def main : IO UInt32 := do
  let stdin ← IO.getStdin
  let input ← CommandLine.readAll stdin ByteArray.empty
  let result := Terminal.program (← CommandLine.settings) CommandLine.offline input.toList
  for (stream, text) in result.written do
    match stream with
    | .stdout => IO.print text
    | .stderr => IO.eprint text
  return result.code.toUInt32
