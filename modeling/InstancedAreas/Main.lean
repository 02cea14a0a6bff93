import InstancedAreas.CommandLine.Help
import InstancedAreas.CommandLine.Run
import Std.Time.DateTime.Timestamp

/-! The command line program: it gathers the arguments, files, environment and
time, and prints what the commands yield. -/
namespace InstancedAreas.CommandLine

/-- What a path leads to. A directory can be opened and not read, and nothing
can be opened behind a file. -/
def target (path : String) : IO Configuration.PathTarget := do
  try
    return .file (← IO.FS.readFile path)
  catch
    | .noFileOrDirectory .. | .inappropriateType (some _) .. => return .nothing
    | .inappropriateType none .. => return .other
    | _ => return .unreadable

/-- What a path leads to, or else what it leads to from the nearest directory
further up in which it names a file, so many directories up at most. -/
def targetUpwards : Nat → String → IO Configuration.PathTarget
  | 0, path => target path
  | levels + 1, path => do
    let here ← target path
    if path.startsWith "/" || here.isFile then
      return here
    let above ← targetUpwards levels ("../" ++ path)
    return if above.isFile then above else here

/-- More directories than can lie in one another, as far as paths can name
them. -/
def mostLevels : Nat := 1000

/-- The environment variables of this process. -/
def assignments : IO (List (String × String)) := do
  let listing := match ← target "/proc/self/environ" with
    | .file text => text
    | _ => ""
  return (listing.splitOn "\x00").filterMap fun entry =>
    let (name, value) := splitValue entry.toList
    value.map fun value => (String.ofList name, String.ofList value)

/-- The configuration of a path, or the layered one. -/
def configuration : Option String → IO (Except Configuration.Rejection Configuration)
  | some path => do
    let found ← match ← target path with
      | .other => targetUpwards mostLevels path
      | found => pure found
    return Configuration.ofPath path found
  | none => do
    let assignments ← assignments
    let namedFile ← match assignments.lookup "WARDEN_CONFIG_PATH" with
      | some path => targetUpwards mostLevels path
      | none => pure .nothing
    let workingFile ← targetUpwards mostLevels "warden.toml"
    return Configuration.ofLayers { workingFile, namedFile, assignments }

/-- The time by the system's clock. -/
def systemTime : IO Instant := do
  let stamp ← Std.Time.Timestamp.now
  return (Instant.ofNanos? stamp.toNanosecondsSinceUnixEpoch.val).getD .epoch

/-- Prints lines and yields an exit code. -/
def print (lines : List String) (code : UInt32) : IO UInt32 := do
  for line in lines do
    IO.println line
  return code

/-- Carries out the command that some arguments make up. -/
def execute (arguments : List String) : IO UInt32 := do
  match parse arguments with
  | .misused => IO.eprintln "error: the arguments are not understood" *> return 2
  | .help verb => print (helpLines verb) 0
  | .bareVersion => print ["warden " ++ version] 0
  | .version => print (versionLines.map Line.text) 0
  | .run path task =>
    let config ← configuration path
    let seed ← IO.rand 0 (InstanceId.count - 1)
    let fresh (n : Nat) : InstanceId := .ofNat (seed + n)
    match runWith path config (← systemTime) fresh task with
    | .ok lines => print (lines.map Line.text) 0
    | .error reason => IO.eprintln ("Error: " ++ reason) *> return 1

end InstancedAreas.CommandLine

/-- Runs the command line. -/
def main (arguments : List String) : IO UInt32 :=
  InstancedAreas.CommandLine.execute arguments
