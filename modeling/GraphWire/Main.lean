import GraphWire.Cli.Run

/-!
# The `graphtx` command

The entry point: it gathers what the command line can read of the machine (the variables it
looks at, and the configuration and batch files it names or looks for), runs the command line
on them, prints what the run printed, and exits with its status.

This program has no network: every request fails as on a machine with no route to the server.
-/

open GraphWire

/-- The environment variables the command line reads. -/
def readVariables : List String :=
  ["HOME", "XDG_CONFIG_HOME", "GRAPHTX_URL", "GRAPHTX_USERNAME", "GRAPHTX_PASSWORD",
    "GRAPHTX_TIMEOUT_SECS"]

/-- The paths a command line may read: the configuration file it names or else the default
one, and the file of a batch. -/
def readPaths (host : Host) (words : List String) : List String :=
  match Cli.program.read host.lookup words with
  | .ok inv =>
    inv.config.toList ++ [host.defaultPath] ++
      match inv.work with
      | .batch file _ => [file]
      | _ => []
  | .error _ => []

/-- What stands at a path: a file's text, a directory, or nothing. -/
def entryAt (path : String) : IO (Option FileEntry) := do
  try
    return some (.text (← IO.FS.readFile path))
  catch
    | .noFileOrDirectory _ _ _ => return none
    | _ => return some .directory

/-- Run the command line and exit with its status. -/
def main (words : List String) : IO UInt32 := do
  let env ← readVariables.filterMapM fun name => do
    return (← IO.getEnv name).map (name, ·)
  let bare : Host := ⟨env, []⟩
  let files ← (readPaths bare words).filterMapM fun p => do
    return (← entryAt p).map (p, ·)
  let outcome := Cli.run ⟨env, files⟩ .unreachable words
  IO.print outcome.stdout
  IO.eprint outcome.stderr
  return outcome.status.toUInt32
