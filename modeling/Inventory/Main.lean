import Inventory.Cli.Run
import Inventory.Host.System
import Std.Time.DateTime.Timestamp
/-!
# The command line

The executable reads the part of the machine a run can look at, runs the program on it, and
carries out what the run did: its output on the standard streams, the files it wrote, and its
exit code.

What a run can look at is gathered up front: the environment variables the program reads, the
working directory, the files its arguments and settings name (the settings file, manifest,
schema, document, probe and `.env`), and the programs of the host.
-/

set_option autoImplicit false

namespace Inventory.Cli

/-- The environment variables the program reads. -/
def watchedVars : List String :=
  ["PATH", "HOME", Config.envProbe, Config.envManifest, Config.envTimeout, Config.envSchema,
    Config.envUrl, Config.envToken, Config.envDeviceId]

/-- Flags whose value names a file. -/
def fileFlags : List String := ["--config", "--manifest", "-m", "--schema", "--json", "-j", "--probe"]

/-- The paths the arguments name: the value after each flag that names a file. -/
def namedPaths : List String → List String
  | [] => []
  | a :: rest =>
    match a.splitOn "=" with
    | flag :: value :: more =>
      if fileFlags.contains flag then "=".intercalate (value :: more) :: namedPaths rest
      else namedPaths rest
    | _ =>
      if fileFlags.contains a then
        match rest with
        | v :: more => v :: namedPaths more
        | [] => []
      else namedPaths rest

/-- Every path a run may read, relative ones taken from the working directory. -/
def watchedPaths (cwd : String) (args : List String) (env : List (String × String)) : List String :=
  let fromEnv := [Config.envManifest, Config.envSchema, Config.envProbe].filterMap fun k =>
    (getVar env k).bind fun v => (Text.fields v).head?
  let names := [".env", Config.defaultManifest] ++ schemaCandidates ++ namedPaths args ++ fromEnv
  (names.filter (!·.isEmpty)).map (Path.abs cwd) |>.eraseDups

/-- The regular files a run wrote or changed, against the tree it started from. -/
def changedFiles (before after : Files) : List (String × Bytes) :=
  after.nodes.filterMap fun (p, n) =>
    match n with
    | .file c _ => if before.find? p == some n then none else some (p, c)
    | _ => none

end Inventory.Cli

open Inventory Inventory.Cli in
/-- Runs the program on this machine. -/
def main (args : List String) : IO UInt32 := do
  let cwd := (← IO.currentDir).toString
  let mut env : List (String × String) := []
  for k in watchedVars do
    if let some v ← IO.getEnv k then env := env ++ [(k, v)]
  let mut files : Files := Host.files.putAll cwd .dir
  for p in watchedPaths cwd args env do
    try
      let content ← IO.FS.readBinFile p
      files := files.putAll p (.file content.toList true)
    catch _ => pure ()
  let stamp ← Std.Time.Timestamp.now
  let world : World := { files, cwd, env, now := stamp.toNanosecondsSinceUnixEpoch.val }
  let exit := run world args
  for (p, content) in changedFiles files exit.files do
    try
      IO.FS.createDirAll (Path.dir p)
      IO.FS.writeBinFile p (ByteArray.mk content.toArray)
    catch e => IO.eprintln e
  let stdout ← IO.getStdout
  stdout.write (ByteArray.mk exit.stdout.toArray)
  stdout.flush
  let stderr ← IO.getStderr
  stderr.write (ByteArray.mk exit.stderr.toArray)
  stderr.flush
  return exit.code.toUInt32
