import Inventory.Cli.Commands
import Inventory.Cli.Dotenv
import Inventory.Config.Check
import Inventory.Config.Read
import Inventory.Collection
import Inventory.Validation
import Inventory.Upload.Send
import Inventory.Summary
/-!
# Running the program

One run of `system_info`: the world it sees, the arguments it is given, and what it leaves
behind (its exit code, what it wrote to standard output and standard error, the file tree after
it, and the requests servers received).

A run first loads `.env` from the working directory, then finds the command and parses its
flags. `--help` prints the command's help and ends the run; so does a command that only
groups others. Otherwise stray arguments are refused, the settings are resolved (flags over
the environment over the settings file over the defaults) and checked, required flags are
checked, and the command runs:

* the root command collects the document and prints it, or writes it to `--out`;
* `send` collects the document and uploads it;
* `validate` checks a document file against a schema;
* `help` prints the help of the command its arguments name.

A failure is printed as `Error: ` and its message, and exits with the probe's exit code when
the probe failed with one, and 1 otherwise.
-/

set_option autoImplicit false

namespace Inventory.Cli

open Json

/-- What a run sees. -/
structure World where
  files : Files
  cwd : String
  env : List (String × String) := []
  network : Upload.Network := Upload.Network.empty
  /-- The wall clock, in nanoseconds since the Unix epoch. -/
  now : Int := 0
  /-- Standard output refuses every write, as a full device does. -/
  stdoutFull : Bool := false

/-- What a run leaves behind. -/
structure Exit where
  code : Nat := 0
  stdout : Bytes := []
  stderr : Bytes := []
  files : Files
  requests : List Upload.Request := []

/-- Why a run failed: the message, and the exit code. -/
structure Failure where
  message : String
  code : Nat := 1

/-- A failure with exit code 1. -/
def failure (message : String) : Failure := { message }

/-- The message of a write to a full standard output. -/
def fullMessage : String := "write /dev/stdout: no space left on device"

namespace Exit

/-- Text written to standard output, lost when it is full. -/
def out (w : World) (e : Exit) (text : String) : Exit :=
  if w.stdoutFull then e else { e with stdout := e.stdout ++ Utf8.ofString text }

/-- Text written to standard error. -/
def err (e : Exit) (text : String) : Exit := { e with stderr := e.stderr ++ Utf8.ofString text }

/-- Bytes written to standard error. -/
def errBytes (e : Exit) (bytes : Bytes) : Exit := { e with stderr := e.stderr ++ bytes }

/-- A failed run: the message on standard error, and its exit code. -/
def fail (e : Exit) (f : Failure) : Exit := { e.err ("Error: " ++ f.message ++ "\n") with code := f.code }

end Exit

/-! ## Settings -/

/-- The settings the flags give. -/
def flagConfig (p : Parsed) : Config :=
  { probe := p.text "probe"
    probeArgs := p.texts "probe-arg"
    manifest := p.text "manifest"
    noManifest := p.bool "no-manifest"
    timeout := p.text "timeout"
    schema := p.text "schema"
    output := p.text "out"
    url := p.text "url"
    token := p.text "token"
    deviceId := p.text "device-id"
    verbose := p.bool "verbose" }

/-- A variable of an environment. -/
def getVar (env : List (String × String)) (k : String) : Option String :=
  (env.find? (·.1 == k)).map (·.2)

/-- **Resolving the settings**: flags over the environment over the settings file over the
defaults, then checked. -/
def resolveConfig (w : World) (env : List (String × String)) (p : Parsed) : Except Failure Config := do
  let merged := (flagConfig p).merge (Config.ofEnv (getVar env))
  let path := p.text "config"
  let merged ← if path.isEmpty then pure merged else
    match Config.load w.files (.ok w.cwd) path with
    | .ok c => pure (merged.merge c)
    | .error e => throw (failure e.message)
  let merged := merged.merge Config.defaults
  match Config.validate (w.files.missing w.cwd) merged with
  | .ok () => pure merged
  | .error e => throw (failure e.message)

/-! ## Collecting -/

/-- The failure of a collection; a probe that exited with a code passes it on. -/
def collectFailure (e : CollectError) : Failure :=
  match e with
  | .probe f => { message := e.message, code := if f.exitCode > 0 then f.exitCode.toNat else 1 }
  | _ => failure e.message

/-- **Collecting the document** and checking it against the schema, when one is set; the files
as the probe left them. -/
def collectReport (w : World) (env : List (String × String)) (cfg : Config) :
    Files × Except Failure Report :=
  match cfg.probeCommand with
  | .error e => (w.files, .error (failure e.message))
  | .ok cmd =>
    let ctx : Program.Context := { files := w.files, cwd := w.cwd, env }
    let ran := Probe.run ctx ((getVar env "PATH").getD "") cmd
    let files := (ran.capture.map (·.files)).getD w.files
    match collectFrom ctx ran cmd cfg.manifestPath with
    | .error e => (files, .error (collectFailure e))
    | .ok report =>
      if cfg.schema.isEmpty then (files, .ok report)
      else
        match Validation.validateDocument files (.ok w.cwd) cfg.schema report.output with
        | .ok () => (files, .ok report)
        | .error f@(.load _ _) => (files, .error (failure ("could not load schema: " ++ f.message)))
        | .error f => (files, .error (failure ("document does not validate against schema: " ++ f.message)))

/-- The summary of a collection. -/
def reportSummary (r : Report) : Bytes :=
  Summary.report (Utf8.ofString r.command) (some ⟨r.capture.duration⟩) r.manifestIncluded r.output.length
    r.document.keys

/-! ## Commands -/

/-- **The root command**: the document on standard output or in the output file. -/
def runCollect (w : World) (env : List (String × String)) (cfg : Config) (e : Exit) : Exit :=
  let (files, result) := collectReport w env cfg
  let e := { e with files }
  match result with
  | .error f => e.fail f
  | .ok report =>
    let written : Except Failure Exit :=
      if cfg.output.isEmpty then
        if w.stdoutFull then .error (failure ("failed to write document: " ++ fullMessage))
        else .ok { e with stdout := e.stdout ++ report.output }
      else
        match files.mkdirAll w.cwd (Path.dir cfg.output) with
        | .error pe => .error (failure ("failed to create output directory: " ++ pe.message))
        | .ok files =>
          match files.write w.cwd cfg.output report.output with
          | .error pe => .error (failure ("failed to write output file: " ++ pe.message))
          | .ok files => .ok { e with files }
    match written with
    | .error f => e.fail f
    | .ok e => if cfg.verbose then e.errBytes (reportSummary report) else e

/-- **The send command**: the document uploaded. -/
def runSend (w : World) (env : List (String × String)) (cfg : Config) (e : Exit) : Exit :=
  if cfg.url.isEmpty then e.fail (failure "upload URL is required (set --url or SYSTEM_INFO_URL)")
  else
    let device : Except Failure Uuid :=
      if cfg.deviceId.isEmpty then .ok Uuid.nil
      else (Uuid.parse cfg.deviceId).mapError fun pe => failure ("invalid device-id: " ++ pe.message)
    match device with
    | .error f => e.fail f
    | .ok deviceId =>
      match Token.check w.now cfg.token with
      | .error te => e.fail (failure ("invalid token: " ++ te.message))
      | .ok () =>
        let (files, result) := collectReport w env cfg
        let e := { e with files }
        match result with
        | .error f => e.fail f
        | .ok report =>
          let sent := Upload.send w.network w.now report.output (some { url := cfg.url, token := cfg.token, deviceId })
          let e := { e with requests := e.requests ++ sent.received }
          match sent.result with
          | .error ue => e.fail (failure ("failed to send system info: " ++ ue.text))
          | .ok res =>
            let e := if cfg.verbose then
                e.errBytes (reportSummary report ++ Summary.upload (Utf8.ofString cfg.url) res.status res.body)
              else e
            e.out w ("Successfully sent system info (status " ++ toString res.status ++ ")\n")

/-- Where the bundled schema is looked for when none is given. -/
def schemaCandidates : List String :=
  ["schemas/system_info.schema.json", "../schemas/system_info.schema.json",
    "../../schemas/system_info.schema.json"]

/-- The first candidate schema that exists, as an absolute path. -/
def findSchema (w : World) : Option String :=
  (schemaCandidates.map (Path.abs w.cwd)).find? fun p => (w.files.lookup "/" p).toBool

/-- **The validate command**: a document file checked against a schema. -/
def runValidate (w : World) (cfg : Config) (json : String) (e : Exit) : Exit :=
  let schema := if cfg.schema.isEmpty then (findSchema w).getD "" else cfg.schema
  if schema.isEmpty then e.fail (failure "schema not found: pass --schema or run from the repository root")
  else if w.files.missing w.cwd json then e.fail (failure ("JSON file not found: " ++ json))
  else
    match Validation.validateFiles w.files (.ok w.cwd) schema json with
    | .ok () => e.out w ("Validation passed: " ++ json ++ "\n")
    | .error (.invalid issues) =>
      let listing := "Validation failed:\n" ++ String.join (issues.zipIdx.map fun (i, k) =>
        "  " ++ toString (k + 1) ++ ". " ++ i.field ++ ": " ++ i.message ++ "\n")
      (e.out w listing).fail (failure (json ++ " does not match " ++ schema))
    | .error f => e.fail (failure ("failed to validate: " ++ f.message))

/-- Help on standard output; a full output reports the failed write on standard error. -/
def printHelp (w : World) (c : Command) (e : Exit) : Exit :=
  if w.stdoutFull then e.err (fullMessage ++ "\n") else e.out w (helpText c)

/-! ## A run -/

/-- How deep commands nest. -/
def commandDepth : Nat := 4

/-- An argument a command does not take: every command but `help` takes none. -/
def strayArg (c : Command) (args : List String) : Option String :=
  if c == .help then none else args.head?

/-- **A run of the program** with its arguments. -/
def run (w : World) (args : List String) : Exit :=
  let env := match w.files.read w.cwd ".env" with
    | .ok bs => Dotenv.load w.env bs
    | .error _ => w.env
  let e : Exit := { files := w.files }
  let (cmd, rest) := find .root args commandDepth
  match parseAll cmd.flags rest with
  | .error msg => e.fail (failure msg)
  | .ok p =>
    if p.bool "help" || !cmd.runnable then printHelp w cmd e
    else
      match strayArg cmd p.args with
      | some stray => e.fail (failure ("unknown command " ++ Text.quote stray ++ " for " ++ Text.quote cmd.path))
      | none =>
        match resolveConfig w env p with
        | .error f => e.fail f
        | .ok cfg =>
          match cmd.required.filter (!p.given ·) with
          | missing@(_ :: _) =>
            e.fail (failure ("required flag(s) " ++ Text.quote ("\", \"".intercalate missing) ++ " not set"))
          | [] =>
            match cmd with
            | .root => runCollect w env cfg e
            | .send => runSend w env cfg e
            | .validate => runValidate w cfg (p.text "json") e
            | .help => printHelp w (find .root p.args commandDepth).1 e
            | _ => e

end Inventory.Cli
