import Inventory.Probe.Command
import Inventory.Text.Space
/-!
# Settings

The settings of one run: which probe to start and how, where the manifest is, where the
schema and the output go, and where the document is uploaded. Settings come from three
places, a file, the environment and the command line, and are layered with `merge`: a
field that is empty in the upper layer takes the lower layer's value. The probe and its
arguments travel together: the lower layer's arguments are taken only with its probe, and
only when the upper layer gave no arguments of its own. The two switches are on when
either layer turns them on.
-/

set_option autoImplicit false

namespace Inventory

/-- The settings of a run. -/
structure Config where
  probe : String := ""
  probeArgs : List String := []
  manifest : String := ""
  noManifest : Bool := false
  timeout : String := ""
  schema : String := ""
  output : String := ""
  url : String := ""
  token : String := ""
  deviceId : String := ""
  verbose : Bool := false
  deriving DecidableEq, Repr, Inhabited

namespace Config

/-- Where the image build leaves its manifest. -/
def defaultManifest : String := "/etc/manifest.xml"

/-- **The built-in settings**: the default probe and the default manifest. -/
def defaults : Config :=
  { probe := Probe.Command.default.name, probeArgs := Probe.Command.default.args,
    manifest := defaultManifest }

/-- The first text unless it is empty, else the second. -/
def orElse (upper lower : String) : String := if upper.isEmpty then lower else upper

/-- **Layering** `c` over `lower`. -/
def merge (c lower : Config) : Config :=
  let (probe, probeArgs) :=
    if c.probe.isEmpty then
      (lower.probe, if c.probeArgs.isEmpty then lower.probeArgs else c.probeArgs)
    else (c.probe, c.probeArgs)
  { probe, probeArgs
    manifest := orElse c.manifest lower.manifest
    noManifest := c.noManifest || lower.noManifest
    timeout := orElse c.timeout lower.timeout
    schema := orElse c.schema lower.schema
    output := orElse c.output lower.output
    url := orElse c.url lower.url
    token := orElse c.token lower.token
    deviceId := orElse c.deviceId lower.deviceId
    verbose := c.verbose || lower.verbose }

/-- The environment variables that settings are read from. -/
def envProbe : String := "SYSTEM_INFO_PROBE"

/-- The manifest path variable. -/
def envManifest : String := "SYSTEM_INFO_MANIFEST"

/-- The probe time limit variable. -/
def envTimeout : String := "SYSTEM_INFO_TIMEOUT"

/-- The schema path variable. -/
def envSchema : String := "SYSTEM_INFO_SCHEMA"

/-- The upload endpoint variable. -/
def envUrl : String := "SYSTEM_INFO_URL"

/-- The upload token variable. -/
def envToken : String := "SYSTEM_INFO_TOKEN"

/-- The device identifier variable. -/
def envDeviceId : String := "SYSTEM_INFO_DEVICE_ID"

/-- **Settings from the environment**: the probe variable is split into words, the first
the program and the rest its arguments; an unset variable reads as empty. -/
def ofEnv (env : String → Option String) : Config :=
  let get := fun k => (env k).getD ""
  let (probe, probeArgs) := match Text.fields (get envProbe) with
    | w :: ws => (w, ws)
    | [] => ("", [])
  { probe, probeArgs
    manifest := get envManifest
    timeout := get envTimeout
    schema := get envSchema
    url := get envUrl
    token := get envToken
    deviceId := get envDeviceId }

/-- **The manifest to embed**: none when switched off. -/
def manifestPath (c : Config) : String := if c.noManifest then "" else c.manifest

end Config

end Inventory
