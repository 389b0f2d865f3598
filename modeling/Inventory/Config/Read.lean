import Inventory.Config.Basic
import Inventory.Json.Read
import Inventory.Host.Files
/-!
# Reading settings from JSON

A settings file is one JSON object. Its member names are the settings' names (`probe`,
`probe_args`, `manifest`, `no_manifest`, `timeout`, `schema`, `output`, `url`, `token`,
`device_id`, `verbose`), matched without regard to case; members with other names are
skipped, and of two members for one setting the later wins. `null` leaves a setting as it
was, except the argument list, which it empties.

The text is checked as a whole first, so a syntax fault anywhere wins over a value of the
wrong kind. A value of the wrong kind does not stop the reading; the first such mismatch is
the error, and it names the kind found, the setting, and the type expected.

The argument list is read into the storage it already has: elements are overwritten in
place, the list is cut to the new length afterwards, and `null` elements keep whatever the
storage held at their place. Storage grows as a list of texts grows when it is full, so a
later list can show elements of an earlier, longer one.
-/

set_option autoImplicit false

namespace Inventory

open Json

/-- A JSON value of the wrong kind for where it was found. -/
structure TypeMismatch where
  /-- The kind of JSON value found. -/
  found : String
  /-- The setting it was for; none for the whole record. -/
  field : Option String
  /-- The type the place expects. -/
  expected : String
  deriving DecidableEq, Repr

/-- The message of a mismatch. -/
def TypeMismatch.message (e : TypeMismatch) : String :=
  "json: cannot unmarshal " ++ e.found ++
    match e.field with
    | some f => " into Go struct field Config." ++ f ++ " of type " ++ e.expected
    | none => " into Go value of type " ++ e.expected

/-- Why a settings text was refused: its syntax, or a value of the wrong kind. -/
inductive DecodeError where
  | notJson (e : JsonError)
  | mismatch (e : TypeMismatch)
  deriving DecidableEq, Repr

/-- The message of a refused settings text. -/
def DecodeError.message : DecodeError → String
  | .notJson e => e.message
  | .mismatch e => e.message

namespace Config

/-! ## 1. Names -/

/-- A character folded for matching names: ASCII letters and the characters whose case
partner is an ASCII letter become the capital letter; `none` for other non-ASCII ones. -/
def foldChar (c : Char) : Option Char :=
  if c.toNat < 0x80 then some (if 'a' ≤ c && c ≤ 'z' then Char.ofNat (c.toNat - 32) else c)
  else if c.toNat = 0x17F then some 'S'
  else if c.toNat = 0x131 || c.toNat = 0x130 then some 'I'
  else if c.toNat = 0x212A then some 'K'
  else none

/-- Two names are equal without regard to case. -/
def sameName (a b : String) : Bool :=
  a.length == b.length && (a.toList.zip b.toList).all fun (x, y) =>
    match foldChar x, foldChar y with
    | some u, some v => u == v
    | _, _ => false

/-- The settings' names in a file. -/
inductive Field where
  | probe
  | probeArgs
  | manifest
  | noManifest
  | timeout
  | schema
  | output
  | url
  | token
  | deviceId
  | verbose
  deriving DecidableEq, Repr

/-- All settings, in order. -/
def Field.all : List Field :=
  [.probe, .probeArgs, .manifest, .noManifest, .timeout, .schema, .output, .url, .token,
    .deviceId, .verbose]

/-- The name of a setting in a file. -/
def Field.name : Field → String
  | .probe => "probe"
  | .probeArgs => "probe_args"
  | .manifest => "manifest"
  | .noManifest => "no_manifest"
  | .timeout => "timeout"
  | .schema => "schema"
  | .output => "output"
  | .url => "url"
  | .token => "token"
  | .deviceId => "device_id"
  | .verbose => "verbose"

/-- The setting a member name stands for. -/
def Field.ofName? (k : String) : Option Field := Field.all.find? (sameName k ·.name)

/-! ## 2. The argument list's storage -/

/-- A list of texts and the storage behind it: `spare` holds what the storage keeps past the
list's end. -/
structure Slots where
  items : List String := []
  spare : List String := []
  deriving DecidableEq, Repr

/-- The allocation sizes, in bytes, that small storage is rounded up to. -/
def sizeClasses : List Nat :=
  [16, 32, 48, 64, 80, 96, 112, 128, 144, 160, 176, 192, 208, 224, 240, 256, 288, 320, 352,
    384, 416, 448, 480, 512, 576, 640, 704, 768, 896, 1024, 1152, 1280, 1408, 1536, 1792,
    2048, 2304, 2688, 3072, 3200, 3456, 4096, 4864, 5376, 6144, 6528, 6784, 6912, 8192, 9472,
    9728, 10240, 10880, 12288, 13568, 14336, 16384, 18432, 19072, 20480, 21760, 24576, 27264,
    28672, 32768]

/-- Bytes of storage granted for a request of `n` bytes: storage above 512 bytes carries an
8-byte header; small requests round up to a size class, large ones to 8 KiB pages. -/
def granted (n : Nat) : Nat :=
  if n ≤ 32760 then
    let req := if n > 512 then n + 8 else n
    ((sizeClasses.find? (req ≤ ·)).getD req) - (req - n)
  else (n + 8191) / 8192 * 8192

/-- **The capacity a full list of texts grows to**, each text taking 16 bytes: double while
small, then by a quarter and 192 more, then rounded up to the storage granted. -/
def grown (cap : Nat) : Nat :=
  let want := if cap = 0 then 1 else if cap < 256 then 2 * cap else cap + (cap + 768) / 4
  granted (want * 16) / 16

/-- Make room for one more element past the end. -/
def Slots.extend (s : Slots) : Slots :=
  match s.spare with
  | x :: rest => { items := s.items ++ [x], spare := rest }
  | [] =>
    let cap := s.items.length
    { items := s.items ++ [""], spare := List.replicate (grown cap - cap - 1) "" }

/-! ## 3. Values -/

/-- A mismatch at a setting. -/
def mismatch (v : Value) (f : Field) (expected : String) : TypeMismatch :=
  { found := v.kindName, field := some f.name, expected }

/-- Read a text: a string sets it, `null` keeps it. -/
def readText (f : Field) (old : String) : Value → Except TypeMismatch String
  | .string s => .ok s
  | .null => .ok old
  | v => .error (mismatch v f "string")

/-- Read a switch: a boolean sets it, `null` keeps it. -/
def readFlag (f : Field) (old : Bool) : Value → Except TypeMismatch Bool
  | .bool b => .ok b
  | .null => .ok old
  | v => .error (mismatch v f "bool")

/-- Read the elements of an array into the storage, from position `i`. -/
def readItems (s : Slots) (i : Nat) : List Value → Except TypeMismatch (Slots × Nat)
  | [] => .ok (s, i)
  | v :: vs => do
    let s := if i < s.items.length then s else s.extend
    let old := s.items.getD i ""
    let x ← readText .probeArgs old v
    readItems { s with items := s.items.set i x } (i + 1) vs

/-- **Read the argument list**: an array overwrites the storage in place, `null` empties
it and drops the storage. -/
def readArgs (s : Slots) : Value → Except TypeMismatch Slots
  | .null => .ok {}
  | .array vs => do
    let (s, n) ← readItems s 0 vs
    if n = 0 then return {}
    if n < s.items.length then
      return { items := s.items.take n, spare := s.items.drop n ++ s.spare }
    return s
  | v => .error (mismatch v .probeArgs "[]string")

/-- Read one member into settings under construction. -/
def readMember (acc : Config × Slots) (f : Field) (v : Value) :
    Except TypeMismatch (Config × Slots) :=
  let (c, s) := acc
  match f with
  | .probe => return ({ c with probe := ← readText f c.probe v }, s)
  | .probeArgs => return (c, ← readArgs s v)
  | .manifest => return ({ c with manifest := ← readText f c.manifest v }, s)
  | .noManifest => return ({ c with noManifest := ← readFlag f c.noManifest v }, s)
  | .timeout => return ({ c with timeout := ← readText f c.timeout v }, s)
  | .schema => return ({ c with schema := ← readText f c.schema v }, s)
  | .output => return ({ c with output := ← readText f c.output v }, s)
  | .url => return ({ c with url := ← readText f c.url v }, s)
  | .token => return ({ c with token := ← readText f c.token v }, s)
  | .deviceId => return ({ c with deviceId := ← readText f c.deviceId v }, s)
  | .verbose => return ({ c with verbose := ← readFlag f c.verbose v }, s)

/-- **Settings from a JSON value.** -/
def ofValue : Value → Except TypeMismatch Config
  | .object ms => do
    let step := fun (acc : Config × Slots) (m : String × Value) =>
      match Field.ofName? m.1 with
      | some f => readMember acc f m.2
      | none => .ok acc
    let (c, s) ← ms.foldlM step (({} : Config), ({} : Slots))
    return { c with probeArgs := s.items }
  | .null => .ok {}
  | v => .error { found := v.kindName, field := none, expected := "config.Config" }

/-- **Settings from a JSON text.** -/
def ofJson (bs : Bytes) : Except DecodeError Config :=
  match Value.parseStrict bs with
  | .error e => .error (.notJson e)
  | .ok v =>
    match ofValue v with
    | .error e => .error (.mismatch e)
    | .ok c => .ok c

/-! ## 4. Settings files -/

/-- Why a settings file could not be had. -/
inductive LoadError where
  | emptyPath
  | noWorkdir (cause : Errno)
  | unreadable (path : String) (cause : PathError)
  | malformed (cause : DecodeError)
  deriving DecidableEq, Repr

/-- The message of a settings file that could not be had. -/
def LoadError.message : LoadError → String
  | .emptyPath => "config path is empty"
  | .noWorkdir e => "failed to get current directory: getwd: " ++ e.text
  | .unreadable p e => "failed to read config file " ++ p ++ ": " ++ e.message
  | .malformed e => "failed to parse config JSON: " ++ e.message

/-- **Loading a settings file**: a relative path is taken from the working directory,
which must still exist. -/
def load (fs : Files) (cwd : Except Errno String) (path : String) : Except LoadError Config := do
  if path.isEmpty then throw .emptyPath
  let path ← if Path.isAbs path then pure path else
    match cwd with
    | .ok d => pure (Path.join [d, path])
    | .error e => throw (.noWorkdir e)
  match fs.read "/" path with
  | .error e => throw (.unreadable path e)
  | .ok bs =>
    match ofJson bs with
    | .error e => throw (.malformed e)
    | .ok c => return c

end Config

end Inventory
