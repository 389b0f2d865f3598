import Inventory.Cli.Run
import Inventory.Proofs.Document.Assembly
/-!
# What the root command leaves behind

The root command, run without positional arguments and without asking for help, either prints
the assembled document, or writes it to the output file, or fails. Its promise is `Outcome`, and
every such run keeps it (`root_command_outcome`):

* a failed run writes nothing to standard output, and exits with the probe's exit code when the
  probe failed with a positive one, and with 1 otherwise (`probeExit`);
* a run succeeds exactly when its settings resolve (`Resolves`) and a collection under them
  succeeds (`Collects`): the probe runs cleanly, its output and the manifest assemble into a
  document, the document passes the schema when one is set (`Reports`), and it can be written
  where it goes (`Writes`). The manifest is the one that loads from the resolved manifest path,
  and none when the path is empty or nothing loads (`manifestOf`), so a manifest that cannot be
  read never makes the run fail;
* on success the document goes to standard output, byte for byte, or, with an output file, is
  written there while standard output stays empty.

The proof follows the stages of a run, a few lemmas each: the collection (`collectFrom_error`,
`collectFrom_ok`, `collectFrom_of_assemble`), the schema check (`collectReport_error`,
`collectReport_ok`, `collectReport_of_reports`), the writing of the document
(`runCollect_of_error`, `runCollect_of_ok`, together `runCollect_outcome`) and the dispatch to
the root command (`run_root`).
-/

set_option autoImplicit false

namespace Inventory.Cli

open Json

/-! ## 1. The parts of a run -/

/-- The environment a run sees: its own, with `.env` loaded over it when that file reads. -/
def runEnv (w : World) : List (String × String) :=
  match w.files.read w.cwd ".env" with
  | .ok bs => Dotenv.load w.env bs
  | .error _ => w.env

/-- The context a probe runs in: the run's files, directory and environment. -/
def runContext (w : World) : Program.Context :=
  { files := w.files, cwd := w.cwd, env := runEnv w }

/-- The run of a probe command in the run's context, found on the run's search path. -/
def probeRun (w : World) (cmd : Probe.Command) : Probe.Ran :=
  Probe.run (runContext w) ((getVar (runEnv w) "PATH").getD "") cmd

/-- **The manifest a run includes**: the text loaded from the configured path, as the files were
before the probe ran; none when the path is empty or nothing loads from it. -/
def manifestOf (w : World) (cfg : Config) : Option Bytes :=
  if cfg.manifestPath.isEmpty then none else (loadManifest w.files w.cwd cfg.manifestPath).toOption

/-- The flags of the root command, parsed from the arguments it is given. -/
def rootFlags (args : List String) : Except String Parsed :=
  parseAll Command.root.flags (find .root args commandDepth).2

/-- The settings a run resolves. -/
def Resolves (w : World) (args : List String) (cfg : Config) : Prop :=
  ∃ p, rootFlags args = .ok p ∧ resolveConfig w (runEnv w) p = .ok cfg

/-- How the probe failed under the settings `cfg`, if it ran and failed. -/
def probeFailureOf (w : World) (cfg : Config) : Option Probe.Failure :=
  cfg.probeCommand.toOption.bind fun cmd => (probeRun w cmd).failure

/-- **How the probe of a run failed**, if it ran under resolved settings and failed. -/
def probeFailure (w : World) (args : List String) : Option Probe.Failure := do
  let p ← (rootFlags args).toOption
  let cfg ← (resolveConfig w (runEnv w) p).toOption
  probeFailureOf w cfg

/-- **The exit code of a failed run**: the probe's exit code when it failed with a positive one,
and 1 otherwise. -/
def probeExit : Option Probe.Failure → Nat
  | some f => if 0 < f.exitCode then f.exitCode.toNat else 1
  | none => 1

/-- **The document can be written where it goes**: to standard output when no output file is
set, and then standard output must take it; otherwise to the output file, its directory made
first, in the files `files`. -/
def Writes (w : World) (cfg : Config) (files : Files) (O : Bytes) : Prop :=
  if cfg.output = "" then w.stdoutFull = false
  else ∃ fs fs', files.mkdirAll w.cwd (Path.dir cfg.output) = .ok fs ∧
    fs.write w.cwd cfg.output O = .ok fs'

/-- **A successful report** under the settings `cfg`: the probe command `cmd` runs cleanly,
leaving the capture `c`; its output and the manifest assemble into `O`; and `O` passes the schema
when one is set. -/
structure Reports (w : World) (cfg : Config) (cmd : Probe.Command) (c : Probe.Capture)
    (O : Bytes) : Prop where
  command : cfg.probeCommand = .ok cmd
  clean : (probeRun w cmd).failure = none
  capture : (probeRun w cmd).capture = some c
  assembled : assemble c.stdout (manifestOf w cfg) = .ok O
  schema : cfg.schema = "" ∨ Validation.validateDocument c.files (.ok w.cwd) cfg.schema O = .ok ()

/-- **A successful collection**: a successful report whose document can be written where it
goes. -/
structure Collects (w : World) (cfg : Config) (cmd : Probe.Command) (c : Probe.Capture)
    (O : Bytes) : Prop extends Reports w cfg cmd c O where
  written : Writes w cfg c.files O

/-- **An invocation of the root command** without positional arguments and without asking for
help. -/
structure RootInvocation (args : List String) : Prop where
  root : (find .root args commandDepth).1 = .root
  plain : ∀ p, rootFlags args = .ok p → p.args = [] ∧ p.bool "help" = false

/-- **What the root command promises** of the exit `x` of a run whose probe failed as `failed`,
where `ok cfg cmd c O` says when a collection under the settings `cfg` succeeds: a failed run
prints nothing and exits with `probeExit failed`; the run succeeds exactly when some collection
does; and the document of a successful collection is printed, or written to the output file
with nothing printed. -/
structure Outcome (w : World) (x : Exit) (failed : Option Probe.Failure)
    (ok : Config → Probe.Command → Probe.Capture → Bytes → Prop) : Prop where
  failure : x.code ≠ 0 → x.stdout = [] ∧ x.code = probeExit failed
  success : x.code = 0 ↔ ∃ cfg cmd c O, ok cfg cmd c O
  printed : ∀ cfg cmd c O, ok cfg cmd c O → cfg.output = "" → x.stdout = O
  written : ∀ cfg cmd c O, ok cfg cmd c O → cfg.output ≠ "" → x.stdout = [] ∧
    ∃ fs, c.files.mkdirAll w.cwd (Path.dir cfg.output) = .ok fs ∧
      fs.write w.cwd cfg.output O = .ok x.files

/-! ## 2. Collecting -/

section Collecting

variable {w : World} {cfg : Config} {ran : Probe.Ran} {cmd : Probe.Command}

/-- Every failure exits with a positive code. -/
theorem probeExit_pos (o : Option Probe.Failure) : 0 < probeExit o := by
  cases o with
  | none => simp [probeExit]
  | some f =>
    simp only [probeExit]
    split_ifs with h <;> omega

/-- A failed collection exits with the probe's exit code when the probe failed with a positive
one, and with 1 otherwise. -/
theorem collectFrom_error {e : CollectError}
    (h : collectFrom (runContext w) ran cmd cfg.manifestPath = .error e) :
    (collectFailure e).code = probeExit ran.failure := by
  obtain ⟨capture, failure⟩ := ran
  unfold collectFrom at h
  cases failure with
  | some f =>
    simp only [bind, Except.bind] at h
    cases h
    rfl
  | none =>
    cases capture with
    | none =>
      simp only [bind, Except.bind] at h
      cases h
      rfl
    | some c =>
      -- the probe ran cleanly, so the failure is building or laying out the document
      simp only [bind, Except.bind, pure, Except.pure] at h
      split at h
      · split at h <;> cases h
        rfl
      · cases h
        rfl

/-- A successful collection comes from a clean probe run whose output assembles, with the
manifest the run includes, into the document laid out. -/
theorem collectFrom_ok {r : Report}
    (h : collectFrom (runContext w) ran cmd cfg.manifestPath = .ok r) :
    ran.failure = none ∧ ran.capture = some r.capture ∧
      assemble r.capture.stdout (manifestOf w cfg) = .ok r.output := by
  obtain ⟨capture, failure⟩ := ran
  unfold collectFrom at h
  cases failure with
  | some f =>
    simp only [bind, Except.bind] at h
    cases h
  | none =>
    cases capture with
    | none =>
      simp only [bind, Except.bind] at h
      cases h
    | some c =>
      simp only [bind, Except.bind, pure, Except.pure] at h
      split at h
      · rename_i d hb
        split at h
        · rename_i O hp
          cases h
          exact ⟨rfl, rfl, assemble_eq_ok_iff.mpr ⟨d, hb, hp⟩⟩
        · cases h
      · cases h

/-- A clean probe run whose output assembles gives a successful collection. -/
theorem collectFrom_of_assemble {c : Probe.Capture} {O : Bytes} (hf : ran.failure = none)
    (hc : ran.capture = some c) (hO : assemble c.stdout (manifestOf w cfg) = .ok O) :
    ∃ r : Report, collectFrom (runContext w) ran cmd cfg.manifestPath = .ok r ∧
      r.capture = c ∧ r.output = O := by
  obtain ⟨d, hb, hp⟩ := assemble_eq_ok_iff.mp hO
  obtain ⟨capture, failure⟩ := ran
  cases hf
  cases hc
  let r : Report := { command := cmd.text, output := O, document := d,
                      manifestIncluded := (manifestOf w cfg).isSome, capture := c }
  refine ⟨r, ?_, rfl, rfl⟩
  unfold manifestOf at hb
  simp only [collectFrom, runContext, bind, Except.bind, pure, Except.pure, hb, hp]
  rfl

/-! ## 3. Reporting -/

/-- Under a probe command, the probe's failure is that of its run. -/
theorem probeFailureOf_of_command (hcmd : cfg.probeCommand = .ok cmd) :
    probeFailureOf w cfg = (probeRun w cmd).failure := by
  simp only [probeFailureOf, hcmd]
  rfl

/-- A failed report exits with the probe's exit code when the probe failed with a positive one,
and with 1 otherwise. -/
theorem collectReport_error {f : Failure} (h : (collectReport w (runEnv w) cfg).2 = .error f) :
    f.code = probeExit (probeFailureOf w cfg) := by
  cases hcmd : cfg.probeCommand with
  | error e =>
    -- the settings name no probe command
    simp only [collectReport, hcmd, Except.error.injEq] at h
    subst h
    simp only [probeFailureOf, hcmd]
    rfl
  | ok cmd =>
    rw [probeFailureOf_of_command hcmd]
    simp only [collectReport, hcmd] at h
    cases hr : collectFrom (runContext w) (probeRun w cmd) cmd cfg.manifestPath with
    | error e =>
      rw [← collectFrom_error hr]
      simp only [runContext, probeRun] at hr
      simp only [hr, Except.error.injEq] at h
      rw [h]
    | ok r =>
      -- the probe ran cleanly, so the failure is the schema's
      rw [(collectFrom_ok hr).1]
      simp only [runContext, probeRun] at hr
      simp only [hr] at h
      split at h
      · cases h
      · split at h <;> cases h <;> rfl

/-- **A successful report** comes from a successful collection checked against the schema, and
leaves the files as the probe left them. -/
theorem collectReport_ok {files : Files} {r : Report}
    (h : collectReport w (runEnv w) cfg = (files, .ok r)) :
    files = r.capture.files ∧ ∃ cmd, Reports w cfg cmd r.capture r.output := by
  cases hcmd : cfg.probeCommand with
  | error e => simp [collectReport, hcmd] at h
  | ok cmd =>
    simp only [collectReport, hcmd] at h
    cases hr : collectFrom (runContext w) (probeRun w cmd) cmd cfg.manifestPath with
    | error e =>
      simp only [runContext, probeRun] at hr
      simp [hr] at h
    | ok r' =>
      obtain ⟨hclean, hcap, hO⟩ := collectFrom_ok hr
      simp only [runContext, probeRun] at hr hcap
      simp only [hr, hcap, Option.map_some, Option.getD_some] at h
      -- the report is the collection's, whether or not a schema is set
      split at h
      · rename_i hschema
        obtain ⟨rfl, rfl⟩ := Prod.mk.inj h |>.imp id Except.ok.inj
        exact ⟨rfl, cmd, hcmd, hclean, hcap, hO, Or.inl (String.isEmpty_iff.mp hschema)⟩
      · split at h
        · rename_i hvalid
          obtain ⟨rfl, rfl⟩ := Prod.mk.inj h |>.imp id Except.ok.inj
          exact ⟨rfl, cmd, hcmd, hclean, hcap, hO, Or.inr hvalid⟩
        all_goals cases h

/-- **A successful report is reported**, leaving the files as the probe left them. -/
theorem collectReport_of_reports {c : Probe.Capture} {O : Bytes} (h : Reports w cfg cmd c O) :
    ∃ r : Report, collectReport w (runEnv w) cfg = (c.files, .ok r) ∧ r.capture = c ∧
      r.output = O := by
  obtain ⟨r, hr, rfl, rfl⟩ : ∃ r : Report,
      collectFrom (runContext w) (probeRun w cmd) cmd cfg.manifestPath = .ok r ∧
        r.capture = c ∧ r.output = O :=
    collectFrom_of_assemble h.clean h.capture h.assembled
  refine ⟨r, ?_, rfl, rfl⟩
  have hcap := h.capture
  simp only [runContext, probeRun] at hr hcap
  simp only [collectReport, h.command, hr, hcap, Option.map_some, Option.getD_some]
  rcases h.schema with hs | hs
  · simp [hs]
  · by_cases he : cfg.schema.isEmpty
    · simp [he]
    · simp only [he, Bool.false_eq_true, ↓reduceIte, hs]

end Collecting

/-! ## 4. Writing the document -/

section Writing

variable {w : World} {cfg : Config} {env : List (String × String)} {files : Files}

/-- A failed report fails the run: nothing on standard output, and the failure's exit code. -/
theorem runCollect_of_error {f : Failure} (h : collectReport w env cfg = (files, .error f)) :
    (runCollect w env cfg { files := w.files }).code = f.code ∧
      (runCollect w env cfg { files := w.files }).stdout = [] := by
  simp [runCollect, h, Exit.fail, Exit.err]

/-- **Writing a successful report**: when the document can be written where it goes, the run
succeeds, printing the document or writing it to the output file; otherwise it fails with code 1
and prints nothing. -/
theorem runCollect_of_ok {r : Report} (h : collectReport w env cfg = (files, .ok r)) :
    (Writes w cfg files r.output →
      (runCollect w env cfg { files := w.files }).code = 0 ∧
      (cfg.output = "" → (runCollect w env cfg { files := w.files }).stdout = r.output) ∧
      (cfg.output ≠ "" → (runCollect w env cfg { files := w.files }).stdout = [] ∧
        ∃ fs, files.mkdirAll w.cwd (Path.dir cfg.output) = .ok fs ∧
          fs.write w.cwd cfg.output r.output = .ok (runCollect w env cfg { files := w.files }).files)) ∧
    (¬ Writes w cfg files r.output →
      (runCollect w env cfg { files := w.files }).code = 1 ∧
      (runCollect w env cfg { files := w.files }).stdout = []) := by
  unfold Writes
  by_cases hout : cfg.output = ""
  · -- the document goes to standard output, which may be full
    cases hfull : w.stdoutFull
    · cases hv : cfg.verbose <;> simp [runCollect, h, hout, hfull, hv, Exit.errBytes]
    · simp [runCollect, h, hout, hfull, Exit.fail, Exit.err, failure]
  · -- the document goes to the output file, its directory made first
    have hempty : cfg.output.isEmpty = false := by simpa [String.isEmpty_iff] using hout
    cases hmk : files.mkdirAll w.cwd (Path.dir cfg.output) with
    | error pe => simp [runCollect, h, hempty, hout, hmk, Exit.fail, Exit.err, failure]
    | ok fs =>
      cases hw : fs.write w.cwd cfg.output r.output with
      | error pe => simp [runCollect, h, hempty, hout, hmk, hw, Exit.fail, Exit.err, failure]
      | ok fs' =>
        cases hv : cfg.verbose <;> simp [runCollect, h, hempty, hout, hmk, hw, hv, Exit.errBytes]

end Writing

/-! ## 5. The outcome -/

namespace Outcome

variable {w : World} {x : Exit} {failed : Option Probe.Failure}
  {ok ok' : Config → Probe.Command → Probe.Capture → Bytes → Prop}

/-- A run that prints nothing and exits with the probe's code keeps the promise when no
collection succeeds. -/
theorem of_failure (hcode : x.code = probeExit failed) (hout : x.stdout = [])
    (hnone : ∀ cfg cmd c O, ¬ ok cfg cmd c O) : Outcome w x failed ok where
  failure _ := ⟨hout, hcode⟩
  success := by
    constructor
    · intro h0
      have := probeExit_pos failed
      omega
    · rintro ⟨cfg, cmd, c, O, h⟩
      exact absurd h (hnone cfg cmd c O)
  printed cfg cmd c O h := absurd h (hnone cfg cmd c O)
  written cfg cmd c O h := absurd h (hnone cfg cmd c O)

/-- The promise depends on the successful collections only through which they are. -/
theorem congr (h : Outcome w x failed ok) (hok : ∀ cfg cmd c O, ok' cfg cmd c O ↔ ok cfg cmd c O) :
    Outcome w x failed ok' where
  failure := h.failure
  success := h.success.trans (by simp only [hok])
  printed cfg cmd c O h' := h.printed cfg cmd c O ((hok cfg cmd c O).mp h')
  written cfg cmd c O h' := h.written cfg cmd c O ((hok cfg cmd c O).mp h')

end Outcome

/-- A failed report rules out every successful collection. -/
theorem not_collects_of_error {w : World} {cfg : Config} {files : Files} {f : Failure}
    {cmd : Probe.Command} {c : Probe.Capture} {O : Bytes}
    (hr : collectReport w (runEnv w) cfg = (files, .error f)) : ¬ Collects w cfg cmd c O := by
  intro hc
  obtain ⟨r, hr', -⟩ := collectReport_of_reports hc.toReports
  rw [hr] at hr'
  cases hr'

/-- **A successful collection is the report's**: its capture, its document, and the files the
report leaves. -/
theorem Collects.eq_report {w : World} {cfg : Config} {files : Files} {r : Report}
    {cmd : Probe.Command} {c : Probe.Capture} {O : Bytes}
    (hr : collectReport w (runEnv w) cfg = (files, .ok r)) (hc : Collects w cfg cmd c O) :
    c = r.capture ∧ O = r.output ∧ files = c.files := by
  obtain ⟨r', hr', rfl, rfl⟩ := collectReport_of_reports hc.toReports
  rw [hr] at hr'
  obtain ⟨rfl, rfl⟩ := Prod.mk.inj hr' |>.imp id Except.ok.inj
  exact ⟨rfl, rfl, rfl⟩

/-- **The outcome of collecting under resolved settings.** -/
theorem runCollect_outcome (w : World) (cfg : Config) :
    Outcome w (runCollect w (runEnv w) cfg { files := w.files }) (probeFailureOf w cfg)
      fun cfg' cmd c O => cfg' = cfg ∧ Collects w cfg cmd c O := by
  rcases hr : collectReport w (runEnv w) cfg with ⟨files, f | r⟩
  · -- the report failed
    obtain ⟨hcode, hout⟩ := runCollect_of_error hr
    refine Outcome.of_failure (hcode.trans (collectReport_error (congrArg Prod.snd hr))) hout ?_
    rintro _ cmd c O ⟨rfl, hc⟩
    exact not_collects_of_error hr hc
  · obtain ⟨hfiles, cmd, hrep⟩ := collectReport_ok hr
    have hclean : probeFailureOf w cfg = none := by
      rw [probeFailureOf_of_command hrep.command, hrep.clean]
    obtain ⟨hwrites, hfails⟩ := runCollect_of_ok hr
    by_cases hw : Writes w cfg files r.output
    · -- the report is written: the run succeeds with it
      obtain ⟨h0, hprint, hwrite⟩ := hwrites hw
      refine ⟨fun h => absurd h0 h, ⟨fun _ => ?_, fun _ => h0⟩, ?_, ?_⟩
      · exact ⟨cfg, cmd, r.capture, r.output, rfl, hrep, hfiles ▸ hw⟩
      · rintro _ cmd' c O ⟨rfl, hc⟩ hout
        obtain ⟨-, rfl, -⟩ := hc.eq_report hr
        exact hprint hout
      · rintro _ cmd' c O ⟨rfl, hc⟩ hout
        obtain ⟨-, rfl, rfl⟩ := hc.eq_report hr
        exact hwrite hout
    · -- the report cannot be written: the run fails with code 1
      obtain ⟨h1, hout⟩ := hfails hw
      refine Outcome.of_failure (by rw [h1, hclean]; rfl) hout ?_
      rintro _ cmd' c O ⟨rfl, hc⟩
      obtain ⟨-, rfl, rfl⟩ := hc.eq_report hr
      exact hw hc.written


/-! ## 6. The run -/

/-- **The run of the root command**: the flags are parsed and the settings resolved, and then the
document is collected and written. -/
theorem run_root {w : World} {args : List String} (hargs : RootInvocation args) :
    run w args = match rootFlags args with
      | .error msg => ({ files := w.files } : Exit).fail (failure msg)
      | .ok p => match resolveConfig w (runEnv w) p with
        | .error f => ({ files := w.files } : Exit).fail f
        | .ok cfg => runCollect w (runEnv w) cfg { files := w.files } := by
  obtain ⟨hroot, hplain⟩ := hargs
  unfold rootFlags at hplain ⊢
  unfold run
  rcases hfind : find .root args commandDepth with ⟨cmd, rest⟩
  rw [hfind] at hroot hplain
  cases hroot
  cases hp : parseAll Command.root.flags rest with
  | error msg => simp [hp]
  | ok p =>
    obtain ⟨hnoargs, hhelp⟩ := hplain p hp
    simp only [hp, hhelp, hnoargs, strayArg, Command.runnable, Command.required, List.filter_nil,
      Bool.false_or, Bool.not_true, Bool.false_eq_true, ↓reduceIte]
    -- the environment the run loads is `runEnv w`
    rfl

/-- Settings that fail to resolve fail with code 1. -/
theorem resolveConfig_error_code {w : World} {env : List (String × String)} {p : Parsed}
    {f : Failure} (h : resolveConfig w env p = .error f) : f.code = 1 := by
  simp only [resolveConfig, bind, Except.bind, pure, Except.pure] at h
  split at h
  · -- no settings file: only the check can fail
    split at h <;> cases h
    rfl
  · -- the settings file fails to load, or the check fails
    split at h
    · split at h <;> cases h
      rfl
    · cases h
      rfl

/-- **The outcome contract of the root command.** For every invocation of the root command
without positional arguments and without asking for help, in every world: a failed run prints
nothing and exits with the probe's exit code when the probe failed with a positive one, and with
1 otherwise; the run succeeds exactly when its settings resolve and a collection under them
succeeds; and the document of that collection, the probe's output assembled with the manifest
the run includes, is printed, or written to the output file with nothing printed. -/
theorem root_command_outcome {w : World} {args : List String} (hargs : RootInvocation args) :
    Outcome w (run w args) (probeFailure w args)
      fun cfg cmd c O => Resolves w args cfg ∧ Collects w cfg cmd c O := by
  rw [run_root hargs]
  cases hp : rootFlags args with
  | error msg =>
    -- the flags do not parse: no settings resolve
    have hfailed : probeFailure w args = none := by
      simp only [probeFailure, hp]
      rfl
    refine Outcome.of_failure ?_ rfl ?_
    · rw [hfailed]
      rfl
    · rintro cfg cmd c O ⟨⟨p, hp', -⟩, -⟩
      rw [hp] at hp'
      cases hp'
  | ok p =>
    dsimp only
    cases hcfg : resolveConfig w (runEnv w) p with
    | error f =>
      -- the settings do not resolve
      have hfailed : probeFailure w args = none := by
        simp [probeFailure, hp, hcfg, Except.toOption]
      refine Outcome.of_failure ?_ rfl ?_
      · rw [hfailed]
        show f.code = 1
        exact resolveConfig_error_code hcfg
      · rintro cfg cmd c O ⟨⟨p', hp', hcfg'⟩, -⟩
        rw [hp] at hp'
        cases hp'
        rw [hcfg] at hcfg'
        cases hcfg'
    | ok cfg =>
      have hfailed : probeFailure w args = probeFailureOf w cfg := by
        simp [probeFailure, hp, hcfg, Except.toOption]
      -- the settings the run resolves are these
      have hres : ∀ cfg', Resolves w args cfg' ↔ cfg' = cfg := by
        intro cfg'
        constructor
        · rintro ⟨p', hp', hcfg'⟩
          rw [hp] at hp'
          cases hp'
          rw [hcfg] at hcfg'
          cases hcfg'
          rfl
        · rintro rfl
          exact ⟨p, hp, hcfg⟩
      rw [hfailed]
      refine (runCollect_outcome w cfg).congr fun cfg' cmd c O => ?_
      rw [hres]
      constructor <;> rintro ⟨rfl, hc⟩ <;> exact ⟨rfl, hc⟩

/-- The root command run bare, in an empty world. -/
theorem root_command_outcome_bare :
    let w : World := { files := {}, cwd := "/" }
    RootInvocation [] ∧ Outcome w (run w []) (probeFailure w [])
      fun cfg cmd c O => Resolves w [] cfg ∧ Collects w cfg cmd c O := by
  intro w
  have hfind : find .root [] commandDepth = (.root, []) := by
    simp [find, commandDepth, plainArgs]
  have h : RootInvocation [] := by
    refine ⟨by rw [hfind], fun p hp => ?_⟩
    simp only [rootFlags, hfind, parseAll, parseFlags, Except.ok.injEq] at hp
    subst hp
    exact ⟨rfl, rfl⟩
  exact ⟨h, root_command_outcome h⟩

end Inventory.Cli