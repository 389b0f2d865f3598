import Inventory.Cli.Run
/-!
# Layered settings

Settings come in layers, the command line over the environment over the settings file over the
built-in defaults, and `Config.merge` lays one layer over the next. This module says what a
stack of layers comes to, field by field and without `merge` (`resolve`):

* each text field comes from the first layer that gives it, and is empty when none does;
* each switch is on when some layer turns it on;
* the probe comes from the first layer that names one; its arguments come from the first
  layer that gives any, looking no further down than the probe's layer, so arguments never come
  from a layer below the probe's; when no layer names a probe, from the first layer that gives
  any.

The empty settings and `merge` form a monoid (`merge_assoc`, `merge_empty`), and `resolve` is
`merge` folded from the right (`resolve_cons`). So folding `merge` from the left, as the command
does, gives the same settings (`foldl_merge_eq_resolve`), however the layers are grouped; the
settings a run uses are the resolution of its four layers (`resolveConfig_eq_resolve`).
-/

set_option autoImplicit false

namespace Inventory.Config

/-! ## 1. Merging field by field -/

/-- The probe and the arguments `merge` takes: the upper layer's probe with its own arguments, or,
when it names no probe, the lower layer's probe with the upper layer's arguments if it gives any. -/
@[simp] theorem merge_probe (c lower : Config) : (c.merge lower).probe = orElse c.probe lower.probe := by
  unfold merge orElse
  by_cases hp : c.probe.isEmpty <;> simp [hp]

@[simp] theorem merge_probeArgs (c lower : Config) :
    (c.merge lower).probeArgs =
      if c.probe.isEmpty then (if c.probeArgs.isEmpty then lower.probeArgs else c.probeArgs)
      else c.probeArgs := by
  unfold merge
  by_cases hp : c.probe.isEmpty <;> simp [hp]

@[simp] theorem merge_manifest (c lower : Config) :
    (c.merge lower).manifest = orElse c.manifest lower.manifest := rfl

@[simp] theorem merge_noManifest (c lower : Config) :
    (c.merge lower).noManifest = (c.noManifest || lower.noManifest) := rfl

@[simp] theorem merge_timeout (c lower : Config) :
    (c.merge lower).timeout = orElse c.timeout lower.timeout := rfl

@[simp] theorem merge_schema (c lower : Config) :
    (c.merge lower).schema = orElse c.schema lower.schema := rfl

@[simp] theorem merge_output (c lower : Config) :
    (c.merge lower).output = orElse c.output lower.output := rfl

@[simp] theorem merge_url (c lower : Config) : (c.merge lower).url = orElse c.url lower.url := rfl

@[simp] theorem merge_token (c lower : Config) :
    (c.merge lower).token = orElse c.token lower.token := rfl

@[simp] theorem merge_deviceId (c lower : Config) :
    (c.merge lower).deviceId = orElse c.deviceId lower.deviceId := rfl

@[simp] theorem merge_verbose (c lower : Config) :
    (c.merge lower).verbose = (c.verbose || lower.verbose) := rfl

/-- Settings are equal when every field is. -/
theorem ext {a b : Config} (h1 : a.probe = b.probe) (h2 : a.probeArgs = b.probeArgs)
    (h3 : a.manifest = b.manifest) (h4 : a.noManifest = b.noManifest) (h5 : a.timeout = b.timeout)
    (h6 : a.schema = b.schema) (h7 : a.output = b.output) (h8 : a.url = b.url)
    (h9 : a.token = b.token) (h10 : a.deviceId = b.deviceId) (h11 : a.verbose = b.verbose) :
    a = b := by
  cases a
  cases b
  simp_all

theorem orElse_assoc (a b c : String) : orElse (orElse a b) c = orElse a (orElse b c) := by
  unfold orElse
  by_cases ha : a.isEmpty <;> simp [ha]

theorem orElse_empty (a : String) : orElse a "" = a := by
  unfold orElse
  split
  · exact (String.isEmpty_iff.mp ‹_›).symm
  · rfl

/-! ## 2. The monoid of layers -/

/-- **Layering is associative**: laying `a` over `b` and the result over `c` is laying `a` over
`b` laid over `c`. -/
theorem merge_assoc (a b c : Config) : (a.merge b).merge c = a.merge (b.merge c) := by
  -- the probe's arguments are the one field whose rule depends on another field
  have hargs : ((a.merge b).merge c).probeArgs = (a.merge (b.merge c)).probeArgs := by
    by_cases ha : a.probe.isEmpty <;> by_cases hb : b.probe.isEmpty <;>
      by_cases hx : a.probeArgs.isEmpty <;> simp [ha, hb, hx, orElse]
  refine ext ?_ hargs ?_ ?_ ?_ ?_ ?_ ?_ ?_ ?_ ?_ <;> simp [orElse_assoc, Bool.or_assoc]

/-- The empty settings add nothing below a layer. -/
theorem merge_empty (c : Config) : c.merge {} = c := by
  apply ext <;> simp [orElse_empty]

/-! ## 3. Resolving a stack of layers -/

/-- The first of the values that is not empty, top layer first; the empty value when all are. -/
def firstGiven {α : Type} [Inhabited α] (isEmpty : α → Bool) (xs : List α) : α :=
  (xs.find? fun x => !isEmpty x).getD default

theorem firstGiven_cons {α : Type} [Inhabited α] (isEmpty : α → Bool) (x : α) (xs : List α) :
    firstGiven isEmpty (x :: xs) = if isEmpty x then firstGiven isEmpty xs else x := by
  by_cases hx : isEmpty x <;> simp [firstGiven, hx]

/-- A text field of a stack: the first layer that gives it. -/
def firstText (field : Config → String) (cs : List Config) : String :=
  firstGiven String.isEmpty (cs.map field)

theorem firstText_cons (field : Config → String) (c : Config) (cs : List Config) :
    firstText field (c :: cs) = orElse (field c) (firstText field cs) := by
  simp only [firstText, List.map_cons, firstGiven_cons, orElse]

/-- The layers that may give the probe's arguments: down to and including the first layer that
names a probe, or all of them when none does. -/
def argLayers (cs : List Config) : List Config :=
  match cs.findIdx? fun c => !c.probe.isEmpty with
  | some j => cs.take (j + 1)
  | none => cs

theorem argLayers_cons (c : Config) (cs : List Config) :
    argLayers (c :: cs) = if c.probe.isEmpty then c :: argLayers cs else [c] := by
  unfold argLayers
  by_cases hp : c.probe.isEmpty
  · rw [if_pos hp, List.findIdx?_cons, if_neg (by simp [hp])]
    cases (cs.findIdx? fun c => !c.probe.isEmpty) <;> rfl
  · rw [if_neg hp, List.findIdx?_cons, if_pos (by simp [hp])]
    rfl

/-- **The settings a stack of layers resolves to**, top layer first. -/
def resolve (cs : List Config) : Config where
  probe := firstText (·.probe) cs
  probeArgs := firstGiven List.isEmpty ((argLayers cs).map (·.probeArgs))
  manifest := firstText (·.manifest) cs
  noManifest := cs.any (·.noManifest)
  timeout := firstText (·.timeout) cs
  schema := firstText (·.schema) cs
  output := firstText (·.output) cs
  url := firstText (·.url) cs
  token := firstText (·.token) cs
  deviceId := firstText (·.deviceId) cs
  verbose := cs.any (·.verbose)

theorem resolve_nil : resolve [] = {} := rfl

/-- **Resolving is merging from the right**: the top layer laid over what the others resolve
to. -/
theorem resolve_cons (c : Config) (cs : List Config) : resolve (c :: cs) = c.merge (resolve cs) := by
  have hargs : (resolve (c :: cs)).probeArgs = (c.merge (resolve cs)).probeArgs := by
    simp only [resolve, argLayers_cons, merge_probeArgs, firstText_cons]
    by_cases hp : c.probe.isEmpty
    · simp [hp, firstGiven_cons]
    · -- a layer that names a probe gives the arguments alone, its own even when empty
      rw [if_neg hp, if_neg hp, List.map_cons, List.map_nil, firstGiven_cons]
      split
      · exact (List.isEmpty_iff.mp ‹_›).symm
      · rfl
  refine ext ?_ hargs ?_ ?_ ?_ ?_ ?_ ?_ ?_ ?_ ?_ <;> simp [resolve, firstText_cons]

/-- Folding `merge` from the left over the layers below `c` lays `c` over their resolution. -/
theorem foldl_merge (c : Config) (cs : List Config) : cs.foldl merge c = c.merge (resolve cs) := by
  induction cs generalizing c with
  | nil => rw [List.foldl_nil, resolve_nil, merge_empty]
  | cons x cs ih => rw [List.foldl_cons, ih, merge_assoc, ← resolve_cons]

/-- **Layers resolve by precedence.** Folding `merge` from the left over any non-empty stack of
layers gives, field by field: each text from the first layer that gives it; each switch on when
some layer turns it on; the probe from the first layer that names one, and its arguments from
the first layer, no lower than that one, that gives any. Layering is associative, so the result
does not depend on how the layers are grouped. -/
theorem foldl_merge_eq_resolve :
    (∀ (c : Config) (cs : List Config), cs.foldl merge c = resolve (c :: cs)) ∧
    ∀ a b c : Config, (a.merge b).merge c = a.merge (b.merge c) :=
  ⟨fun c cs => by rw [foldl_merge, resolve_cons], merge_assoc⟩

end Inventory.Config

namespace Inventory.Cli

/-- **The settings of a run are the resolution of its layers**: the flags, the environment, the
settings file when one is named, and the defaults, in that order. -/
theorem resolveConfig_eq_resolve {w : World} {env : List (String × String)} {p : Parsed}
    {cfg : Config} (h : resolveConfig w env p = .ok cfg) :
    ∃ file : List Config, file.length ≤ 1 ∧
      cfg = Config.resolve ([flagConfig p, Config.ofEnv (getVar env)] ++ file ++ [Config.defaults]) := by
  unfold resolveConfig at h
  simp only [bind, Except.bind, pure, Except.pure] at h
  split at h
  · -- no settings file
    split at h
    · obtain rfl := Except.ok.inj h
      refine ⟨[], by simp, ?_⟩
      simp only [List.append_nil, List.cons_append, List.nil_append]
      rw [Config.resolve_cons, ← Config.foldl_merge]
      rfl
    · simp [throw, throwThe, MonadExceptOf.throw] at h
  · split at h
    · rename_i c _
      split at h
      · obtain rfl := Except.ok.inj h
        refine ⟨[c], by simp, ?_⟩
        simp only [List.cons_append, List.nil_append]
        rw [Config.resolve_cons, ← Config.foldl_merge]
        rfl
      · simp [throw, throwThe, MonadExceptOf.throw] at h
    · simp [throw, throwThe, MonadExceptOf.throw] at h

end Inventory.Cli
