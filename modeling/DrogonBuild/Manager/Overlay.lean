import DrogonBuild.Manager.Dispatch

/-!
# The detection overlays the loaded entry

`_detect_environment` takes the platform's entry of the loaded optimizations
and writes into it what this run finds. Read as a function on dicts, each
detection step is an overlay: a compiler probe writes its version and flag, the
ninja check writes `has_ninja` and, when ninja does not run, a fallback
generator, and on windows the Visual Studio search records a root and an
edition. Nothing writes the preferred value back, so a fallback that an earlier
build saved with the entry stays in every later run, whatever it detects.

The steps are proved against the overlays as triples whose error side is a
proposition `B`: with `B := True` they describe every run that returns; with
`B := False` and no probe refused they also say that the detection does not raise.
-/

namespace DrogonBuild.Manager

open Json

/-! ## What a run detects -/

/-- `ninja --version` starts and exits 0. -/
def ninjaFound (w : World) : Bool :=
  match w.probe "ninja" with
  | .exited code _ => code == 0
  | _ => false

/-- The version probe of `tool` prints a non-empty first line. -/
def toolFound (w : World) (tool : String) : Bool :=
  match w.probe tool with
  | .exited _ out => !(firstLine out).isEmpty
  | _ => false

/-- The installation roots the search looks into: non-empty and existing. -/
def existingRoots (w : World) (roots : List String) : List String :=
  roots.filter fun p => !p.isEmpty && w.pathExists p

/-- The first root with a `vcvarsall.bat`, with its first edition that has one. -/
def firstPair (w : World) (roots : List String) : Option (String × String) :=
  roots.findSome? fun p => (editions.find? fun e => w.pathExists (vcvarsPath p e)).map (p, ·)

/-- The (root, edition) pair the search records: the first one in search order,
except that once `vs_path` is set the search ends at the first existing root. -/
def vsPick (w : World) (hasVs : Bool) (roots : List String) : Option (String × String) :=
  firstPair w (if hasVs then (existingRoots w roots).take 1 else existingRoots w roots)

theorem vsPick_nil (w : World) (hasVs : Bool) : vsPick w hasVs [] = none := by
  cases hasVs <;> rfl

theorem existingRoots_cons (w : World) (p : String) (ps : List String) :
    existingRoots w (p :: ps) =
      if (p.isEmpty || !w.pathExists p) = true then existingRoots w ps else p :: existingRoots w ps := by
  unfold existingRoots
  cases h1 : p.isEmpty <;> cases h2 : w.pathExists p <;> simp [List.filter_cons, h1, h2]

theorem vsPick_cons_skip (w : World) (hasVs : Bool) {p : String} (ps : List String)
    (hp : (p.isEmpty || !w.pathExists p) = true) : vsPick w hasVs (p :: ps) = vsPick w hasVs ps := by
  rw [vsPick, existingRoots_cons, if_pos hp]
  rfl

theorem vsPick_cons_found (w : World) (hasVs : Bool) {p e : String} (ps : List String)
    (hp : (p.isEmpty || !w.pathExists p) = false)
    (he : (editions.find? fun e => w.pathExists (vcvarsPath p e)) = some e) :
    vsPick w hasVs (p :: ps) = some (p, e) := by
  rw [vsPick, existingRoots_cons, hp]
  cases hasVs <;> simp [firstPair, he]

theorem vsPick_cons_none (w : World) (hasVs : Bool) {p : String} (ps : List String)
    (hp : (p.isEmpty || !w.pathExists p) = false)
    (he : (editions.find? fun e => w.pathExists (vcvarsPath p e)) = none) :
    vsPick w hasVs (p :: ps) = if hasVs then none else vsPick w hasVs ps := by
  rw [vsPick, existingRoots_cons, hp]
  cases hasVs <;> simp [vsPick, firstPair, he]

/-! ## The detection as overlays on a dict -/

/-- What the version probe of a compiler writes. -/
def probeOverlay (w : World) (tool versionKey hasKey : String) (kvs : List (String × Json)) :
    List (String × Json) :=
  match w.probe tool with
  | .exited _ out =>
    setKey (setKey kvs versionKey (.str (firstLine out))) hasKey (.bool (Json.str (firstLine out)).truthy)
  | _ => setKey kvs hasKey (.bool false)

/-- `compiler` becomes `clang` when gcc is not found and clang is. -/
def clangOverlay (w : World) (kvs : List (String × Json)) : List (String × Json) :=
  if !toolFound w "gcc" && toolFound w "clang" then setKey kvs "compiler" (.str "clang") else kvs

/-- The ninja check: `has_ninja`, then the platform's fallback when ninja does not run. -/
def ninjaOverlay (w : World) (fallback : List (String × Json) → List (String × Json))
    (kvs : List (String × Json)) : List (String × Json) :=
  if ninjaFound w then setKey kvs "has_ninja" (.bool true) else fallback (setKey kvs "has_ninja" (.bool false))

/-- The fallback of linux and darwin. -/
def makefilesFallback (kvs : List (String × Json)) : List (String × Json) :=
  setKey kvs "generator" (.str "Unix Makefiles")

/-- The fallback of windows: the Visual Studio generator of the year `vs_path` names. -/
def vsFallback (kvs : List (String × Json)) : List (String × Json) :=
  match lookup kvs "vs_path" with
  | some v => match v.contains "2022" with
    | .ok b => setKey kvs "generator" (.str (vsGenerator (if b then "2022" else "2019")))
    | .error _ => kvs
  | none => kvs

/-- Recording a Visual Studio root and edition. -/
def recordVs (pick : Option (String × String)) (kvs : List (String × Json)) : List (String × Json) :=
  match pick with
  | some (p, e) =>
    setKey (setKey (setKey kvs "vs_path" (.str p)) "vcvars_path" (.str (vcvarsPath p e))) "vs_edition" (.str e)
  | none => kvs

@[simp] theorem recordVs_none (kvs : List (String × Json)) : recordVs none kvs = kvs := rfl

/-- The Visual Studio search. -/
def vsOverlay (w : World) (kvs : List (String × Json)) : List (String × Json) :=
  recordVs (vsPick w (lookup kvs "vs_path").isSome (vsPaths w)) kvs

/-- What `_detect_environment` writes into the entry `kvs` on each platform. -/
def detectOverlay (w : World) : Platform → List (String × Json) → List (String × Json)
  | .windows, kvs => ninjaOverlay w vsFallback (vsOverlay w kvs)
  | .linux, kvs => ninjaOverlay w makefilesFallback (clangOverlay w
      (probeOverlay w "clang" "clang_version" "has_clang" (probeOverlay w "gcc" "gcc_version" "has_gcc" kvs)))
  | .darwin, kvs => ninjaOverlay w makefilesFallback (probeOverlay w "clang" "clang_version" "has_clang" kvs)
  | .other _, kvs => kvs

/-! ## Reading fields of an overlay -/

section
variable {w : World} {kvs : List (String × Json)} {key : String}

@[simp] theorem lookup_probeOverlay_ne {tool versionKey hasKey : String} (hv : versionKey ≠ key)
    (hh : hasKey ≠ key) : lookup (probeOverlay w tool versionKey hasKey kvs) key = lookup kvs key := by
  unfold probeOverlay
  split <;> simp [hv, hh]

@[simp] theorem lookup_probeOverlay_has {tool versionKey hasKey : String} :
    lookup (probeOverlay w tool versionKey hasKey kvs) hasKey = some (.bool (toolFound w tool)) := by
  unfold probeOverlay toolFound
  split <;> simp [truthy]

@[simp] theorem lookup_clangOverlay_ne (h : "compiler" ≠ key) :
    lookup (clangOverlay w kvs) key = lookup kvs key := by
  unfold clangOverlay
  split <;> simp [h]

theorem lookup_clangOverlay_compiler :
    lookup (clangOverlay w kvs) "compiler" =
      if !toolFound w "gcc" && toolFound w "clang" then some (.str "clang") else lookup kvs "compiler" := by
  unfold clangOverlay
  split <;> simp

theorem lookup_ninjaOverlay {f : List (String × Json) → List (String × Json)} (h : "has_ninja" ≠ key) :
    lookup (ninjaOverlay w f kvs) key =
      if ninjaFound w then lookup kvs key else lookup (f (setKey kvs "has_ninja" (.bool false))) key := by
  unfold ninjaOverlay
  split <;> simp [h]

@[simp] theorem lookup_vsFallback_ne (h : "generator" ≠ key) : lookup (vsFallback kvs) key = lookup kvs key := by
  unfold vsFallback
  split
  · split <;> simp [h]
  · rfl

theorem lookup_recordVs_vsPath (pick : Option (String × String)) :
    lookup (recordVs pick kvs) "vs_path" = (pick.map fun pe => Json.str pe.1).or (lookup kvs "vs_path") := by
  cases pick <;> simp [recordVs]

theorem lookup_recordVs_vcvarsPath (pick : Option (String × String)) :
    lookup (recordVs pick kvs) "vcvars_path" =
      (pick.map fun pe => Json.str (vcvarsPath pe.1 pe.2)).or (lookup kvs "vcvars_path") := by
  cases pick <;> simp [recordVs]

@[simp] theorem lookup_recordVs_ne (pick : Option (String × String)) (h1 : "vs_path" ≠ key)
    (h2 : "vcvars_path" ≠ key) (h3 : "vs_edition" ≠ key) : lookup (recordVs pick kvs) key = lookup kvs key := by
  cases pick <;> simp [recordVs, h1, h2, h3]

end

/-! ## The detection refines the overlays -/

/-- `self.config` is the dict `kvs`. -/
def Cfg (kvs : List (String × Json)) (s : Proc) : Prop := s.mgr.config = .dict kvs

section
variable {kvs : List (String × Json)} {E : Proc → Prop}

theorem setConfigItem_cfg (key : String) (v : Json) :
    Triple (Cfg kvs) (setConfigItem key v) (fun _ => Cfg (setKey kvs key v)) E := by
  intro s hs
  rw [setConfigItem_run, show s.mgr.config = _ from hs]
  rfl

theorem configItem_cfg {key : String} {v : Json} (h : lookup kvs key = some v) :
    Triple (Cfg kvs) (configItem key) (fun a s => Cfg kvs s ∧ a = v) E := by
  intro s hs
  rw [configItem_run, show s.mgr.config = _ from hs, getItem_dict_ok.2 h]
  exact ⟨hs, rfl⟩

theorem configHas_cfg (key : String) :
    Triple (Cfg kvs) (configHas key) (fun a s => Cfg kvs s ∧ a = (lookup kvs key).isSome) E := by
  intro s hs
  rw [configHas_run, show s.mgr.config = _ from hs]
  exact ⟨hs, rfl⟩

theorem emit_cfg (e : Effect) : Triple (Cfg kvs) (emit e) (fun _ => Cfg kvs) E := fun _ h => h

end

section
variable {B : Prop} (w : World) {kvs : List (String × Json)}

theorem detectCompiler_cfg {tool versionKey hasKey : String} (hd : w.probe tool = .denied → B) :
    Triple (Cfg kvs) (detectCompiler w tool versionKey hasKey)
      (fun _ => Cfg (probeOverlay w tool versionKey hasKey kvs)) (fun _ => B) := by
  unfold detectCompiler probeOverlay
  cases hp : w.probe tool with
  | missing => exact setConfigItem_cfg _ _
  | denied => exact fun _ _ => hd hp
  | exited code out =>
    exact .bind (emit_cfg _) fun _ => .bind (setConfigItem_cfg _ _) fun _ =>
      .bind_eq (configItem_cfg (lookup_setKey_self _ _ _)) (setConfigItem_cfg _ _)

theorem probeNinja_cfg (hd : w.probe "ninja" = .denied → B) :
    Triple (Cfg kvs) (probeNinja w) (fun a s => Cfg kvs s ∧ a = ninjaFound w) (fun _ => B) := by
  unfold probeNinja ninjaFound
  cases hp : w.probe "ninja" with
  | missing => exact .pure _ fun _ h => ⟨h, rfl⟩
  | denied => exact fun _ _ => hd hp
  | exited code out => exact .bind (emit_cfg _) fun _ => .pure _ fun _ h => ⟨h, rfl⟩

theorem detectNinja_cfg {fallback : Step Unit} {f : List (String × Json) → List (String × Json)}
    (hd : w.probe "ninja" = .denied → B)
    (hf : Triple (Cfg (setKey kvs "has_ninja" (.bool false))) fallback
      (fun _ => Cfg (f (setKey kvs "has_ninja" (.bool false)))) (fun _ => B)) :
    Triple (Cfg kvs) (detectNinja w fallback) (fun _ => Cfg (ninjaOverlay w f kvs)) (fun _ => B) := by
  refine .bind_eq (probeNinja_cfg w hd) ?_
  unfold ninjaOverlay
  cases ninjaFound w
  · exact .bind (setConfigItem_cfg _ _) fun _ => hf
  · exact setConfigItem_cfg _ _

theorem findEdition_cfg (p : String) (es : List String) :
    Triple (Cfg kvs) (findEdition w p es)
      (fun _ => Cfg (recordVs ((es.find? fun e => w.pathExists (vcvarsPath p e)).map (p, ·)) kvs)) (fun _ => B) := by
  induction es with
  | nil => exact .pure _ fun _ h => h
  | cons e es ih =>
    unfold findEdition
    by_cases he : w.pathExists (vcvarsPath p e) = true
    · rw [if_pos he, show (e :: es).find? (fun e => w.pathExists (vcvarsPath p e)) = some e from
        List.find?_cons_of_pos _ he]
      exact .bind (setConfigItem_cfg _ _) fun _ => .bind (setConfigItem_cfg _ _) fun _ => setConfigItem_cfg _ _
    · rw [if_neg he, show (e :: es).find? (fun e => w.pathExists (vcvarsPath p e)) = es.find? _ from
        List.find?_cons_of_neg _ he]
      exact ih

theorem findVs_cfg (roots : List String) :
    Triple (Cfg kvs) (findVs w roots)
      (fun _ => Cfg (recordVs (vsPick w (lookup kvs "vs_path").isSome roots) kvs)) (fun _ => B) := by
  induction roots generalizing kvs with
  | nil => exact .pure _ fun _ h => by rwa [vsPick_nil]
  | cons p ps ih =>
    unfold findVs
    by_cases hp : (p.isEmpty || !w.pathExists p) = true
    · rw [if_pos hp, vsPick_cons_skip w _ ps hp]
      exact ih
    · rw [if_neg hp]
      rw [Bool.not_eq_true] at hp
      refine .bind (findEdition_cfg w p editions) fun _ => ?_
      cases he : editions.find? fun e => w.pathExists (vcvarsPath p e) with
      | some e =>
        refine .bind_eq (configHas_cfg _) ?_
        rw [vsPick_cons_found w _ ps hp he, lookup_recordVs_vsPath]
        exact .pure _ fun _ h => h
      | none =>
        refine .bind_eq (configHas_cfg _) ?_
        rw [vsPick_cons_none w _ ps hp he, Option.map_none', recordVs_none]
        cases hv : (lookup kvs "vs_path").isSome
        · have h := @ih kvs
          rw [hv] at h
          exact h
        · exact .pure _ fun _ h => h

theorem detectWindowsEnvironment_cfg (hd : w.probe "ninja" = .denied → B)
    (hv : ∀ v e, lookup (vsOverlay w kvs) "vs_path" = some v → v.contains "2022" = .error e → B) :
    Triple (Cfg kvs) (detectWindowsEnvironment w) (fun _ => Cfg (detectOverlay w .windows kvs)) (fun _ => B) := by
  refine .bind (show Triple _ _ (fun _ => Cfg (vsOverlay w kvs)) _ from findVs_cfg w _) fun _ =>
    detectNinja_cfg w hd ?_
  generalize vsOverlay w kvs = kvs' at hv ⊢
  refine .bind_eq (configHas_cfg _) ?_
  have hl : lookup (setKey kvs' "has_ninja" (.bool false)) "vs_path" = lookup kvs' "vs_path" :=
    lookup_setKey_ne _ _ (by decide)
  unfold vsFallback
  rw [hl]
  cases hs : lookup kvs' "vs_path" with
  | none => exact .pure _ fun _ h => h
  | some v =>
    refine .bind_eq (configItem_cfg (hl.trans hs)) ?_
    dsimp only
    cases hc : v.contains "2022" with
    | error e => exact fun _ _ => hv v e hs hc
    | ok b => exact .bind_eq (fun _ h => ⟨h, rfl⟩) (setConfigItem_cfg _ _)

theorem preferClang_cfg {g k : Bool} (hg : lookup kvs "has_gcc" = some (.bool g))
    (hk : lookup kvs "has_clang" = some (.bool k)) :
    Triple (Cfg kvs) preferClang
      (fun _ => Cfg (if !g && k then setKey kvs "compiler" (.str "clang") else kvs)) (fun _ => B) := by
  refine .bind_eq (configItem_cfg hg) ?_
  cases g
  · refine .bind_eq (configItem_cfg hk) ?_
    cases k
    · exact .pure _ fun _ h => h
    · exact setConfigItem_cfg _ _
  · exact .pure _ fun _ h => h

theorem detectLinuxEnvironment_cfg (hd : ∀ tool, w.probe tool = .denied → B) :
    Triple (Cfg kvs) (detectLinuxEnvironment w) (fun _ => Cfg (detectOverlay w .linux kvs)) (fun _ => B) :=
  .bind (detectCompiler_cfg w (hd _)) fun _ => .bind (detectCompiler_cfg w (hd _)) fun _ =>
    .bind (preferClang_cfg (by simp) lookup_probeOverlay_has) fun _ =>
      detectNinja_cfg w (hd _) (setConfigItem_cfg _ _)

theorem detectMacosEnvironment_cfg (hd : ∀ tool, w.probe tool = .denied → B) :
    Triple (Cfg kvs) (detectMacosEnvironment w) (fun _ => Cfg (detectOverlay w .darwin kvs)) (fun _ => B) :=
  .bind (detectCompiler_cfg w (hd _)) fun _ => detectNinja_cfg w (hd _) (setConfigItem_cfg _ _)

theorem detectPlatform_cfg {sys : Platform} (hd : ∀ tool, w.probe tool = .denied → B)
    (hv : sys = .windows → ∀ v e, lookup (vsOverlay w kvs) "vs_path" = some v → v.contains "2022" = .error e → B) :
    Triple (fun s => Cfg kvs s ∧ s.mgr.system = sys) (detectPlatform w)
      (fun _ => Cfg (detectOverlay w sys kvs)) (fun _ => B) := by
  intro s ⟨hs, hsys⟩
  unfold detectPlatform
  rw [run_bind_ok _ (rfl : (MonadState.get : Step Proc) s = .ok s s), hsys]
  cases sys with
  | windows => exact detectWindowsEnvironment_cfg w (hd _) (hv rfl) s hs
  | linux => exact detectLinuxEnvironment_cfg w hd s hs
  | darwin => exact detectMacosEnvironment_cfg w hd s hs
  | other _ => exact hs

end

/-! ## Constructing the manager -/

/-- The platform entry `_detect_environment` starts from when the optimizations
file holds `st`: the saved entry, or else the platform's default. -/
def loadedEntry (c : Nat) (sys : Platform) (st : Stored) : Json :=
  ((st.loaded (defaultConfigs c)).field? sys.key).getD (((defaultConfigs c).field? sys.key).getD .null)

/-- The constructor after loading: selecting the configuration, then the detection. -/
theorem init_run (w : World) (s : Proc) :
    init w s = (selectConfig w >>= fun _ => detectPlatform w) (s.afterLoad w.cpuCount) :=
  run_bind_ok _ (loadState_run w s)

section
variable {B : Prop} (w : World) {sys : Platform} {kvs : List (String × Json)}

/-- `selectConfig` raises only on optimizations that are not a dict, or on a
platform without a default. -/
theorem selectConfig_cfg {o : Json}
    (he : ∀ okvs d, o = .dict okvs → (defaultConfigs w.cpuCount).getItem sys.key = .ok d →
      (lookup okvs sys.key).getD d = .dict kvs)
    (hb : ((∃ okvs, o = .dict okvs) ∧ ∃ d, (defaultConfigs w.cpuCount).getItem sys.key = .ok d) ∨ B) :
    Triple (fun s => s.mgr.optimizations = o ∧ s.mgr.system = sys) (selectConfig w)
      (fun _ s => Cfg kvs s ∧ s.mgr.system = sys) (fun _ => B) := by
  intro s ⟨ho, hsys⟩
  rw [selectConfig_run, ho, hsys]
  cases hd : (defaultConfigs w.cpuCount).getItem sys.key with
  | ok d =>
    cases o with
    | dict okvs => exact ⟨he okvs d rfl hd, hsys⟩
    | _ => exact hb.resolve_left (by simp)
  | error e => cases o <;> exact hb.resolve_left (by simp [hd])

/-- From state files where the optimizations hold `st`, the constructor leaves
the loaded entry overlaid with the detection as `self.config`. -/
theorem init_cfg {st : Stored} (he : loadedEntry w.cpuCount sys st = .dict kvs)
    (hb : ((∃ okvs, st.loaded (defaultConfigs w.cpuCount) = .dict okvs) ∧
      ∃ d, (defaultConfigs w.cpuCount).getItem sys.key = .ok d) ∨ B)
    (hd : ∀ tool, w.probe tool = .denied → B)
    (hv : sys = .windows → ∀ v e, lookup (vsOverlay w kvs) "vs_path" = some v → v.contains "2022" = .error e → B) :
    Triple (fun s => s.host.optimizations = st ∧ s.mgr.system = sys) (init w)
      (fun _ => Cfg (detectOverlay w sys kvs)) (fun _ => B) := by
  intro s ⟨hst, hsys⟩
  rw [init_run]
  refine (Triple.bind (selectConfig_cfg w (fun okvs d ho hd => ?_) hb) fun _ => detectPlatform_cfg w hd hv) _
    ⟨by simp [hst], by simp [hsys]⟩
  rwa [loadedEntry, ho, field?_dict, getItem_ok hd, Option.getD_some] at he

end

/-! ## Which fields the detection decides -/

section
variable {w : World} {kvs : List (String × Json)}

theorem detectOverlay_generator_unix {sys : Platform} (hs : sys = .linux ∨ sys = .darwin) :
    lookup (detectOverlay w sys kvs) "generator" =
      if ninjaFound w then lookup kvs "generator" else some (.str "Unix Makefiles") := by
  rcases hs with rfl | rfl <;> simp [detectOverlay, lookup_ninjaOverlay, makefilesFallback]

theorem detectOverlay_compiler_linux :
    lookup (detectOverlay w .linux kvs) "compiler" =
      if !toolFound w "gcc" && toolFound w "clang" then some (.str "clang") else lookup kvs "compiler" := by
  simp [detectOverlay, lookup_ninjaOverlay, makefilesFallback, lookup_clangOverlay_compiler]

theorem detectOverlay_generator_windows (hn : ninjaFound w = true) :
    lookup (detectOverlay w .windows kvs) "generator" = lookup kvs "generator" := by
  simp [detectOverlay, lookup_ninjaOverlay, hn, vsOverlay]

theorem detectOverlay_vsPath_windows :
    lookup (detectOverlay w .windows kvs) "vs_path" =
      ((vsPick w (lookup kvs "vs_path").isSome (vsPaths w)).map fun pe => .str pe.1).or (lookup kvs "vs_path") := by
  simp [detectOverlay, lookup_ninjaOverlay, vsOverlay, lookup_recordVs_vsPath]

theorem detectOverlay_vcvarsPath_windows :
    lookup (detectOverlay w .windows kvs) "vcvars_path" =
      ((vsPick w (lookup kvs "vs_path").isSome (vsPaths w)).map fun pe => .str (vcvarsPath pe.1 pe.2)).or
        (lookup kvs "vcvars_path") := by
  simp [detectOverlay, lookup_ninjaOverlay, vsOverlay, lookup_recordVs_vcvarsPath]

end

/-- Whenever the constructor returns, the detection-derived fields are the loaded
entry's (the saved one, or the platform default) overlaid with this run's
detection: a fallback generator or compiler when the preferred tool is missing,
and the Visual Studio pair the search records; the preferred value is never
written back. -/
theorem detection_overlays_loaded_entry (w : World) (host : Host) (root : String) {sys : Platform}
    {kvs : List (String × Json)} (he : loadedEntry w.cpuCount sys host.optimizations = .dict kvs) {s : Proc}
    (h : init w ⟨host, BuildManager.fresh root sys⟩ = .ok () s) :
    (sys = .linux ∨ sys = .darwin → s.mgr.config.field? "generator" =
        if ninjaFound w then lookup kvs "generator" else some (.str "Unix Makefiles")) ∧
      (sys = .linux → s.mgr.config.field? "compiler" =
        if !toolFound w "gcc" && toolFound w "clang" then some (.str "clang") else lookup kvs "compiler") ∧
      (sys = .windows → (ninjaFound w = true → s.mgr.config.field? "generator" = lookup kvs "generator") ∧
        s.mgr.config.field? "vs_path" =
          ((vsPick w (lookup kvs "vs_path").isSome (vsPaths w)).map fun pe => .str pe.1).or (lookup kvs "vs_path") ∧
        s.mgr.config.field? "vcvars_path" =
          ((vsPick w (lookup kvs "vs_path").isSome (vsPaths w)).map fun pe => .str (vcvarsPath pe.1 pe.2)).or
            (lookup kvs "vcvars_path")) := by
  have hc := init_cfg w he (.inr trivial) (fun _ _ => trivial) (fun _ _ _ _ _ => trivial)
    (⟨host, BuildManager.fresh root sys⟩ : Proc) ⟨rfl, rfl⟩
  rw [h] at hc
  rw [show s.mgr.config = _ from hc, field?_dict, field?_dict, field?_dict, field?_dict]
  refine ⟨detectOverlay_generator_unix, fun hs => ?_, fun hs => ?_⟩
  · subst hs
    exact detectOverlay_compiler_linux
  · subst hs
    exact ⟨detectOverlay_generator_windows, detectOverlay_vsPath_windows, detectOverlay_vcvarsPath_windows⟩

/-- A linux machine where gcc and ninja answer their version probes. -/
def gccNinjaWorld : World :=
  ⟨4, "", "/work", "", fun t => if t = "gcc" then .exited 0 "gcc (GCC) 13.2.0\n"
      else if t = "ninja" then .exited 0 "1.11.1\n" else .missing,
    fun _ => false, fun _ => .exited 0 "", fun _ => (0, 1), fun _ => ""⟩

theorem detection_overlays_loaded_entry_first_run :
    ∃ kvs s, loadedEntry gccNinjaWorld.cpuCount .linux .absent = .dict kvs ∧
      init gccNinjaWorld ⟨⟨.absent, .absent, []⟩, BuildManager.fresh "/work" .linux⟩ = .ok () s ∧
      s.mgr.config.field? "generator" = lookup kvs "generator" :=
  ⟨_, _, rfl, rfl, ((detection_overlays_loaded_entry gccNinjaWorld ⟨.absent, .absent, []⟩ "/work"
    (show loadedEntry gccNinjaWorld.cpuCount .linux .absent = .dict _ from rfl) rfl).1 (.inl rfl)).trans
    (if_pos rfl)⟩

/-- After a successful build on a machine without ninja has saved the entry with
the `Unix Makefiles` fallback, a run on a machine where ninja answers still
configures with `Unix Makefiles`; the same run from no state files uses `Ninja`. -/
theorem makefiles_fallback_outlives_ninja :
    ninjaFound gccNinjaWorld = true ∧
      Effect.exec .configure ["cmake", "-S", "/work", "-B", "/work/build", "-G", "Ninja",
          "-DCMAKE_C_COMPILER=gcc", "-DCMAKE_CXX_COMPILER=g++", "-DCMAKE_CXX_FLAGS=-O3",
          "-DCMAKE_BUILD_TYPE=Release"] ∈
        (finalState (main gccNinjaWorld .linux ["configure"] ⟨.absent, .absent, []⟩)).host.trace ∧
      Effect.exec .configure ["cmake", "-S", "/work", "-B", "/work/build", "-G", "Unix Makefiles",
          "-DCMAKE_C_COMPILER=gcc", "-DCMAKE_CXX_COMPILER=g++", "-DCMAKE_CXX_FLAGS=-O3",
          "-DCMAKE_BUILD_TYPE=Release"] ∈
        ((finalState (main gccNinjaWorld .linux ["configure"]
          (session .linux [(gccOnlyWorld, ["build"])] ⟨.absent, .absent, []⟩))).host.trace.drop
          (session .linux [(gccOnlyWorld, ["build"])] ⟨.absent, .absent, []⟩).trace.length) :=
  ⟨rfl, .tail _ (.tail _ (.tail _ (.tail _ (.tail _ (.head _))))),
    .tail _ (.tail _ (.tail _ (.tail _ (.tail _ (.head _)))))⟩

end DrogonBuild.Manager
