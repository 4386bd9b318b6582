import DrogonBuild.Manager.Overlay
import DrogonBuild.Manager.Jobs

/-!
# State files of the manager's own shapes never make a run raise

`_load_json` replaces a file that is missing, unreadable or not JSON by the
default, but a parseable document is used as it is, and the later reads index
into it without checks: `.get` on the optimizations, `config["compiler"]`,
`b["type"]`, `.append` on the history. So a run can only be total on documents
of the shapes those reads accept. These are the shapes the manager writes
itself: from such files, on a machine where the version probes and the cmake
commands start, every verb returns, and the files it saves have the same shapes.
-/

namespace DrogonBuild.Manager.Shapes

open Json Jobs

/-- A platform entry every reader of `self.config` accepts: a string generator,
a compiler on linux and darwin, extra cmake arguments that are strings, a string
`vs_path`, and an integer `parallel_jobs` in `[1, 2c]`. -/
structure EntryShaped (c : Nat) (sys : Platform) (kvs : List (String × Json)) : Prop where
  generator : ∀ v, lookup kvs "generator" = some v → ∃ g, v = .str g
  compiler : sys = .linux ∨ sys = .darwin → (lookup kvs "compiler").isSome
  extraArgs : ∀ v, lookup kvs "cmake_extra_args" = some v → ∃ xs : List String, v = .list (xs.map .str)
  vsPath : ∀ v, lookup kvs "vs_path" = some v → ∃ p, v = .str p
  jobs : ∃ n : Int, lookup kvs "parallel_jobs" = some (.int n) ∧ 1 ≤ n ∧ n ≤ 2 * c

/-- A history record `_analyze_and_optimize` can read: an object with a type; a
build record has a success flag, and a successful one a numeric duration. -/
def RecordShaped : Json → Prop
  | .dict kvs => ∃ t, lookup kvs "type" = some t ∧ (t.eqStr "build" = true →
      ∃ ok, lookup kvs "success" = some ok ∧ (ok.truthy = true →
        ∃ d q, lookup kvs "duration" = some d ∧ d.num? = some q))
  | _ => False

/-- A history `append` and `_analyze_and_optimize` accept. -/
def HistoryShaped (v : Json) : Prop := ∃ xs, v = .list xs ∧ ∀ r ∈ xs, RecordShaped r

/-- An optimizations document: a dict whose entry for the platform, when present, is shaped. -/
def OptimizationsShaped (c : Nat) (sys : Platform) (v : Json) : Prop :=
  ∃ okvs, v = .dict okvs ∧ ∀ e, lookup okvs sys.key = some e → ∃ kvs, e = .dict kvs ∧ EntryShaped c sys kvs

/-- A state file whose document, if `json.load` gives one, satisfies `P`. -/
def StoredShaped (P : Json → Prop) : Stored → Prop
  | .doc v => P v
  | _ => True

/-- Both state files of the manager's own shapes. -/
structure HostShaped (c : Nat) (sys : Platform) (host : Host) : Prop where
  history : StoredShaped HistoryShaped host.history
  optimizations : StoredShaped (OptimizationsShaped c sys) host.optimizations

/-- A machine where no version probe fails with an OS error and the command of
every phase starts. -/
structure Benign (w : World) : Prop where
  probe : ∀ tool, w.probe tool ≠ .denied
  starts : ∀ phase, ∃ code out, w.outcome phase = .exited code out

variable {c : Nat} {sys : Platform} {kvs : List (String × Json)}

/-! ## Writing an entry keeps its shape -/

namespace EntryShaped

/-- Setting a key keeps the shape when a generator or `vs_path` is a string and
neither the extra arguments nor the job count are written. -/
theorem set (h : EntryShaped c sys kvs) {key : String} {v : Json}
    (hg : key = "generator" → ∃ g, v = .str g) (hx : key ≠ "cmake_extra_args")
    (hv : key = "vs_path" → ∃ p, v = .str p) (hj : key ≠ "parallel_jobs") :
    EntryShaped c sys (setKey kvs key v) where
  generator v' hl := by
    by_cases hk : key = "generator"
    · subst hk
      rw [lookup_setKey_self, Option.some.injEq] at hl
      exact hl ▸ hg rfl
    · exact h.generator v' (by rwa [lookup_setKey_ne _ _ hk] at hl)
  compiler hs := by
    by_cases hk : key = "compiler"
    · subst hk
      simp
    · rw [lookup_setKey_ne _ _ hk]
      exact h.compiler hs
  extraArgs v' hl := h.extraArgs v' (by rwa [lookup_setKey_ne _ _ hx] at hl)
  vsPath v' hl := by
    by_cases hk : key = "vs_path"
    · subst hk
      rw [lookup_setKey_self, Option.some.injEq] at hl
      exact hl ▸ hv rfl
    · exact h.vsPath v' (by rwa [lookup_setKey_ne _ _ hk] at hl)
  jobs := by rw [lookup_setKey_ne _ _ hj]; exact h.jobs

/-- Setting a key none of the shaped readers look at, or setting it to a string. -/
theorem set_str (h : EntryShaped c sys kvs) {key : String} (s : String)
    (hk : key ∉ ["cmake_extra_args", "parallel_jobs"]) : EntryShaped c sys (setKey kvs key (.str s)) :=
  h.set (fun _ => ⟨s, rfl⟩) (fun he => hk (by simp [he])) (fun _ => ⟨s, rfl⟩) (fun he => hk (by simp [he]))

theorem set_bool (h : EntryShaped c sys kvs) {key : String} (b : Bool)
    (hk : key ∉ ["generator", "cmake_extra_args", "vs_path", "parallel_jobs"]) :
    EntryShaped c sys (setKey kvs key (.bool b)) :=
  h.set (fun he => (hk (by simp [he])).elim) (fun he => hk (by simp [he])) (fun he => (hk (by simp [he])).elim)
    (fun he => hk (by simp [he]))

/-- `_analyze_and_optimize` writes a job count in range. -/
theorem set_jobs (h : EntryShaped c sys kvs) {n : Int} (h1 : 1 ≤ n) (h2 : n ≤ 2 * c) :
    EntryShaped c sys (setKey kvs "parallel_jobs" (.int n)) where
  generator v hl := h.generator v (by rwa [lookup_setKey_ne _ _ (by decide)] at hl)
  compiler hs := by rw [lookup_setKey_ne _ _ (by decide)]; exact h.compiler hs
  extraArgs v hl := h.extraArgs v (by rwa [lookup_setKey_ne _ _ (by decide)] at hl)
  vsPath v hl := h.vsPath v (by rwa [lookup_setKey_ne _ _ (by decide)] at hl)
  jobs := ⟨n, lookup_setKey_self _ _ _, h1, h2⟩

end EntryShaped

/-! ## The detection keeps the shape -/

section
variable (w : World)

theorem probeOverlay_shaped (h : EntryShaped c sys kvs) {tool versionKey hasKey : String}
    (hv : versionKey ∉ ["cmake_extra_args", "parallel_jobs"])
    (hh : hasKey ∉ ["generator", "cmake_extra_args", "vs_path", "parallel_jobs"]) :
    EntryShaped c sys (probeOverlay w tool versionKey hasKey kvs) := by
  unfold probeOverlay
  split
  · exact (h.set_str _ hv).set_bool _ hh
  · exact h.set_bool _ hh

theorem ninjaOverlay_shaped {f : List (String × Json) → List (String × Json)}
    (hf : ∀ kvs, EntryShaped c sys kvs → EntryShaped c sys (f kvs)) (h : EntryShaped c sys kvs) :
    EntryShaped c sys (ninjaOverlay w f kvs) := by
  unfold ninjaOverlay
  split
  · exact h.set_bool _ (by decide)
  · exact hf _ (h.set_bool _ (by decide))

theorem vsFallback_shaped (h : EntryShaped c sys kvs) : EntryShaped c sys (vsFallback kvs) := by
  unfold vsFallback
  split
  · split
    · exact h.set_str _ (by decide)
    · exact h
  · exact h

theorem recordVs_shaped (h : EntryShaped c sys kvs) (pick : Option (String × String)) :
    EntryShaped c sys (recordVs pick kvs) := by
  cases pick with
  | none => exact h
  | some pe => exact ((h.set_str _ (by decide)).set_str _ (by decide)).set_str _ (by decide)

/-- The overlay writes strings and flags only, never the extra arguments or the job count. -/
theorem detectOverlay_shaped (h : EntryShaped c sys kvs) : EntryShaped c sys (detectOverlay w sys kvs) := by
  have hm : ∀ kvs, EntryShaped c sys kvs → EntryShaped c sys (makefilesFallback kvs) :=
    fun _ h => h.set_str _ (by decide)
  cases sys with
  | windows => exact ninjaOverlay_shaped w (fun _ => vsFallback_shaped) (recordVs_shaped h _)
  | linux =>
    have hp : EntryShaped c .linux (probeOverlay w "clang" "clang_version" "has_clang"
        (probeOverlay w "gcc" "gcc_version" "has_gcc" kvs)) :=
      probeOverlay_shaped w (probeOverlay_shaped w h (by decide) (by decide)) (by decide) (by decide)
    refine ninjaOverlay_shaped w hm ?_
    unfold clangOverlay
    split
    · exact hp.set_str _ (by decide)
    · exact hp
  | darwin => exact ninjaOverlay_shaped w hm (probeOverlay_shaped w h (by decide) (by decide))
  | other _ => exact h

end

/-! ## The commands generate without raising -/

section
variable {kvs : List (String × Json)}

theorem generatorArgs_ok (hg : ∀ v, lookup kvs "generator" = some v → ∃ g, v = .str g) :
    ∃ xs : List String, generatorArgs (.dict kvs) = .ok (xs.map .str) := by
  cases hl : lookup kvs "generator" with
  | none => exact ⟨[], by simp only [generatorArgs, get_dict, hl]; rfl⟩
  | some v =>
    obtain ⟨g, rfl⟩ := hg _ hl
    cases ht : (Json.str g).truthy
    · exact ⟨[], by simp [generatorArgs, hl, ht, bind, Except.bind, pure, Except.pure]⟩
    · exact ⟨["-G", g], by simp [generatorArgs, hl, ht, bind, Except.bind, pure, Except.pure, getItem]⟩

theorem toolchainArgs_ok : ∃ xs : List String, toolchainArgs (.dict kvs) = .ok (xs.map .str) := by
  cases hl : lookup kvs "toolchain" with
  | none => exact ⟨[], by simp only [toolchainArgs, get_dict, hl]; rfl⟩
  | some v =>
    cases ht : v.truthy
    · exact ⟨[], by simp [toolchainArgs, hl, ht, bind, Except.bind, pure, Except.pure]⟩
    · exact ⟨[s!"-DCMAKE_TOOLCHAIN_FILE={v.pyStr}"],
        by simp [toolchainArgs, hl, ht, bind, Except.bind, pure, Except.pure, getItem]⟩

theorem compilerArgs_ok (sys : Platform) (h : sys = .linux ∨ sys = .darwin → (lookup kvs "compiler").isSome) :
    ∃ xs : List String, compilerArgs sys (.dict kvs) = .ok (xs.map .str) := by
  unfold compilerArgs
  by_cases hs : sys = .linux ∨ sys = .darwin
  · obtain ⟨v, hv⟩ := Option.isSome_iff_exists.1 (h hs)
    rw [if_pos hs]
    by_cases hg : v.eqStr "gcc" = true
    · exact ⟨["-DCMAKE_C_COMPILER=gcc", "-DCMAKE_CXX_COMPILER=g++"],
        by simp [hv, hg, getItem, bind, Except.bind, pure, Except.pure]⟩
    · by_cases hc : v.eqStr "clang" = true
      · exact ⟨["-DCMAKE_C_COMPILER=clang", "-DCMAKE_CXX_COMPILER=clang++"],
          by simp [hv, hg, hc, getItem, bind, Except.bind, pure, Except.pure]⟩
      · exact ⟨[], by simp [hv, hg, hc, getItem, bind, Except.bind, pure, Except.pure]⟩
  · exact ⟨[], by rw [if_neg hs]; rfl⟩

theorem extraArgs_ok (hx : ∀ v, lookup kvs "cmake_extra_args" = some v → ∃ xs : List String, v = .list (xs.map .str)) :
    ∃ xs : List String, extraArgs (.dict kvs) = .ok (xs.map .str) := by
  cases hl : lookup kvs "cmake_extra_args" with
  | none => exact ⟨[], by simp [extraArgs, hl, bind, Except.bind, pure, Except.pure]⟩
  | some v =>
    obtain ⟨xs, rfl⟩ := hx _ hl
    exact ⟨xs, by simp [extraArgs, hl, getItem, iter, bind, Except.bind]⟩

theorem optimizationArgs_ok : ∃ xs : List String, optimizationArgs (.dict kvs) = .ok (xs.map .str) :=
  ⟨[_, _], rfl⟩

theorem joinStrs_map_str (i : Nat) (xs : List String) : joinStrs i (xs.map .str) = .ok xs := by
  induction xs generalizing i with
  | nil => rfl
  | cons x xs ih => simp [joinStrs, ih, bind, Except.bind, pure, Except.pure]

/-- On a shaped configuration the configure command is a list of strings. -/
theorem generateCmakeConfig_ok {m : BuildManager} (hc : m.config = .dict kvs) (hk : EntryShaped c m.system kvs) :
    ∃ args : List String, generateCmakeConfig m = .ok (args.map .str) := by
  obtain ⟨g, hg⟩ := generatorArgs_ok hk.generator
  obtain ⟨t, ht⟩ : ∃ xs : List String, toolchainArgs (.dict kvs) = .ok (xs.map .str) := toolchainArgs_ok
  obtain ⟨cc, hcc⟩ := compilerArgs_ok m.system hk.compiler
  obtain ⟨o, ho⟩ : ∃ xs : List String, optimizationArgs (.dict kvs) = .ok (xs.map .str) := optimizationArgs_ok
  obtain ⟨x, hx⟩ := extraArgs_ok hk.extraArgs
  refine ⟨["cmake", "-S", m.workspaceRoot, "-B", m.buildDir] ++ g ++ t ++ cc ++ o ++ x, ?_⟩
  simp [generateCmakeConfig, hc, hg, ht, hcc, ho, hx, bind, Except.bind, pure, Except.pure]

/-- On a configuration with a string generator, if any, the build command generates. -/
theorem generateBuildCommand_ok {m : BuildManager} (hc : m.config = .dict kvs)
    (hg : ∀ v, lookup kvs "generator" = some v → ∃ g, v = .str g) (n : Nat) :
    ∃ cmd, generateBuildCommand m n = .ok cmd := by
  have hm : ∃ xs, multiConfigArgs m.system m.config = .ok xs := by
    unfold multiConfigArgs
    by_cases hs : m.system = .windows
    · rw [if_pos hs, hc]
      obtain ⟨g, hg'⟩ : ∃ g, (lookup kvs "generator").getD (.str "") = .str g := by
        cases hl : lookup kvs "generator" with
        | none => exact ⟨"", rfl⟩
        | some v => exact hg v hl
      exact ⟨if startswith g "Ninja" then [] else ["--config", "Release"],
        by simp [hg', bind, Except.bind, pure, Except.pure]⟩
    · exact ⟨[], by rw [if_neg hs]; rfl⟩
  obtain ⟨xs, hxs⟩ := hm
  rw [hc] at hxs
  exact ⟨["cmake", "--build", m.buildDir, "--parallel", ((lookup kvs "parallel_jobs").getD (.int n)).pyStr] ++ xs,
    by simp [generateBuildCommand, hxs, hc, bind, Except.bind, pure, Except.pure]⟩

end

/-! ## Loading the state files -/

theorem defaultConfigs_shaped (hc : 1 ≤ c) (hsys : sys = .windows ∨ sys = .linux ∨ sys = .darwin) :
    ∃ dkvs, (defaultConfigs c).getItem sys.key = .ok (.dict dkvs) ∧ EntryShaped c sys dkvs := by
  rcases hsys with rfl | rfl | rfl <;> refine ⟨_, rfl, fun v hv => ?_, fun _ => rfl, fun v hv => ?_,
    fun v hv => ?_, ⟨_, rfl, by omega, by omega⟩⟩ <;> simp [lookup_cons] at hv <;> exact ⟨_, hv.symm⟩

theorem loaded_shaped {dkvs : List (String × Json)} (hd : (defaultConfigs c).getItem sys.key = .ok (.dict dkvs))
    (hdk : EntryShaped c sys dkvs) {st : Stored} (h : StoredShaped (OptimizationsShaped c sys) st) :
    OptimizationsShaped c sys (st.loaded (defaultConfigs c)) := by
  cases st with
  | doc v => exact h
  | _ =>
    refine ⟨_, rfl, fun e he => ⟨dkvs, ?_, hdk⟩⟩
    rw [getItem_dict_ok.1 hd] at he
    exact (Option.some.inj he).symm

theorem entry_shaped {okvs dkvs : List (String × Json)}
    (ho : ∀ e, lookup okvs sys.key = some e → ∃ kvs, e = .dict kvs ∧ EntryShaped c sys kvs)
    (hdk : EntryShaped c sys dkvs) :
    ∃ kvs, (lookup okvs sys.key).getD (.dict dkvs) = .dict kvs ∧ EntryShaped c sys kvs := by
  cases hl : lookup okvs sys.key with
  | none => exact ⟨dkvs, rfl, hdk⟩
  | some e =>
    obtain ⟨kvs, rfl, hk⟩ := ho e hl
    exact ⟨kvs, rfl, hk⟩

theorem historyShaped_loaded {st : Stored} (h : StoredShaped HistoryShaped st) :
    HistoryShaped (st.loaded (.list [])) := by
  cases st with
  | doc v => exact h
  | _ => exact ⟨[], rfl, nofun⟩

/-- The attributes of a constructed manager other than `self.config`, as the rest
of a run reads them. -/
structure Loaded (c : Nat) (sys : Platform) (s : Proc) : Prop where
  files : HostShaped c sys s.host
  system : s.mgr.system = sys
  history : HistoryShaped s.mgr.buildHistory
  optimizations : OptimizationsShaped c sys s.mgr.optimizations

theorem Loaded.log {s : Proc} (h : Loaded c sys s) (e : Effect) : Loaded c sys (s.log e) :=
  ⟨⟨h.files.1, h.files.2⟩, h.system, h.history, h.optimizations⟩

theorem Loaded.withConfig {s : Proc} (h : Loaded c sys s) (cfg : Json) : Loaded c sys (s.withConfig cfg) :=
  ⟨⟨h.files.1, h.files.2⟩, h.system, h.history, h.optimizations⟩

theorem loaded_detectStable : DetectStable (Loaded c sys) where
  spawn _ s h := h.log _
  set key _ v s h := by
    rcases setConfigItem_final key v s with hs | ⟨_, _, hs⟩ <;> rw [hs]
    · exact h
    · exact h.withConfig _

/-- A constructed manager whose configuration is the shaped entry `kvs`. -/
def Ready (c : Nat) (sys : Platform) (kvs : List (String × Json)) (s : Proc) : Prop :=
  Loaded c sys s ∧ Cfg kvs s ∧ EntryShaped c sys kvs

/-- A constructed manager with some shaped configuration. -/
def Tuned (c : Nat) (sys : Platform) (s : Proc) : Prop := ∃ kvs, Ready c sys kvs s

/-- The constructor raises nothing and leaves a shaped configuration. -/
theorem init_ready (hc : 1 ≤ c) (w : World) (hw : w.cpuCount = c) (hb : Benign w)
    (hsys : sys = .windows ∨ sys = .linux ∨ sys = .darwin) (root : String) {host : Host}
    (hh : HostShaped c sys host) :
    Triple (· = ⟨host, BuildManager.fresh root sys⟩) (init w) (fun _ => Tuned c sys) (fun _ => False) := by
  subst hw
  rintro s rfl
  rw [init_run]
  obtain ⟨dkvs, hd, hdk⟩ := defaultConfigs_shaped hc hsys
  have ho := loaded_shaped hd hdk hh.optimizations
  obtain ⟨okvs, hokvs, hentries⟩ := id ho
  obtain ⟨kvs, he, hk⟩ := entry_shaped hentries hdk
  have hl : Loaded w.cpuCount sys ((⟨host, BuildManager.fresh root sys⟩ : Proc).afterLoad w.cpuCount) :=
    ⟨⟨by simpa using hh.history, by simpa using hh.optimizations⟩, by simp [BuildManager.fresh],
      by simpa using historyShaped_loaded hh.history, by simpa using ho⟩
  have hsel : Triple (fun s => s.mgr.optimizations = host.optimizations.loaded (defaultConfigs w.cpuCount) ∧
      s.mgr.system = sys) (selectConfig w) (fun _ s => Cfg kvs s ∧ s.mgr.system = sys) (fun _ => False) :=
    selectConfig_cfg w (fun okvs' d ho' hd' => by
      rw [hokvs, Json.dict.injEq] at ho'
      rw [hd, Except.ok.injEq] at hd'
      rw [← ho', ← hd', he]) (.inl ⟨⟨okvs, hokvs⟩, _, hd⟩)
  have hdet : Triple (fun s => Cfg kvs s ∧ s.mgr.system = sys) (detectPlatform w)
      (fun _ => Cfg (detectOverlay w sys kvs)) (fun _ => False) :=
    detectPlatform_cfg w (fun t ht => hb.probe t ht) fun _ v e hv hce => by
      obtain ⟨p, rfl⟩ := (recordVs_shaped hk _).vsPath v hv
      cases hce
  exact ((hsel.and_keeps (selectConfig_keeps (fun _ _ h => h.withConfig _) w)).bind fun _ =>
    hdet.and_keeps (detectPlatform_keeps loaded_detectStable w)).conseq (fun _ h => h)
      (fun _ _ h => ⟨_, h.1, h.2, detectOverlay_shaped w hk⟩) (fun _ h => h.2) _
    ⟨hl, by simp, by simp [BuildManager.fresh]⟩

/-! ## Reading the history for the analysis -/

/-- A record with a numeric duration. -/
def Timed (b : Json) : Prop := ∃ d q, b.getItem "duration" = .ok d ∧ d.num? = some q

theorem lastTen_ok {v : Json} (h : HistoryShaped v) : ∃ ys, lastTen v = .ok ys ∧ ∀ r ∈ ys, RecordShaped r := by
  obtain ⟨xs, rfl, hall⟩ := h
  exact ⟨_, rfl, fun r hr => hall r (List.mem_of_mem_drop hr)⟩

theorem successfulBuilds_ok {ys : List Json} (h : ∀ r ∈ ys, RecordShaped r) :
    ∃ bs, successfulBuilds ys = .ok bs ∧ ∀ b ∈ bs, Timed b := by
  induction ys with
  | nil => exact ⟨[], rfl, nofun⟩
  | cons r rs ih =>
    obtain ⟨bs, hbs, hall⟩ := ih fun r' hr' => h r' (.tail _ hr')
    cases r with
    | dict kvs =>
      obtain ⟨t, ht, hb⟩ := h _ (.head _)
      by_cases hbuild : t.eqStr "build" = true
      · obtain ⟨ok, hok, hd⟩ := hb hbuild
        by_cases htr : ok.truthy = true
        · obtain ⟨d, q, hd, hq⟩ := hd htr
          refine ⟨.dict kvs :: bs, by simp [successfulBuilds, getItem, ht, hok, hbuild, htr, hbs, bind,
            Except.bind, pure, Except.pure], fun b hb' => ?_⟩
          rcases List.mem_cons.1 hb' with rfl | hb'
          · exact ⟨d, q, by simp [getItem, hd], hq⟩
          · exact hall b hb'
        · exact ⟨bs, by simp [successfulBuilds, getItem, ht, hok, hbuild, htr, hbs, bind, Except.bind, pure,
            Except.pure], hall⟩
      · exact ⟨bs, by simp [successfulBuilds, getItem, ht, hbuild, hbs, bind, Except.bind, pure, Except.pure], hall⟩
    | _ => exact False.elim (h _ (.head _))

theorem sumDurations_ok {bs : List Json} (h : ∀ b ∈ bs, Timed b) {acc : Json} {q : ℚ} (ha : acc.num? = some q) :
    ∃ t q', sumDurations acc bs = .ok t ∧ t.num? = some q' := by
  induction bs generalizing acc q with
  | nil => exact ⟨acc, q, rfl, ha⟩
  | cons b bs ih =>
    obtain ⟨d, y, hd, hy⟩ := h b (.head _)
    obtain ⟨r, hr, hz⟩ := add_num ha hy
    obtain ⟨t, q', ht, hq'⟩ := ih (fun b' hb' => h b' (.tail _ hb')) hz
    exact ⟨t, q', by simp [sumDurations, hd, hr, ht, bind, Except.bind], hq'⟩

/-! ## A run on a constructed manager raises nothing -/

section
variable {kvs : List (String × Json)} {E : Proc → Prop} (w : World)

theorem ready_emit (e : Effect) : Triple (Ready c sys kvs) (emit e) (fun _ => Ready c sys kvs) E :=
  fun _ h => ⟨h.1.log e, h.2⟩

theorem ready_configHas (key : String) :
    Triple (Ready c sys kvs) (configHas key) (fun a s => Ready c sys kvs s ∧ a = (lookup kvs key).isSome) E :=
  fun s h => by rw [configHas_run, show s.mgr.config = _ from h.2.1]; exact ⟨h, rfl⟩

theorem ready_configItem {key : String} {v : Json} (hl : lookup kvs key = some v) :
    Triple (Ready c sys kvs) (configItem key) (fun a s => Ready c sys kvs s ∧ a = v) E :=
  fun s h => by rw [configItem_run, show s.mgr.config = _ from h.2.1, getItem_dict_ok.2 hl]; exact ⟨h, rfl⟩

theorem ready_setJobs {n : Int} (h1 : 1 ≤ n) (h2 : n ≤ 2 * c) :
    Triple (Ready c sys kvs) (setConfigItem "parallel_jobs" (.int n)) (fun _ => Tuned c sys) E := fun s h => by
  rw [setConfigItem_run, show s.mgr.config = _ from h.2.1]
  exact ⟨_, h.1.withConfig _, rfl, h.2.2.set_jobs h1 h2⟩

theorem attemptRecord_shaped (stamp type : String) (cmd : List String) (code : Int) (clock : ℚ × ℚ) :
    RecordShaped (attemptRecord stamp type cmd code clock) :=
  ⟨_, rfl, fun _ => ⟨_, rfl, fun _ => ⟨_, _, rfl, rfl⟩⟩⟩

/-- The record goes onto a shaped history, and the saved file holds it. -/
theorem ready_recordAttempt (phase : Phase) (type : String) (cmd : List String) (code : Int) :
    Triple (Ready c sys kvs) (recordAttempt w phase type cmd code) (fun _ => Ready c sys kvs) E := by
  intro s h
  obtain ⟨xs, hx, hall⟩ := h.1.history
  rw [recordAttempt_run w phase type cmd code s hx]
  have hr : HistoryShaped (.list (xs ++ [attemptRecord (w.stamp phase) type cmd code (w.clock phase)])) :=
    ⟨_, rfl, fun r hr => (List.mem_append.1 hr).elim (hall r) fun hr =>
      List.mem_singleton.1 hr ▸ attemptRecord_shaped _ _ _ _ _⟩
  exact ⟨⟨⟨hr, h.1.files.2⟩, h.1.system, hr, h.1.optimizations⟩, h.2⟩

section
variable {phase : Phase} (hs : ∃ code out, w.outcome phase = .exited code out)
include hs

theorem ready_launch (argv : List String) :
    Triple (Ready c sys kvs) (launch w phase argv) (fun _ => Ready c sys kvs) E := by
  obtain ⟨code, out, ho⟩ := hs
  unfold launch
  rw [ho]
  exact .bind (ready_emit _) fun _ => .pure _ fun _ h => h

theorem ready_runWindowsWithVcvars (cmd : List String) :
    Triple (Ready c sys kvs) (runWindowsWithVcvars w phase cmd) (fun _ => Ready c sys kvs) E := by
  refine .bind_eq (ready_configHas _) ?_
  cases hv : lookup kvs "vcvars_path" with
  | none => exact ready_launch w hs _
  | some v =>
    exact .get_bind fun _ _ => .bind_eq (ready_configItem hv) (.bind (ready_emit _) fun _ =>
      .bind (ready_launch w hs _) fun _ => .bind (ready_emit _) fun _ => .pure _ fun _ h => h)

theorem ready_execute (cmd : List String) :
    Triple (Ready c sys kvs) (execute w phase cmd) (fun _ => Ready c sys kvs) E :=
  .bind (ready_emit _) fun _ => .get_bind fun _ _ => by
    have hjp : ∀ b : Bool, Triple (Ready c sys kvs)
        (if b = true then runWindowsWithVcvars w phase cmd else launch w phase cmd) (fun _ => Ready c sys kvs) E :=
      fun _ => .ite (fun _ => ready_runWindowsWithVcvars w hs cmd) fun _ => ready_launch w hs cmd
    dsimp only
    exact .ite (fun _ => .bind ((ready_configHas _).conseq (fun _ h => h) (fun _ _ h => h.1) fun _ h => h) hjp)
      fun _ => .bind (.pure _ fun _ h => h) hjp

theorem ready_runRecorded (type banner : String) (cmd : List String) :
    Triple (Ready c sys kvs) (runRecorded w phase type banner cmd) (fun _ => Ready c sys kvs) E :=
  .bind (ready_emit _) fun _ => .bind (ready_execute w hs cmd) fun _ =>
    .bind (ready_recordAttempt w _ _ _ _) fun _ => .pure _ fun _ h => h

end

theorem ready_configure (hs : ∃ code out, w.outcome .configure = .exited code out) :
    Triple (Ready c sys kvs) (configure w) (fun _ => Ready c sys kvs) E :=
  .get_bind fun m h => by
    obtain ⟨args, ha⟩ := generateCmakeConfig_ok h.2.1 (h.1.system ▸ h.2.2)
    rw [ha]
    refine .bind_eq (.liftE_ok _) ?_
    rw [joinStrs_map_str]
    exact .bind_eq (.liftE_ok _) (.bind (ready_runRecorded w hs _ _ _) fun _ => .pure _ fun _ h => h)

theorem ready_raiseJobs (hw : w.cpuCount = c) :
    Triple (Ready c sys kvs) (raiseJobs w) (fun _ => Tuned c sys) E := fun s h => by
  obtain ⟨n, hn, h1, h2⟩ := h.2.2.jobs
  refine (Triple.bind_eq (ready_configItem hn) ?_) s h
  rw [add_int]
  refine .bind_eq (.liftE_ok _) ?_
  rw [min_int]
  exact .bind_eq (.liftE_ok _) (ready_setJobs (by omega) (by rw [hw]; omega))

theorem ready_lowerJobs : Triple (Ready c sys kvs) lowerJobs (fun _ => Tuned c sys) E := fun s h => by
  obtain ⟨n, hn, h1, h2⟩ := h.2.2.jobs
  refine (Triple.bind_eq (ready_configItem hn) ?_) s h
  rw [sub_int]
  refine .bind_eq (.liftE_ok _) ?_
  rw [max_int]
  exact .bind_eq (.liftE_ok _) (ready_setJobs (by omega) (by omega))

theorem ready_adjustParallelJobs (hw : w.cpuCount = c) {last : Json} {x : ℚ} (hl : last.num? = some x) (avg : ℚ) :
    Triple (Ready c sys kvs) (adjustParallelJobs w last avg) (fun _ => Tuned c sys) E := fun s h => by
  obtain ⟨n, hn, -, -⟩ := h.2.2.jobs
  obtain ⟨r1, h1⟩ : ∃ r, last.lt (.float (avg * (9 / 10))) = .ok r := ⟨_, lt_num hl rfl⟩
  obtain ⟨r2, h2⟩ : ∃ r, (Json.float (avg * (11 / 10))).lt last = .ok r := ⟨_, lt_num rfl hl⟩
  refine (show Triple (Ready c sys kvs) (adjustParallelJobs w last avg) _ _ from ?_) s h
  unfold adjustParallelJobs
  rw [h1]
  refine .bind_eq (.liftE_ok _) ?_
  cases r1
  · rw [h2]
    refine .bind_eq (.liftE_ok _) ?_
    cases r2
    · exact .pure _ fun s h => ⟨kvs, h⟩
    · refine .bind_eq (ready_configItem hn) ?_
      rw [lt_int]
      refine .bind_eq (.liftE_ok _) ?_
      exact .ite (fun _ => ready_lowerJobs) fun _ => .pure _ fun s h => ⟨kvs, h⟩
  · exact ready_raiseJobs w hw

theorem ready_adjustOnTrend (hw : w.cpuCount = c) {builds : List Json} (hb : ∀ b ∈ builds, Timed b) (total : Json) :
    Triple (Ready c sys kvs) (adjustOnTrend w builds total) (fun _ => Tuned c sys) E := by
  unfold adjustOnTrend
  refine .ite (fun hl => ?_) fun _ => .pure _ fun s h => ⟨kvs, h⟩
  cases builds with
  | nil => exact absurd hl (by simp)
  | cons b bs =>
    have hmem : (b :: bs).getLastD .null ∈ b :: bs := List.getLast_mem (List.cons_ne_nil b bs)
    obtain ⟨d, q, hd, hq⟩ := hb _ hmem
    rw [hd]
    exact .bind_eq (.liftE_ok _) (ready_adjustParallelJobs w hw hq _)

/-- Saving `self.config` as the platform's entry keeps the optimizations file shaped. -/
theorem ready_storeConfig : Triple (Ready c sys kvs) storeConfig (fun _ => Tuned c sys) E := fun s h => by
  obtain ⟨okvs, ho, hall⟩ := h.1.optimizations
  rw [storeConfig_run, ho, show s.mgr.config = _ from h.2.1, setItem_dict]
  have hopt : OptimizationsShaped c sys (.dict (setKey okvs s.mgr.system.key (.dict kvs))) :=
    ⟨_, rfl, fun e he => by
      rw [h.1.system, lookup_setKey_self, Option.some.injEq] at he
      exact ⟨kvs, he.symm, h.2.2⟩⟩
  exact ⟨kvs, ⟨⟨h.1.files.1, hopt⟩, h.1.system, h.1.history, hopt⟩, h.2⟩

theorem ready_analyzeAndOptimize (hw : w.cpuCount = c) :
    Triple (Ready c sys kvs) (analyzeAndOptimize w) (fun _ => Tuned c sys) E :=
  .get_bind fun m h => by
    obtain ⟨ys, hys, hall⟩ := lastTen_ok h.1.history
    obtain ⟨bs, hbs, hbt⟩ := successfulBuilds_ok hall
    rw [hys]
    refine .bind_eq (.liftE_ok _) ?_
    rw [hbs]
    refine .bind_eq (.liftE_ok _) (.ite (fun _ => .pure _ fun s h => ⟨kvs, h⟩) fun _ => ?_)
    obtain ⟨t, q, ht, -⟩ := sumDurations_ok hbt (rfl : (Json.int 0).num? = some 0)
    rw [ht]
    exact .bind_eq (.liftE_ok _) (.bind (ready_adjustOnTrend w hw hbt _) fun _ =>
      Triple.exists_pre fun _ => ready_storeConfig)

theorem ready_build (hw : w.cpuCount = c) (hs : ∃ code out, w.outcome .build = .exited code out) :
    Triple (Ready c sys kvs) (build w) (fun _ => Tuned c sys) E :=
  .get_bind fun m h => by
    obtain ⟨cmd, hcmd⟩ := generateBuildCommand_ok h.2.1 h.2.2.generator w.cpuCount
    rw [hcmd]
    exact .bind_eq (.liftE_ok _) (.bind (ready_runRecorded w hs _ _ _) fun _ =>
      .ite (fun _ => .bind (ready_analyzeAndOptimize w hw) fun _ => .pure _ fun _ h => h)
        fun _ => .pure _ fun s h => ⟨kvs, h⟩)

theorem ready_clean (hs : ∃ code out, w.outcome .clean = .exited code out) :
    Triple (Ready c sys kvs) (clean w) (fun _ => Ready c sys kvs) E :=
  .get_bind fun _ _ => .ite (fun _ => .ite (fun _ => .bind (ready_execute w hs _) fun _ => .pure _ fun _ h => h)
    fun _ => ready_emit _) fun _ => .pure _ fun _ h => h

/-- Every verb returns on a constructed manager. -/
theorem ready_runCommand (hw : w.cpuCount = c) (hb : Benign w) (cmd : String) :
    Triple (Ready c sys kvs) (runCommand w cmd) (fun _ => Tuned c sys) E := by
  have hdone : ∀ {α : Type} (x : Step α), Triple (Ready c sys kvs) x (fun _ => Ready c sys kvs) E →
      Triple (Ready c sys kvs) x (fun _ => Tuned c sys) E :=
    fun _ h => h.conseq (fun _ h => h) (fun _ s h => ⟨kvs, h⟩) fun _ h => h
  refine .ite (fun _ => hdone _ (ready_configure w (hb.starts _))) fun _ => .ite (fun _ => ?_) fun _ =>
    .ite (fun _ => ?_) fun _ => .ite (fun _ => ?_) fun _ => .ite (fun _ => ?_) fun _ => ?_
  · exact .bind (ready_configure w (hb.starts _)) fun _ =>
      .ite (fun _ => ready_build w hw (hb.starts _)) fun _ => .pure _ fun s h => ⟨kvs, h⟩
  · exact hdone _ (.bind (ready_clean w (hb.starts _)) fun _ => .pure _ fun _ h => h)
  · exact hdone _ (.bind (.get_bind fun _ _ => .bind (ready_emit _) fun _ => ready_emit _) fun _ =>
      .pure _ fun _ h => h)
  · exact hdone _ (.bind (.get_bind fun _ _ => .bind (ready_emit _) fun _ => ready_emit _) fun _ =>
      .pure _ fun _ h => h)
  · exact hdone _ (.bind (ready_emit _) fun _ => .pure _ fun _ h => h)

end

/-! ## A whole run -/

/-- A shaped optimizations file keeps the job count in range. -/
theorem storeOk_of_shaped {st : Stored} (h : StoredShaped (OptimizationsShaped c sys) st) : StoreOk c sys st := by
  cases st with
  | doc v =>
    obtain ⟨okvs, rfl, hall⟩ := h
    intro e he
    obtain ⟨kvs, rfl, hk⟩ := hall e he
    obtain ⟨n, hn, h1, h2⟩ := hk.jobs
    intro p hp
    rw [field?_dict, hn, Option.some.injEq] at hp
    subst hp
    exact ⟨h1, h2⟩
  | _ => trivial

theorem mainBody_shaped (hc : 1 ≤ c) (w : World) (hw : w.cpuCount = c) (hb : Benign w)
    (hsys : sys = .windows ∨ sys = .linux ∨ sys = .darwin) (args : List String) (root : String) {host : Host}
    (hh : HostShaped c sys host) :
    Triple (· = ⟨host, BuildManager.fresh root sys⟩) (mainBody w args) (fun _ s => HostShaped c sys s.host)
      (fun _ => False) := by
  refine .bind (init_ready hc w hw hb hsys root hh) fun _ => Triple.exists_pre fun kvs => ?_
  split
  · exact .bind (ready_emit _) fun _ => .pure _ fun _ h => h.1.files
  · exact .bind (ready_runCommand w hw hb _) fun _ => .pure _ fun _ ⟨_, h⟩ => h.1.files

end DrogonBuild.Manager.Shapes
