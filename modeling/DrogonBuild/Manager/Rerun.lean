import DrogonBuild.Manager.Overlay

/-!
# A second run on an unchanged machine

What the detection writes depends only on the machine and, on windows, on the
entry's `vs_path`; it never reads or writes `parallel_jobs`. On an entry it has
produced it therefore writes back what is already there, whatever job count
`_analyze_and_optimize` stored in the entry since: a run on an unchanged machine
starts from exactly the entry the previous build saved. (A changed machine does
not undo a saved fallback, as `makefiles_fallback_outlives_ninja` shows.)
-/

namespace DrogonBuild.Manager

open Json

/-! ## The detection is blind to `parallel_jobs` -/

/-- An overlay that neither reads nor writes `parallel_jobs` of an entry that has one. -/
def JobsBlind (f : List (String × Json) → List (String × Json)) : Prop :=
  ∀ kvs p, (lookup kvs "parallel_jobs").isSome →
    f (setKey kvs "parallel_jobs" p) = setKey (f kvs) "parallel_jobs" p ∧ (lookup (f kvs) "parallel_jobs").isSome

namespace JobsBlind

theorem keep : JobsBlind fun kvs => kvs := fun _ _ h => ⟨rfl, h⟩

theorem comp {f g : List (String × Json) → List (String × Json)} (hf : JobsBlind f) (hg : JobsBlind g) :
    JobsBlind (f ∘ g) := fun kvs p h => by
  obtain ⟨hg1, hg2⟩ := hg kvs p h
  obtain ⟨hf1, hf2⟩ := hf (g kvs) p hg2
  exact ⟨by simp only [Function.comp, hg1, hf1], hf2⟩

theorem set {key : String} (hk : key ≠ "parallel_jobs") (v : Json) : JobsBlind fun kvs => setKey kvs key v :=
  fun kvs p h => ⟨(setKey_comm hk h v p).symm, by rwa [lookup_setKey_ne kvs v hk]⟩

end JobsBlind

section
variable (w : World)

theorem probeOverlay_jobsBlind {tool versionKey hasKey : String} (hv : versionKey ≠ "parallel_jobs")
    (hh : hasKey ≠ "parallel_jobs") : JobsBlind (probeOverlay w tool versionKey hasKey) := by
  intro kvs p h
  cases hp : w.probe tool <;> simp only [probeOverlay, hp]
  · exact JobsBlind.set hh _ kvs p h
  · exact JobsBlind.set hh _ kvs p h
  · exact ((JobsBlind.set hh _).comp (JobsBlind.set hv _)) kvs p h

theorem clangOverlay_jobsBlind : JobsBlind (clangOverlay w) := by
  intro kvs p h
  by_cases hc : (!toolFound w "gcc" && toolFound w "clang") = true <;> simp only [clangOverlay, hc]
  · exact JobsBlind.set (by decide) _ kvs p h
  · exact ⟨rfl, h⟩

theorem ninjaOverlay_jobsBlind {f : List (String × Json) → List (String × Json)} (hf : JobsBlind f) :
    JobsBlind (ninjaOverlay w f) := by
  intro kvs p h
  by_cases hn : ninjaFound w = true <;> simp only [ninjaOverlay, hn]
  · exact JobsBlind.set (by decide) _ kvs p h
  · exact (hf.comp (JobsBlind.set (by decide) _)) kvs p h

theorem vsFallback_jobsBlind : JobsBlind vsFallback := by
  intro kvs p h
  unfold vsFallback
  rw [lookup_setKey_ne kvs p (by decide : "parallel_jobs" ≠ "vs_path")]
  cases lookup kvs "vs_path" with
  | none => exact ⟨rfl, h⟩
  | some v =>
    dsimp only
    cases v.contains "2022" with
    | ok b => exact JobsBlind.set (by decide) _ kvs p h
    | error _ => exact ⟨rfl, h⟩

theorem vsOverlay_jobsBlind : JobsBlind (vsOverlay w) := by
  intro kvs p h
  unfold vsOverlay
  rw [lookup_setKey_ne kvs p (by decide : "parallel_jobs" ≠ "vs_path")]
  cases vsPick w (lookup kvs "vs_path").isSome (vsPaths w) with
  | none => exact ⟨rfl, h⟩
  | some pe =>
    exact ((JobsBlind.set (by decide) _).comp ((JobsBlind.set (by decide) _).comp
      (JobsBlind.set (by decide) _))) kvs p h

theorem detectOverlay_jobsBlind (sys : Platform) : JobsBlind (detectOverlay w sys) := by
  cases sys with
  | windows => exact (ninjaOverlay_jobsBlind w (vsFallback_jobsBlind)).comp (vsOverlay_jobsBlind w)
  | linux =>
    exact (ninjaOverlay_jobsBlind w (JobsBlind.set (by decide) _)).comp ((clangOverlay_jobsBlind w).comp
      ((probeOverlay_jobsBlind w (by decide) (by decide)).comp (probeOverlay_jobsBlind w (by decide) (by decide))))
  | darwin =>
    exact (ninjaOverlay_jobsBlind w (JobsBlind.set (by decide) _)).comp
      (probeOverlay_jobsBlind w (by decide) (by decide))
  | other _ => exact JobsBlind.keep

/-! ## On its own output the detection writes what is there -/

/-- A probe writes nothing new into an entry that already holds what it writes. -/
theorem probeOverlay_fix {tool versionKey hasKey : String} (hne : versionKey ≠ hasKey)
    {kvs : List (String × Json)} (kvs₀ : List (String × Json))
    (hv : lookup kvs versionKey = lookup (probeOverlay w tool versionKey hasKey kvs₀) versionKey)
    (hh : lookup kvs hasKey = lookup (probeOverlay w tool versionKey hasKey kvs₀) hasKey) :
    probeOverlay w tool versionKey hasKey kvs = kvs := by
  cases hp : w.probe tool <;>
    simp only [probeOverlay, hp, lookup_setKey_self, lookup_setKey_ne _ _ hne.symm] at hv hh ⊢
  · exact setKey_of_lookup hh
  · exact setKey_of_lookup hh
  · rw [setKey_of_lookup hv, setKey_of_lookup hh]

theorem clangOverlay_fix {kvs : List (String × Json)} (kvs₀ : List (String × Json))
    (h : lookup kvs "compiler" = lookup (clangOverlay w kvs₀) "compiler") : clangOverlay w kvs = kvs := by
  by_cases hc : (!toolFound w "gcc" && toolFound w "clang") = true <;>
    simp only [clangOverlay, hc, if_true, lookup_setKey_self] at h ⊢
  · exact setKey_of_lookup h
  · rfl

/-- The ninja check is idempotent when its fallback is and leaves `has_ninja` alone. -/
theorem ninjaOverlay_idem {f : List (String × Json) → List (String × Json)} (hf : ∀ kvs, f (f kvs) = f kvs)
    (hn : ∀ kvs, lookup (f kvs) "has_ninja" = lookup kvs "has_ninja") (kvs : List (String × Json)) :
    ninjaOverlay w f (ninjaOverlay w f kvs) = ninjaOverlay w f kvs := by
  by_cases h : ninjaFound w = true <;> simp only [ninjaOverlay, h, if_true, setKey_setKey_self]
  · simp only [Bool.false_eq_true, if_false]
    rw [setKey_of_lookup (by rw [hn, lookup_setKey_self]), hf]

theorem vsFallback_idem (kvs : List (String × Json)) : vsFallback (vsFallback kvs) = vsFallback kvs := by
  cases hv : lookup kvs "vs_path" with
  | none => simp [vsFallback, hv]
  | some v => cases hc : v.contains "2022" <;> simp [vsFallback, hv, hc]

/-- Once a pair is recorded, the search of a later run either finds it again or
finds nothing. -/
theorem vsPick_again {hasVs : Bool} {roots : List String} {pe : String × String}
    (h : vsPick w hasVs roots = some pe) : vsPick w true roots = none ∨ vsPick w true roots = some pe := by
  cases hasVs
  · unfold vsPick at h ⊢
    simp only [Bool.false_eq_true, if_false, if_true] at h ⊢
    generalize existingRoots w roots = rs at h ⊢
    cases rs with
    | nil => cases h
    | cons r rs =>
      simp only [firstPair, List.take, List.findSome?_cons, List.findSome?_nil] at h ⊢
      revert h
      cases editions.find? fun e => w.pathExists (vcvarsPath r e) with
      | none => exact fun _ => .inl rfl
      | some e => exact .inr
  · exact .inr h

theorem lookup_recordVs_vsEdition {kvs : List (String × Json)} (pick : Option (String × String)) :
    lookup (recordVs pick kvs) "vs_edition" = (pick.map fun pe => Json.str pe.2).or (lookup kvs "vs_edition") := by
  cases pick <;> simp [recordVs]

theorem detectOverlay_vsEdition_windows {kvs : List (String × Json)} :
    lookup (detectOverlay w .windows kvs) "vs_edition" =
      ((vsPick w (lookup kvs "vs_path").isSome (vsPaths w)).map fun pe => .str pe.2).or (lookup kvs "vs_edition") := by
  simp [detectOverlay, lookup_ninjaOverlay, vsOverlay, lookup_recordVs_vsEdition]

/-- On windows the search, run on its own output, records nothing new. -/
theorem vsOverlay_fix (kvs : List (String × Json)) :
    vsOverlay w (detectOverlay w .windows kvs) = detectOverlay w .windows kvs := by
  unfold vsOverlay
  rw [detectOverlay_vsPath_windows]
  cases hp : vsPick w (lookup kvs "vs_path").isSome (vsPaths w) with
  | none => rw [Option.map_none', Option.none_or, hp, recordVs_none]
  | some pe =>
    rw [Option.map_some', Option.or_some, Option.isSome_some]
    rcases vsPick_again w hp with h | h <;> rw [h]
    · rfl
    · obtain ⟨r, e⟩ := pe
      simp only [recordVs]
      have h1 : lookup (detectOverlay w .windows kvs) "vs_path" = some (.str r) := by
        rw [detectOverlay_vsPath_windows, hp]; rfl
      have h2 : lookup (detectOverlay w .windows kvs) "vcvars_path" = some (.str (vcvarsPath r e)) := by
        rw [detectOverlay_vcvarsPath_windows, hp]; rfl
      have h3 : lookup (detectOverlay w .windows kvs) "vs_edition" = some (.str e) := by
        rw [detectOverlay_vsEdition_windows, hp]; rfl
      rw [setKey_of_lookup h1, setKey_of_lookup h2, setKey_of_lookup h3]

/-- Detecting again on the same machine changes nothing. -/
theorem detectOverlay_idem (sys : Platform) (kvs : List (String × Json)) :
    detectOverlay w sys (detectOverlay w sys kvs) = detectOverlay w sys kvs := by
  have hmk : ∀ kvs, makefilesFallback (makefilesFallback kvs) = makefilesFallback kvs := fun _ =>
    setKey_setKey_self _ _ _ _
  have hmn : ∀ kvs, lookup (makefilesFallback kvs) "has_ninja" = lookup kvs "has_ninja" := fun _ =>
    lookup_setKey_ne _ _ (by decide)
  cases sys with
  | windows =>
    show ninjaOverlay w vsFallback (vsOverlay w (detectOverlay w .windows kvs)) = _
    rw [vsOverlay_fix]
    exact ninjaOverlay_idem w vsFallback_idem (fun _ => lookup_vsFallback_ne (by decide)) _
  | linux =>
    show ninjaOverlay w makefilesFallback (clangOverlay w (probeOverlay w "clang" "clang_version" "has_clang"
      (probeOverlay w "gcc" "gcc_version" "has_gcc" (detectOverlay w .linux kvs)))) = _
    -- the gcc probe, the clang probe and the choice of clang each find their keys already written
    rw [probeOverlay_fix w (by decide : "gcc_version" ≠ "has_gcc") kvs ?_ ?_,
      probeOverlay_fix w (by decide : "clang_version" ≠ "has_clang") (probeOverlay w "gcc" "gcc_version" "has_gcc" kvs)
        ?_ ?_, clangOverlay_fix w (probeOverlay w "clang" "clang_version" "has_clang"
          (probeOverlay w "gcc" "gcc_version" "has_gcc" kvs)) ?_]
    · exact ninjaOverlay_idem w hmk hmn _
    all_goals simp [detectOverlay, lookup_ninjaOverlay, makefilesFallback]
  | darwin =>
    show ninjaOverlay w makefilesFallback (probeOverlay w "clang" "clang_version" "has_clang"
      (detectOverlay w .darwin kvs)) = _
    rw [probeOverlay_fix w (by decide : "clang_version" ≠ "has_clang") kvs ?_ ?_]
    · exact ninjaOverlay_idem w hmk hmn _
    all_goals simp [detectOverlay, lookup_ninjaOverlay, makefilesFallback]
  | other _ => rfl

/-- An entry the detection produced, with any job count stored into it since, is
left exactly as it is by the detection. -/
theorem detectOverlay_stored (sys : Platform) {kvs : List (String × Json)}
    (hj : (lookup kvs "parallel_jobs").isSome) (p : Json) :
    detectOverlay w sys (setKey (detectOverlay w sys kvs) "parallel_jobs" p) =
      setKey (detectOverlay w sys kvs) "parallel_jobs" p := by
  rw [(detectOverlay_jobsBlind w sys _ p (detectOverlay_jobsBlind w sys kvs p hj).2).1, detectOverlay_idem]

end

/-- A run whose loaded entry is one the detection produced on this machine, with
whatever job count `_analyze_and_optimize` stored into it since, starts with
exactly that entry as `self.config` whenever the constructor returns. -/
theorem rerun_starts_from_stored_entry (w : World) (host : Host) (root : String) {sys : Platform}
    {kvs : List (String × Json)} (hj : (lookup kvs "parallel_jobs").isSome) (p : Json)
    (he : loadedEntry w.cpuCount sys host.optimizations =
      .dict (setKey (detectOverlay w sys kvs) "parallel_jobs" p))
    {s : Proc} (h : init w ⟨host, BuildManager.fresh root sys⟩ = .ok () s) :
    s.mgr.config = .dict (setKey (detectOverlay w sys kvs) "parallel_jobs" p) := by
  have hc := init_cfg w he (.inr trivial) (fun _ _ => trivial) (fun _ _ _ _ _ => trivial)
    (⟨host, BuildManager.fresh root sys⟩ : Proc) ⟨rfl, rfl⟩
  rw [h] at hc
  rw [show s.mgr.config = _ from hc, detectOverlay_stored w sys hj p]

/-- The linux entry the detection of `gccOnlyWorld` makes of `[("parallel_jobs", 4)]`,
with the job count then raised to 5. -/
def rerunEntry : List (String × Json) :=
  setKey (detectOverlay gccOnlyWorld .linux [("parallel_jobs", .int 4)]) "parallel_jobs" (.int 5)

/-- A machine whose optimizations file holds `rerunEntry` for linux. -/
def rerunHost : Host := ⟨.absent, .doc (.dict [("linux", .dict rerunEntry)]), []⟩

theorem rerun_starts_from_stored_entry_linux :
    ∃ s, init gccOnlyWorld ⟨rerunHost, BuildManager.fresh "/work" .linux⟩ = .ok () s ∧
      s.mgr.config = .dict rerunEntry :=
  ⟨_, rfl, rerun_starts_from_stored_entry gccOnlyWorld rerunHost "/work"
    (rfl : (lookup [("parallel_jobs", .int 4)] "parallel_jobs").isSome = true) (.int 5)
    (rfl : loadedEntry 4 .linux rerunHost.optimizations = .dict rerunEntry) rfl⟩

end DrogonBuild.Manager
