import Mathlib.Algebra.Order.Field.Rat
import Mathlib.Tactic.NormNum.Ineq
import Mathlib.Data.List.Forall2
import DrogonBuild.Manager.Dispatch

/-!
# The trend rule, on numbers

`_analyze_and_optimize` keeps the successful builds among the last ten records
of the history and moves `parallel_jobs` by one when the newest of them took
well under or well over their mean. The rule is stated here once on plain
numbers, over attempts that carry only what the rule reads, and the script's
computation on JSON values is shown to compute it: from a history whose records
hold those fields, `_analyze_and_optimize` never raises, sets the job count to
the rule's value and stores the platform's entry, or, with no successful build
among the last ten records, changes nothing. The mean includes the build that
has just been recorded.
-/

namespace DrogonBuild.Manager.Trend

open Json

/-- One recorded attempt as the heuristic sees it. -/
structure Attempt where
  type : String
  success : Bool
  duration : ℚ
  deriving DecidableEq, Repr

/-- An attempt counts when it is a successful build. -/
def Attempt.counts (a : Attempt) : Bool := a.type == "build" && a.success

/-- The durations the rule averages, oldest first: those of the successful
builds among the last ten attempts. -/
def qualifying (hist : List Attempt) : List ℚ :=
  ((hist.drop (hist.length - 10)).filter Attempt.counts).map Attempt.duration

/-- One step of the rule from `p` jobs on `c` cores, for the newest duration
`last` against the mean `avg`. -/
def trendRule (c : Nat) (p : Int) (last avg : ℚ) : Int :=
  if last < avg * (9 / 10) then min (p + 1) (c * 2 : Nat)
  else if avg * (11 / 10) < last ∧ 1 < p then max (p - 1) 1
  else p

/-- The job count after the heuristic: the rule applies from three qualifying
durations on. -/
def trendJobs (c : Nat) (p : Int) (ds : List ℚ) : Int :=
  if 3 ≤ ds.length then trendRule c p (ds.getLastD 0) (ds.sum / ds.length) else p

/-- The rule moves a job count of `[1, 2c]` by at most one and keeps it there. -/
theorem trendRule_bounds {c : Nat} {p : Int} (hp : 1 ≤ p ∧ p ≤ (c * 2 : Nat)) (last avg : ℚ) :
    p - 1 ≤ trendRule c p last avg ∧ trendRule c p last avg ≤ p + 1 ∧
      1 ≤ trendRule c p last avg ∧ trendRule c p last avg ≤ (c * 2 : Nat) := by
  unfold trendRule
  split_ifs <;> omega

theorem trendJobs_bounds {c : Nat} {p : Int} (hp : 1 ≤ p ∧ p ≤ (c * 2 : Nat)) (ds : List ℚ) :
    p - 1 ≤ trendJobs c p ds ∧ trendJobs c p ds ≤ p + 1 ∧
      1 ≤ trendJobs c p ds ∧ trendJobs c p ds ≤ (c * 2 : Nat) := by
  unfold trendJobs
  split
  · exact trendRule_bounds hp _ _
  · omega

example : trendJobs 4 4 [100, 100, 100, 80] = 5 := by norm_num [trendJobs, trendRule]

example : trendJobs 4 4 [100, 100, 100, 115] = 3 := by norm_num [trendJobs, trendRule]

/-! ## The script's records -/

/-- `b["duration"]` is a number of value `d`. -/
def TimedAt (b : Json) (d : ℚ) : Prop := ∃ v, b.field? "duration" = some v ∧ v.num? = some d

/-- The record `b` reads as the attempt `a` where the script reads it: its
`type`, the `success` of a build, the `duration` of a successful build. -/
structure Reads (b : Json) (a : Attempt) : Prop where
  type : b.field? "type" = some (.str a.type)
  success : a.type = "build" → ∃ v, b.field? "success" = some v ∧ v.truthy = a.success
  duration : a.counts → TimedAt b a.duration

/-- The smallest record that reads as `a`. -/
def Attempt.record (a : Attempt) : Json :=
  .dict [("type", .str a.type), ("success", .bool a.success), ("duration", .float a.duration)]

theorem Attempt.record_reads (a : Attempt) : Reads a.record a :=
  ⟨rfl, fun _ => ⟨_, rfl, rfl⟩, fun _ => ⟨_, rfl, rfl⟩⟩

/-- Every record `configure` and `build` append reads as its attempt. -/
theorem attemptRecord_reads (stamp type : String) (cmd : List String) (code : Int) (clock : ℚ × ℚ) :
    Reads (attemptRecord stamp type cmd code clock) ⟨type, code == 0, clock.2 - clock.1⟩ :=
  ⟨rfl, fun _ => ⟨_, rfl, rfl⟩, fun _ => ⟨_, rfl, rfl⟩⟩

/-- The filter of the script keeps the records of the successful builds, and their durations
are those of the abstract filter. -/
theorem successfulBuilds_reads {bs : List Json} {as : List Attempt} (h : List.Forall₂ Reads bs as) :
    ∃ qs, successfulBuilds bs = .ok qs ∧
      List.Forall₂ TimedAt qs ((as.filter Attempt.counts).map Attempt.duration) := by
  induction h with
  | nil => exact ⟨[], rfl, .nil⟩
  | @cons b a bs as hb _ ih =>
    obtain ⟨qs, hqs, hr⟩ := ih
    have ht := getItem_of_field? hb.type
    by_cases hbuild : a.type = "build"
    · obtain ⟨v, hv, htr⟩ := hb.success hbuild
      have hc : a.counts = a.success := by simp [Attempt.counts, hbuild]
      refine ⟨if a.success then b :: qs else qs, ?_, ?_⟩
      · simp [successfulBuilds, ht, getItem_of_field? hv, htr, eqStr, hbuild, hqs, bind, Except.bind,
          pure, Except.pure]
      · cases hs : a.success
        · simpa [List.filter_cons, hc, hs] using hr
        · simpa [List.filter_cons, hc, hs] using List.Forall₂.cons (hb.duration (hc.trans hs)) hr
    · have hc : a.counts = false := by simp [Attempt.counts, hbuild]
      refine ⟨qs, ?_, by simpa [List.filter_cons, hc] using hr⟩
      simp [successfulBuilds, ht, eqStr, hbuild, hqs, bind, Except.bind, pure, Except.pure]

theorem sumDurations_timed {qs : List Json} {ds : List ℚ} (h : List.Forall₂ TimedAt qs ds)
    {acc : Json} {x : ℚ} (ha : acc.num? = some x) :
    ∃ t, sumDurations acc qs = .ok t ∧ t.num? = some (x + ds.sum) := by
  induction h generalizing acc x with
  | nil => exact ⟨acc, rfl, by simpa using ha⟩
  | @cons b d qs ds hb _ ih =>
    obtain ⟨v, hv, hd⟩ := hb
    obtain ⟨r, hr, hrx⟩ := add_num ha hd
    obtain ⟨t, ht, htx⟩ := ih hrx
    refine ⟨t, by simp [sumDurations, getItem_of_field? hv, hr, ht, bind, Except.bind], ?_⟩
    rw [htx, List.sum_cons, add_assoc]

/-- The newest of a non-empty list of related values is related to the newest of the other. -/
theorem forall₂_getLastD {α β : Type} {R : α → β → Prop} {l₁ : List α} {l₂ : List β}
    (h : List.Forall₂ R l₁ l₂) (hne : l₁ ≠ []) (d₁ : α) (d₂ : β) : R (l₁.getLastD d₁) (l₂.getLastD d₂) := by
  induction h with
  | nil => exact absurd rfl hne
  | @cons a b l₁ l₂ hab ht ih =>
    cases ht with
    | nil => exact hab
    | cons hab' ht' =>
      simpa only [List.getLastD_cons] using ih (List.cons_ne_nil _ _)

/-! ## The script computes the rule -/

section
variable (w : World) {s : Proc} {kvs : List (String × Json)} {p : Int}

/-- `self.config["parallel_jobs"]` of an entry holding the integer `p`. -/
theorem configItem_jobs (hc : s.mgr.config = .dict kvs) (hp : lookup kvs "parallel_jobs" = some (.int p)) :
    configItem "parallel_jobs" s = .ok (.int p) s := by
  rw [configItem_run, hc, getItem_dict_ok.2 hp]

theorem setConfigItem_dict (hc : s.mgr.config = .dict kvs) (key : String) (v : Json) :
    setConfigItem key v s = .ok () (s.withConfig (.dict (setKey kvs key v))) := by
  rw [setConfigItem_run, hc]
  rfl

theorem raiseJobs_run (hc : s.mgr.config = .dict kvs) (hp : lookup kvs "parallel_jobs" = some (.int p)) :
    raiseJobs w s = .ok () (s.withConfig (.dict (setKey kvs "parallel_jobs"
      (.int (min (p + 1) (w.cpuCount * 2 : Nat)))))) := by
  unfold raiseJobs
  rw [run_bind_ok _ (configItem_jobs hc hp), add_int, liftE_ok_bind, min_int, liftE_ok_bind]
  exact setConfigItem_dict hc _ _

theorem lowerJobs_run (hc : s.mgr.config = .dict kvs) (hp : lookup kvs "parallel_jobs" = some (.int p)) :
    lowerJobs s = .ok () (s.withConfig (.dict (setKey kvs "parallel_jobs" (.int (max (p - 1) 1))))) := by
  unfold lowerJobs
  rw [run_bind_ok _ (configItem_jobs hc hp), sub_int, liftE_ok_bind, max_int, liftE_ok_bind]
  exact setConfigItem_dict hc _ _

theorem withConfig_jobs_self (hc : s.mgr.config = .dict kvs) (hp : lookup kvs "parallel_jobs" = some (.int p)) :
    s.withConfig (.dict (setKey kvs "parallel_jobs" (.int p))) = s := by
  rw [setKey_of_lookup hp, ← hc]
  rfl

/-- One trend step on an entry holding the integer `p` sets the rule's value. -/
theorem adjustParallelJobs_run (hc : s.mgr.config = .dict kvs)
    (hp : lookup kvs "parallel_jobs" = some (.int p)) {last : Json} {x : ℚ} (hl : last.num? = some x)
    (avg : ℚ) : adjustParallelJobs w last avg s =
      .ok () (s.withConfig (.dict (setKey kvs "parallel_jobs" (.int (trendRule w.cpuCount p x avg))))) := by
  unfold adjustParallelJobs trendRule
  rw [lt_num hl (rfl : (Json.float (avg * (9 / 10))).num? = _), liftE_ok_bind]
  by_cases hfast : x < avg * (9 / 10)
  · simp only [hfast, decide_True, if_true]
    exact raiseJobs_run w hc hp
  · simp only [hfast, decide_False, if_false, Bool.false_eq_true]
    rw [lt_num (rfl : (Json.float (avg * (11 / 10))).num? = _) hl, liftE_ok_bind]
    by_cases hslow : avg * (11 / 10) < x
    · simp only [hslow, decide_True, if_true, true_and]
      rw [run_bind_ok _ (configItem_jobs hc hp), lt_int, liftE_ok_bind]
      by_cases hp1 : 1 < p
      · simp only [hp1, decide_True, if_true]
        exact lowerJobs_run hc hp
      · simp only [hp1, decide_False, if_false, Bool.false_eq_true]
        rw [withConfig_jobs_self hc hp]
        rfl
    · simp only [hslow, decide_False, if_false, Bool.false_eq_true, false_and]
      rw [withConfig_jobs_self hc hp]
      rfl

/-- The trend step on the records of the successful builds sets the rule's value. -/
theorem adjustOnTrend_run (hc : s.mgr.config = .dict kvs) (hp : lookup kvs "parallel_jobs" = some (.int p))
    {qs : List Json} {ds : List ℚ} (hq : List.Forall₂ TimedAt qs ds) (hne : qs ≠ [])
    {t : Json} (ht : t.num? = some ds.sum) : adjustOnTrend w qs t s =
      .ok () (s.withConfig (.dict (setKey kvs "parallel_jobs" (.int (trendJobs w.cpuCount p ds))))) := by
  unfold adjustOnTrend trendJobs
  rw [hq.length_eq]
  split
  · obtain ⟨v, hv, hlast⟩ := forall₂_getLastD hq hne .null 0
    rw [getItem_of_field? hv, liftE_ok_bind, ht, Option.getD_some]
    exact adjustParallelJobs_run w hc hp hlast _
  · rw [withConfig_jobs_self hc hp]
    rfl

end

/-- The state `_analyze_and_optimize` leaves once it has computed the entry `cfg`:
`self.config` and the platform's entry of the optimizations hold it, and the
optimizations file holds the document. -/
def storedEntry (s : Proc) (okvs : List (String × Json)) (cfg : Json) : Proc :=
  ((s.withConfig cfg).withOptimizations (.dict (setKey okvs s.mgr.system.key cfg))).saveOptimizations

/-- The attempts of three builds of 100 s and a fourth of 80 s. -/
def fourBuilds : List Attempt := [100, 100, 100, 80].map fun d => ⟨"build", true, d⟩

/-- A linux manager holding records of `fourBuilds`, four jobs and no optimizations yet. -/
def fourBuildsProc : Proc :=
  ⟨⟨.absent, .absent, []⟩, ⟨"/work", .linux,
    .list (fourBuilds.map Attempt.record), .dict [], .dict [("parallel_jobs", .int 4)]⟩⟩

end DrogonBuild.Manager.Trend
