import DrogonBuild.Manager.Execute

/-!
# A command that starts leaves exactly one record

`configure` and `build` append their record after the command has returned,
and save the history at once. A command that cannot be generated or started
raises before that, and the history, in memory and on disk, stays as it was.
The duration is the difference of the two clock readings taken around the
command, so it is only as monotone as the wall clock.
-/

namespace DrogonBuild.Manager

open Json

/-- The history in memory is the list `hist` and its file holds `file`. -/
def HistoryAt (hist : List Json) (file : Stored) (s : Proc) : Prop :=
  s.mgr.buildHistory = .list hist ∧ s.host.history = file

/-- The history `hist`, in memory and saved. -/
def Saved (hist : List Json) : Proc → Prop := HistoryAt hist (.doc (.list hist))

/-- The record of the command `cmd` of `phase` that exited with `code`. -/
def recordOf (w : World) (phase : Phase) (type : String) (cmd : List String) (code : Int) : Json :=
  attemptRecord (w.stamp phase) type cmd code (w.clock phase)

variable {hist : List Json} {file : Stored}

theorem historyAt_execStable (phase : Phase) (cmd : List String) :
    ExecStable (HistoryAt hist file) phase cmd :=
  ⟨fun _ h => h, fun _ _ h => h, fun _ _ _ h => h, fun _ _ h => h⟩

theorem historyAt_tuneStable {A : Prop} {hist : List Json} {file : Stored} :
    TuneStable fun s => A ∧ HistoryAt hist file s :=
  ⟨fun _ _ h => h, fun _ _ h => h, fun _ h => h⟩

/-- Print, run, record: a started command gives exactly one saved record. -/
theorem runRecorded_records (w : World) (phase : Phase) (type banner : String) (cmd : List String) :
    Triple (HistoryAt hist file) (runRecorded w phase type banner cmd)
      (fun code s => exitsWith w phase code ∧ Saved (hist ++ [recordOf w phase type cmd code]) s)
      (HistoryAt hist file) :=
  .bind_yields (Keeps.yields fun _ h => h) (fun _ _ =>
    .bind_yields (execute_yields (historyAt_execStable phase cmd) w) (fun code hc s hs => by
      rw [run_bind_ok _ (recordAttempt_run w phase type cmd code s hs.1)]
      exact ⟨hc, rfl, rfl⟩) fun _ h => h) fun _ h => h

theorem configure_records (w : World) :
    Triple (HistoryAt hist file) (configure w)
      (fun ok s => ∃ cmd code, exitsWith w .configure code ∧ ok = (code == 0) ∧
        Saved (hist ++ [recordOf w .configure "configure" cmd code]) s)
      (HistoryAt hist file) :=
  .bind_yields Keeps.get.yields (fun _ _ => .bind_yields (Keeps.liftE _).yields (fun _ _ =>
    .bind_yields (Keeps.liftE _).yields (fun cmd _ => .bind (runRecorded_records w _ _ _ cmd) fun code =>
      .pure _ fun _ h => ⟨cmd, code, h.1, rfl, h.2⟩) fun _ h => h) fun _ h => h) fun _ h => h

/-- `build` records as `configure` does; the analysis that follows a build
exiting 0 may still raise, after the record is saved. -/
theorem build_records (w : World) :
    Triple (HistoryAt hist file) (build w)
      (fun ok s => ∃ cmd code, exitsWith w .build code ∧ ok = (code == 0) ∧
        Saved (hist ++ [recordOf w .build "build" cmd code]) s)
      (fun s => HistoryAt hist file s ∨
        ∃ cmd, exitsWith w .build 0 ∧ Saved (hist ++ [recordOf w .build "build" cmd 0]) s) :=
  .bind_yields Keeps.get.yields (fun _ _ => .bind_yields (Keeps.liftE _).yields (fun cmd _ =>
    .bind ((runRecorded_records w _ _ _ cmd).conseq (fun _ h => h) (fun _ _ h => h) fun _ => .inl)
      fun code => .ite
        (fun h0 => .bind (Triple.of_keeps (analyzeAndOptimize_keeps historyAt_tuneStable w)
            fun _ h => .inr ⟨cmd, beq_iff_eq.mp h0 ▸ h.1, beq_iff_eq.mp h0 ▸ h.2⟩)
          fun _ => .pure _ fun _ h => ⟨cmd, code, h.1, h0.symm, h.2⟩)
        fun h0 => .pure _ fun _ h => ⟨cmd, code, h.1, by simpa using h0, h.2⟩)
    fun _ => .inl) fun _ => .inl

theorem saved_append {a b : Json} {s : Proc} (h : Saved (hist ++ [a] ++ [b]) s) : Saved (hist ++ [a, b]) s := by
  rwa [List.append_assoc] at h

/-- `run_command("build")`: one configure record, then one build record exactly
when configure exited 0 and the build command started. -/
theorem runCommand_build_records (w : World) :
    Triple (HistoryAt hist file) (runCommand w "build")
      (fun ok s => ∃ cmd code, exitsWith w .configure code ∧
        if code = 0 then ∃ bcmd bcode, exitsWith w .build bcode ∧ ok = (bcode == 0) ∧
          Saved (hist ++ [recordOf w .configure "configure" cmd 0, recordOf w .build "build" bcmd bcode]) s
        else ok = false ∧ Saved (hist ++ [recordOf w .configure "configure" cmd code]) s)
      (fun s => HistoryAt hist file s ∨ ∃ cmd, exitsWith w .configure 0 ∧
        (Saved (hist ++ [recordOf w .configure "configure" cmd 0]) s ∨ ∃ bcmd, exitsWith w .build 0 ∧
          Saved (hist ++ [recordOf w .configure "configure" cmd 0, recordOf w .build "build" bcmd 0]) s)) := by
  show Triple _ (configure w >>= fun ok => if ok then build w else pure false) _ _
  refine .bind ((configure_records w).conseq (fun _ h => h) (fun _ _ h => h) fun _ => .inl) fun _ => ?_
  intro s ⟨cmd, code, hc, hok, hs⟩
  subst hok
  by_cases h0 : code = 0
  · subst h0
    simp only [beq_self_eq_true, if_true]
    refine ((build_records w).conseq (fun _ h => h)
      (fun _ _ ⟨bcmd, bcode, hb, hbok, hs'⟩ => ⟨cmd, 0, hc, ?_⟩) fun _ h => .inr ⟨cmd, hc, ?_⟩) s hs
    · rw [if_pos rfl]
      exact ⟨bcmd, bcode, hb, hbok, saved_append hs'⟩
    · exact h.imp id fun ⟨bcmd, hb, hs'⟩ => ⟨bcmd, hb, saved_append hs'⟩
  · simp only [beq_iff_eq, h0, if_false]
    exact ⟨cmd, code, hc, by simpa [h0] using hs⟩

/-- A machine with none of the tools installed, `cmake` included. -/
def noToolsWorld : World :=
  ⟨4, "", "/work", "", fun _ => .missing, fun _ => false, fun _ => .missing, fun _ => (0, 1), fun _ => ""⟩

end DrogonBuild.Manager
