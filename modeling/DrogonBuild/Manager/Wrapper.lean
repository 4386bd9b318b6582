import DrogonBuild.Manager.Execute

/-!
# The vcvars batch file and the argument vector

On windows, once an activation script was found, configure, build and clean
write their command as the last line of `temp_build_cmd.bat`, its arguments
joined by single spaces, and the program that line starts splits it again by
the command-line rules: unquoted blanks separate arguments, double quotes group
and are dropped. Joining without quoting keeps the vector exactly when no
argument is empty or holds a blank or a quote; the generator name the detection
picks when ninja is missing holds blanks. The metacharacters `cmd.exe` itself
reads in a batch line (`%`, `&`, `|`, `^`, `<`, `>`) are not modelled.
-/

namespace DrogonBuild.Manager

/-- The command-line rules on the characters left to read: whether a quote is
open, the current argument (reversed) and whether one has started. -/
def splitArgs : List Char → Bool → List Char → Bool → List String
  | [], _, cur, started => if started then [String.mk cur.reverse] else []
  | c :: cs, quoted, cur, started =>
    if c = '"' then splitArgs cs (!quoted) cur true
    else if (c = ' ' ∨ c = '\t') ∧ quoted = false then
      (if started then [String.mk cur.reverse] else []) ++ splitArgs cs quoted [] false
    else splitArgs cs quoted (c :: cur) true

/-- The argument vector a program receives for the command line `line`. -/
def commandLineArgs (line : String) : List String := splitArgs line.toList false [] false

/-- An argument that survives joining: non-empty, without blanks and quotes. -/
def PlainArg (a : List Char) : Prop := a ≠ [] ∧ ∀ c ∈ a, c ≠ ' ' ∧ c ≠ '\t' ∧ c ≠ '"'

theorem splitArgs_plain {w : List Char} (hw : ∀ c ∈ w, c ≠ ' ' ∧ c ≠ '\t' ∧ c ≠ '"') (rest cur : List Char)
    (started : Bool) :
    splitArgs (w ++ rest) false cur started = splitArgs rest false (w.reverse ++ cur) (started || !w.isEmpty) := by
  induction w generalizing cur started with
  | nil => simp
  | cons c w ih =>
    obtain ⟨h1, h2, h3⟩ := hw c (List.mem_cons_self _ _)
    rw [List.cons_append, splitArgs, if_neg h3, if_neg (by simp [h1, h2]),
      ih (fun d hd => hw d (List.mem_cons_of_mem _ hd))]
    simp

theorem intercalate_go_toList (acc s : String) (l : List String) :
    (String.intercalate.go acc s l).toList = acc.toList ++ (l.map fun a => s.toList ++ a.toList).flatten := by
  induction l generalizing acc with
  | nil => simp [String.intercalate.go]
  | cons a l ih =>
    simp only [String.intercalate.go, ih]
    simp [String.toList, List.append_assoc]

theorem splitArgs_words (a : List Char) (as : List String) (ha : PlainArg a) (has : ∀ b ∈ as, PlainArg b.toList) :
    splitArgs (a ++ (as.map fun b => ' ' :: b.toList).flatten) false [] false = String.mk a :: as := by
  induction as generalizing a with
  | nil =>
    rw [List.map_nil, List.flatten_nil, splitArgs_plain ha.2]
    simp [splitArgs, ha.1]
  | cons b bs ih =>
    rw [List.map_cons, List.flatten_cons, splitArgs_plain ha.2, List.cons_append, splitArgs,
      if_neg (by decide), if_pos (by decide), ih b.toList (has b (List.mem_cons_self _ _))
        (fun d hd => has d (List.mem_cons_of_mem _ hd))]
    simp [ha.1]

/-- A windows machine with Visual Studio 2022 Community and no ninja, building
the workspace `C:\src\drogon`. -/
def vs2022World : World :=
  ⟨8, "C:\\src\\drogon", "", "", fun _ => .missing,
    fun p => p = "C:\\Program Files\\Microsoft Visual Studio\\2022" ||
      p = vcvarsPath "C:\\Program Files\\Microsoft Visual Studio\\2022" "Community",
    fun _ => .exited 0 "", fun _ => (0, 1), fun _ => ""⟩

/-- There `configure` hands cmake the generator `Visual Studio 17 2022` as one
argument, and the line of the batch file does not give it back. -/
theorem vcvars_batch_splits_generator :
    ∃ cmd, Effect.exec .configure cmd ∈
        (finalState (main vs2022World .windows ["configure"] ⟨.absent, .absent, []⟩)).host.trace ∧
      Effect.write "C:\\src\\drogon\\build\\temp_build_cmd.bat"
          (batchText (vcvarsPath "C:\\Program Files\\Microsoft Visual Studio\\2022" "Community") cmd) ∈
        (finalState (main vs2022World .windows ["configure"] ⟨.absent, .absent, []⟩)).host.trace ∧
      "Visual Studio 17 2022" ∈ cmd ∧ "Visual Studio 17 2022" ∉ commandLineArgs (" ".intercalate cmd) :=
  ⟨_, .tail _ (.tail _ (.tail _ (.head _))), .tail _ (.tail _ (.tail _ (.tail _ (.head _)))), by decide,
    by decide⟩

end DrogonBuild.Manager
