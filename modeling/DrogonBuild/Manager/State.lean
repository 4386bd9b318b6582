import DrogonBuild.Python.Json

/-!
# The build manager's state and the machine around it

`scripts/auto_build_manager.py` keeps one `BuildManager` per process. Its
fields (`build_history`, `optimizations`, `config`) are Python values; the
machine it runs on holds the two JSON files across processes and sees what the
process does (processes started, files written, lines printed). One run of the
script is an `EStateM` computation over both, so a Python exception keeps every
effect made before it.

What the outside world answers (which tools respond, whether paths exist, what
the cmake commands exit with, the clock) is a `World`, fixed for one process.
-/

namespace DrogonBuild.Manager

/-- `platform.system().lower()`. -/
inductive Platform where
  | windows
  | linux
  | darwin
  | other (name : String)
  deriving Repr, DecidableEq

/-- The key a platform has in `DEFAULT_CONFIGS` and in `build_optimizations.json`. -/
def Platform.key : Platform → String
  | windows => "windows"
  | linux => "linux"
  | darwin => "darwin"
  | other name => name

/-- The separator `pathlib` prints. -/
def Platform.sep : Platform → String
  | windows => "\\"
  | _ => "/"

/-- `str(Path(a) / b)` for a normalized `a`. -/
def Platform.join (sys : Platform) (a b : String) : String :=
  if endswith a sys.sep then a ++ b else a ++ sys.sep ++ b

def buildHistoryFile : String := "build_history.json"
def optimizationFile : String := "build_optimizations.json"

/-- `DEFAULT_CONFIGS`, built at import time from `multiprocessing.cpu_count()`. -/
def defaultConfigs (cpuCount : Nat) : Json :=
  .dict [("windows", .dict [("generator", .str "Ninja"), ("compiler", .str "msvc"),
      ("parallel_jobs", .int (min cpuCount 16)), ("optimization_level", .str "O2"),
      ("toolchain", .str "C:/vcpkg/scripts/buildsystems/vcpkg.cmake")]),
    ("linux", .dict [("generator", .str "Ninja"), ("compiler", .str "gcc"),
      ("parallel_jobs", .int (min cpuCount 16)), ("optimization_level", .str "O3"),
      ("toolchain", .str "")]),
    ("darwin", .dict [("generator", .str "Ninja"), ("compiler", .str "clang"),
      ("parallel_jobs", .int (min cpuCount 8)), ("optimization_level", .str "O2"),
      ("toolchain", .str "")])]

/-- A state file on disk: absent, present but unreadable or not JSON (with the
message `json.load` or `open` raised), or a JSON document. `json.dump` followed
by `json.load` gives back the value written. -/
inductive Stored where
  | absent
  | unreadable (message : String)
  | doc (v : Json)
  deriving Inhabited

/-- What `_load_json` returns for a file holding `st`, with default `d`. -/
def Stored.loaded (st : Stored) (d : Json) : Json :=
  match st with
  | .doc v => v
  | _ => d

/-- What starting a program gives: `FileNotFoundError`, another `OSError`, or
an exit code with the captured standard output. -/
inductive Outcome where
  | missing
  | denied
  | exited (code : Int) (stdout : String)
  deriving Repr, DecidableEq

/-- The three commands the manager hands to cmake. -/
inductive Phase where
  | configure
  | build
  | clean
  deriving Repr, DecidableEq

/-- What a process observes of the machine, the only source of its
nondeterminism. `probe` answers `[tool, "--version"]`; `outcome` answers the
command of each phase (run directly or through the vcvars batch file);
`clock` gives the two `time.time()` readings around it. -/
structure World where
  cpuCount : Nat
  workspaceEnv : String
  scriptRoot : String
  vsPathEnv : String
  probe : String → Outcome
  pathExists : String → Bool
  outcome : Phase → Outcome
  clock : Phase → ℚ × ℚ
  stamp : Phase → String

/-- What the process does that outlives it or is seen outside it; `exec` marks
the command a phase hands to the executor. -/
inductive Effect where
  | spawn (argv : List String)
  | exec (phase : Phase) (cmd : List String)
  | mkdir (path : String)
  | write (path text : String)
  | dump (path : String) (doc : Json)
  | remove (path : String)
  | clearDir (path : String)
  | print (text : String)
  deriving Repr

/-- The two state files and everything observable the processes did. -/
structure Host where
  history : Stored
  optimizations : Stored
  trace : List Effect

/-- The attributes of a `BuildManager` object. -/
structure BuildManager where
  workspaceRoot : String
  system : Platform
  buildHistory : Json
  optimizations : Json
  config : Json

namespace BuildManager

def buildDir (m : BuildManager) : String := m.system.join m.workspaceRoot "build"
def scriptsDir (m : BuildManager) : String := m.system.join m.workspaceRoot "scripts"
def historyFile (m : BuildManager) : String := m.system.join m.scriptsDir buildHistoryFile
def optimizationFile (m : BuildManager) : String := m.system.join m.scriptsDir Manager.optimizationFile

end BuildManager

/-- A running process: the machine and its one `BuildManager`. -/
structure Proc where
  host : Host
  mgr : BuildManager

/-- One statement of the script: it may raise, keeping the effects made so far. -/
abbrev Step := EStateM PyError Proc

/-- The state a computation ends in, whether it returned or raised. -/
def finalState {ε σ α : Type} : EStateM.Result ε σ α → σ
  | .ok _ s => s
  | .error _ s => s

@[simp] theorem finalState_ok {ε σ α : Type} (a : α) (s : σ) :
    finalState (EStateM.Result.ok a s : EStateM.Result ε σ α) = s := rfl

@[simp] theorem finalState_error {ε σ α : Type} (e : ε) (s : σ) :
    finalState (EStateM.Result.error e s : EStateM.Result ε σ α) = s := rfl

/-- Raise what a failed Python operation raises. -/
def liftE {α : Type} : Except PyError α → Step α
  | .ok a => pure a
  | .error e => throw e

/-- The process after doing `e`. -/
def Proc.log (p : Proc) (e : Effect) : Proc :=
  { p with host := { p.host with trace := p.host.trace ++ [e] } }

/-- The process with `self.config` replaced. -/
def Proc.withConfig (p : Proc) (c : Json) : Proc := { p with mgr := { p.mgr with config := c } }

/-- The process with `self.build_history` replaced. -/
def Proc.withBuildHistory (p : Proc) (h : Json) : Proc :=
  { p with mgr := { p.mgr with buildHistory := h } }

/-- The process with `self.optimizations` replaced. -/
def Proc.withOptimizations (p : Proc) (o : Json) : Proc :=
  { p with mgr := { p.mgr with optimizations := o } }

/-- The process after `_save_json` of the history. -/
def Proc.saveHistory (p : Proc) : Proc :=
  { p with host := { p.host with history := .doc p.mgr.buildHistory } }

/-- The process after `_save_json` of the optimizations. -/
def Proc.saveOptimizations (p : Proc) : Proc :=
  { p with host := { p.host with optimizations := .doc p.mgr.optimizations } }

def emit (e : Effect) : Step Unit := modify (·.log e)

def getConfig : Step Json := do return (← get).mgr.config

def setConfig (c : Json) : Step Unit := modify (·.withConfig c)

/-- `self.config[key] = v`. -/
def setConfigItem (key : String) (v : Json) : Step Unit := do
  setConfig (← liftE ((← getConfig).setItem key v))

/-- `self.config[key]`. -/
def configItem (key : String) : Step Json := do liftE ((← getConfig).getItem key)

/-- `self.config.get(key, default)`. -/
def configGet (key : String) (default : Json) : Step Json := do
  liftE ((← getConfig).get key default)

/-- `key in self.config`. -/
def configHas (key : String) : Step Bool := do liftE ((← getConfig).contains key)

/-- The process after `_load_json` met the file `st` at `path`: a warning if it
could not read it. -/
def Proc.warnUnreadable (p : Proc) (st : Stored) (path : String) : Proc :=
  match st with
  | .unreadable message => p.log (.print s!"Warning: Failed to load {path}: {message}")
  | _ => p

/-- `self._load_json(path, default)`: a missing file gives the default, a file
that fails to open or parse gives it after a warning. -/
def loadJson (path : String) (file : Stored) (default : Json) : Step Json :=
  match file with
  | .absent => pure default
  | .unreadable message => do
    emit (.print s!"Warning: Failed to load {path}: {message}")
    pure default
  | .doc v => pure v

def setBuildHistory (h : Json) : Step Unit := modify (·.withBuildHistory h)

def setOptimizations (o : Json) : Step Unit := modify (·.withOptimizations o)

/-- `self._save_json(self.history_file, self.build_history)`. -/
def saveHistory : Step Unit := modify Proc.saveHistory

/-- `self._save_json(self.optimization_file, self.optimizations)`. -/
def saveOptimizations : Step Unit := modify Proc.saveOptimizations

end DrogonBuild.Manager
