import DrogonBuild.Manager.Detect

/-!
# The command builder

`generate_cmake_config` and `generate_build_command` read `self.config` only.
The configure command keeps its items as Python values: a generator or an extra
argument loaded from the optimizations file need not be a string, and the
`" ".join` that prints the command is where that raises.
-/

namespace DrogonBuild.Manager

open Json

/-- `" ".join(items)` needs every item to be a string. -/
def joinStrs (i : Nat) : List Json → Except PyError (List String)
  | [] => pure []
  | .str s :: items => do return s :: (← joinStrs (i + 1) items)
  | v :: _ => throw (.typeError s!"sequence item {i}: expected str instance, {v.typeName} found")

/-- `-G generator` when the configured generator is truthy. -/
def generatorArgs (c : Json) : Except PyError (List Json) := do
  if (← c.get "generator" .null).truthy then return [.str "-G", ← c.getItem "generator"]
  else return []

/-- `-DCMAKE_TOOLCHAIN_FILE=...` when the configured toolchain is truthy. -/
def toolchainArgs (c : Json) : Except PyError (List Json) := do
  if (← c.get "toolchain" .null).truthy then
    let toolchain := (← c.getItem "toolchain").pyStr
    return [.str s!"-DCMAKE_TOOLCHAIN_FILE={toolchain}"]
  else return []

/-- The compiler flags on linux and darwin, read with `self.config["compiler"]`. -/
def compilerArgs (system : Platform) (c : Json) : Except PyError (List Json) := do
  if system = .linux ∨ system = .darwin then
    let compiler ← c.getItem "compiler"
    if compiler.eqStr "gcc" then
      return [.str "-DCMAKE_C_COMPILER=gcc", .str "-DCMAKE_CXX_COMPILER=g++"]
    else if compiler.eqStr "clang" then
      return [.str "-DCMAKE_C_COMPILER=clang", .str "-DCMAKE_CXX_COMPILER=clang++"]
    else return []
  else return []

/-- The optimization flag and the fixed build type. -/
def optimizationArgs (c : Json) : Except PyError (List Json) := do
  let optLevel ← c.get "optimization_level" (.str "O2")
  return [.str s!"-DCMAKE_CXX_FLAGS=-{optLevel.pyStr}", .str "-DCMAKE_BUILD_TYPE=Release"]

/-- `cmake_args.extend(self.config["cmake_extra_args"])` when the key is present. -/
def extraArgs (c : Json) : Except PyError (List Json) := do
  if ← c.contains "cmake_extra_args" then (← c.getItem "cmake_extra_args").iter
  else return []

/-- `generate_cmake_config`. -/
def generateCmakeConfig (m : BuildManager) : Except PyError (List Json) := do
  let c := m.config
  return [.str "cmake", .str "-S", .str m.workspaceRoot, .str "-B", .str m.buildDir] ++
    (← generatorArgs c) ++ (← toolchainArgs c) ++ (← compilerArgs m.system c) ++
    (← optimizationArgs c) ++ (← extraArgs c)

/-- `--config Release` for the multi-configuration generators of windows:
`self.config.get("generator", "").startswith("Ninja")` decides. -/
def multiConfigArgs (system : Platform) (c : Json) : Except PyError (List String) := do
  if system = .windows then
    match ← c.get "generator" (.str "") with
    | .str g => return if startswith g "Ninja" then [] else ["--config", "Release"]
    | v => throw (.attributeError v.typeName "startswith")
  else return []

/-- `generate_build_command`; `multiprocessing.cpu_count()` is the default job count. -/
def generateBuildCommand (m : BuildManager) (cpuCount : Nat) : Except PyError (List String) := do
  let jobs ← m.config.get "parallel_jobs" (.int cpuCount)
  return ["cmake", "--build", m.buildDir, "--parallel", jobs.pyStr] ++
    (← multiConfigArgs m.system m.config)

end DrogonBuild.Manager
