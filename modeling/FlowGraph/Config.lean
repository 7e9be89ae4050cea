import FlowGraph.Files.Loading
import FlowGraph.Settings

/-!
# The configuration of a node

A configuration comes from a JSON file in which every field may be absent, and
environment variables override some of its fields.
-/

namespace FlowGraph

open Json (defaulted)

/-- The configuration of a node. -/
structure Config where
  /-- The folder of flow definitions. -/
  flowsDir : Path
  /-- The folder of scripts; it need not exist. -/
  scriptsDir : Path
  /-- The folder for run logs. -/
  runDir : Path
  defaultMaxNodes : Nat
  stepLimitMultiplier : Nat
  /-- The flow to run after failures, if one is chosen. -/
  failureFlow : Option Uuid
  toolPaths : Dict Path
  tempDir : Option Path
  isDocker : Bool

/-- Why there is no configuration. -/
inductive ConfigError where
  | unreadable (path : Path) (e : OsError)
  | invalid (path : Path) (e : Json.DecodeError)
  | invalidEnv (name value : String)

/-- The wording for a configuration that is none. -/
def ConfigError.message : ConfigError → String
  | .unreadable path e => "cannot read config " ++ path.text ++ ": " ++ e.message
  | .invalid path e => e.explained ("invalid config " ++ path.text)
  | .invalidEnv name value => name ++ " must be a positive integer, got '" ++ value ++ "'"

namespace Config

/-- The configuration of a node that configures nothing. -/
def default : Config :=
  { flowsDir := ⟨"flows"⟩, scriptsDir := ⟨"scripts"⟩, runDir := ⟨".flows"⟩,
    defaultMaxNodes := Settings.default.defaultMaxNodes,
    stepLimitMultiplier := Settings.default.stepLimitMultiplier, failureFlow := none,
    toolPaths := .empty, tempDir := none, isDocker := false }

instance : Inhabited Config := ⟨default⟩

/-- Reads a path. -/
def pathDecoder : Json.Decoder Path := fun o d => Path.mk <$> Json.pathText o d

/-- Reads a configuration. -/
def decoder : Json.Decoder Config :=
  Json.record "EngineConfig"
    (.cons (defaulted "flows_dir" pathDecoder default.flowsDir) <|
     .cons (defaulted "scripts_dir" pathDecoder default.scriptsDir) <|
     .cons (defaulted "run_dir" pathDecoder default.runDir) <|
     .cons (defaulted "default_max_nodes" Json.count default.defaultMaxNodes) <|
     .cons (defaulted "step_limit_multiplier" Json.count default.stepLimitMultiplier) <|
     .cons (defaulted "failure_flow" (Json.optional Json.uuid) none) <|
     .cons (defaulted "tool_paths" (Json.dict pathDecoder) .empty) <|
     .cons (defaulted "temp_dir" (Json.optional pathDecoder) none) <|
     .cons (defaulted "is_docker" Json.boolean false) .nil)
    fun (flowsDir, scriptsDir, runDir, defaultMaxNodes, stepLimitMultiplier, failureFlow,
        toolPaths, tempDir, isDocker, _) =>
      { flowsDir, scriptsDir, runDir, defaultMaxNodes, stepLimitMultiplier, failureFlow,
        toolPaths, tempDir, isDocker }

/-- The configuration in a file. -/
def load (files : FileTree) (p : Path) : Except ConfigError Config :=
  match files.read p with
  | .error e => .error (.unreadable p e)
  | .ok bytes =>
    match FileTree.decodeBytes decoder bytes with
    | .ok config => .ok config
    | .error e => .error (.invalid p e)

/-! ## Environment -/

def flowsDirName : String := "FLOWS_FLOWS_DIR"
def scriptsDirName : String := "FLOWS_SCRIPTS_DIR"
def runDirName : String := "FLOWS_RUN_DIR"
def maxNodesName : String := "FLOWS_MAX_NODES"
def multiplierName : String := "FLOWS_STEP_LIMIT_MULTIPLIER"

/-- The positive number that an environment variable holds, or a number that is kept when
it is not set. -/
def positive (env : Dict String) (name : String) (otherwise : Nat) : Except ConfigError Nat :=
  match env.get? name with
  | none => .ok otherwise
  | some value =>
    match Text.natBelow? UInt64.size (Text.trim value).toList with
    | some (n + 1) => .ok (n + 1)
    | _ => .error (.invalidEnv name value)

/-- The path that an environment variable holds, or one that is kept. -/
def pathFrom (env : Dict String) (name : String) (otherwise : Path) : Path :=
  ((env.get? name).map Path.mk).getD otherwise

/-- The configuration with the overrides of the environment. -/
def withOverrides (c : Config) (env : Dict String) : Except ConfigError Config := do
  let defaultMaxNodes ← positive env maxNodesName c.defaultMaxNodes
  let stepLimitMultiplier ← positive env multiplierName c.stepLimitMultiplier
  return { c with
    flowsDir := pathFrom env flowsDirName c.flowsDir
    scriptsDir := pathFrom env scriptsDirName c.scriptsDir
    runDir := pathFrom env runDirName c.runDir
    defaultMaxNodes, stepLimitMultiplier }

/-- The configuration in a file, if one is given, with the overrides of the environment. -/
def resolve (files : FileTree) (env : Dict String) (p : Option Path) :
    Except ConfigError Config := do
  let base ← match p with
    | some p => load files p
    | none => .ok default
  base.withOverrides env

/-- The settings of runs. -/
def settings (c : Config) : Settings :=
  { tempDir := c.tempDir, toolPaths := c.toolPaths, isDocker := c.isDocker,
    defaultMaxNodes := c.defaultMaxNodes, stepLimitMultiplier := c.stepLimitMultiplier }

/-- A configuration as JSON. -/
def toJson (c : Config) : Json :=
  .obj [("flows_dir", .str c.flowsDir.text), ("scripts_dir", .str c.scriptsDir.text),
    ("run_dir", .str c.runDir.text), ("default_max_nodes", .int c.defaultMaxNodes),
    ("step_limit_multiplier", .int c.stepLimitMultiplier),
    ("failure_flow", .ofText? (c.failureFlow.map Uuid.text)),
    ("tool_paths", .ofDict (c.toolPaths.map fun _ p => .str p.text)),
    ("temp_dir", .ofText? (c.tempDir.map Path.text)), ("is_docker", .bool c.isDocker)]

end Config

end FlowGraph
