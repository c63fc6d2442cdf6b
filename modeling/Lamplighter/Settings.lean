/-
Lamplighter.Settings — what can be set from outside a game.

* `Settings` — pacing, the bound on loops, the reach of a jump, logging, and where levels are.
* `Settings.load` — the settings from environment variables; what is not set has a default.
* `Settings.fault?` — the first setting that is out of range.
* `Settings.display` — the settings as text.
-/
import Lamplighter.Number.IntegerText
import Lamplighter.Text.FilePath
import Lamplighter.Text.Uppercase

namespace Lamplighter

/-- What can be set from outside a game. `delay` is the pause after each command, in milliseconds. -/
structure Settings where
  delay : Int := 500
  loopCap : Int := 100
  jumpReach : Int := 1
  logLevel : String := "INFO"
  verbose : Bool := false
  levels : String := ""
  deriving DecidableEq, Repr, Inhabited

/-- A setting that is out of range. -/
inductive SettingsFault where
  | delay (got : Int)
  | loopCap (got : Int)
  | jumpReach (got : Int)
  | logLevel (got : String)
  deriving DecidableEq, Repr

namespace Settings

/-- The log levels that there are. -/
def logLevels : List String := ["DEBUG", "INFO", "WARNING", "ERROR"]

end Settings

/-- The text of a setting that is out of range. -/
def SettingsFault.message : SettingsFault → String
  | delay got =>
    s!"GRIDBOT_EXECUTION_SPEED_MS must be >= 0 (got {got}). Use 0 to run without pauses."
  | loopCap got => s!"GRIDBOT_MAX_LOOP_ITERATIONS must be >= 1 (got {got})"
  | jumpReach got => s!"GRIDBOT_MAX_JUMP_HEIGHT must be >= 0 (got {got})"
  | logLevel got =>
    let known := ", ".intercalate Settings.logLevels
    s!"LOG_LEVEL must be one of {known} (got {Text.quoted got})"

namespace Settings

/-- A variable that holds an integer. -/
def integer (env : String → Option String) (name : String) (default : Int) :
    Except NotAnInteger Int :=
  match env name with
  | none => .ok default
  | some text => IntegerText.read text

/-- The settings in an environment. `root` is the directory that holds the levels unless a variable
says where they are. -/
def load (root : String) (env : String → Option String) : Except NotAnInteger Settings := do
  let delay ← integer env "GRIDBOT_EXECUTION_SPEED_MS" 500
  let loopCap ← integer env "GRIDBOT_MAX_LOOP_ITERATIONS" 100
  let jumpReach ← integer env "GRIDBOT_MAX_JUMP_HEIGHT" 1
  return {
    delay, loopCap, jumpReach
    logLevel := Text.uppercase ((env "LOG_LEVEL").getD "INFO")
    verbose := decide (((env "GRIDBOT_VERBOSE").getD "").toLower ∈ ["1", "true", "yes"])
    levels := Text.normalPath
      ((env "GRIDBOT_LEVELS_PATH").getD (root ++ "/examples/levels.json")) }

/-- The first setting that is out of range. -/
def fault? (s : Settings) : Option SettingsFault :=
  if s.delay < 0 then some (.delay s.delay)
  else if s.loopCap < 1 then some (.loopCap s.loopCap)
  else if s.jumpReach < 0 then some (.jumpReach s.jumpReach)
  else if s.logLevel ∉ logLevels then some (.logLevel s.logLevel)
  else none

/-- Whether every step of a run is remarked on unless the run says otherwise. -/
def stepLogging (s : Settings) : Bool := s.verbose || s.logLevel = "DEBUG"

/-- The settings as text. -/
def display (s : Settings) : String :=
  "\n".intercalate
    ["Gridbot Configuration:",
      s!"  Execution Speed: {s.delay}ms",
      s!"  Loop Iteration Cap: {s.loopCap}",
      s!"  Max Jump Height: {s.jumpReach}",
      s!"  Levels: {s.levels}",
      s!"  Log Level: {s.logLevel}",
      if s.verbose then "  Verbose: True" else "  Verbose: False"]

end Settings

end Lamplighter
