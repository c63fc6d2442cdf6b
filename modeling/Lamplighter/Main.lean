/-
Lamplighter.Main — the demo as a program.

The levels are read from the file that the settings name, and the transcript of the demo is printed. The
directory of the levels is the first argument, or the working directory.
-/
import Lamplighter.Demo

namespace Lamplighter

/-- The environment variables that the settings are read from. -/
def environment : IO (String → Option String) := do
  let names := ["GRIDBOT_EXECUTION_SPEED_MS", "GRIDBOT_MAX_LOOP_ITERATIONS",
    "GRIDBOT_MAX_JUMP_HEIGHT", "LOG_LEVEL", "GRIDBOT_VERBOSE", "GRIDBOT_LEVELS_PATH"]
  let values ← names.mapM (fun name => do return (name, ← IO.getEnv name))
  return fun name => (values.lookup name).join

/-- The bytes of a file, if it is there. -/
def fileBytes (path : String) : IO (Option (List Nat)) := do
  try
    let bytes ← IO.FS.readBinFile path
    return some (bytes.toList.map UInt8.toNat)
  catch _ => return none

end Lamplighter

/-- Play the demo. -/
def main (args : List String) : IO UInt32 := do
  let env ← Lamplighter.environment
  match Lamplighter.Settings.load (args.headD ".") env with
  | .error e =>
    IO.eprintln e.message
    return 1
  | .ok settings =>
    let plain := ((← IO.getEnv "GRIDBOT_NO_COLOR").getD "") ≠ ""
    match Lamplighter.Catalogue.ofBytes settings.levels (← Lamplighter.fileBytes settings.levels) with
    | .error fault =>
      IO.eprintln fault.message
      return 1
    | .ok catalogue =>
      for line in Lamplighter.Demo.transcript ⟨plain⟩ settings catalogue do
        IO.println line
      return 0
