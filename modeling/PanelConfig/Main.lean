import PanelConfig.Session

/-! The command line program: it takes the machine as it finds it, performs the command line, prints
what that prints and ends as it ends. -/

open PanelConfig

/-- The variables of the panel that are set. -/
def setVariables : IO (List (String × String)) :=
  Setting.all.filterMapM fun s => do
    return (← IO.getEnv s.variableName).map fun v => (s.variableName, v)

/-- What the system answers when it is asked for the working folder. -/
def askForFolder : IO FolderQuery := do
  try
    return .found (← IO.currentDir).toString
  catch e =>
    return .failed .system e.toString

/-- The machine that the program runs on. Its disk plays no part in a command. -/
def thisMachine : IO Machine := do
  return { Machine.fresh with
    environment := ⟨← setVariables⟩
    platform := if (← IO.getEnv "OS") == some "Windows_NT" then "win32" else "linux"
    executable := some (← IO.appPath).toString
    workingFolder := ← askForFolder }

def main (args : List String) : IO UInt32 := do
  match (CommandLine.perform (← thisMachine) args).1 with
  | .ok ending =>
    IO.print ending.stdout
    IO.eprint ending.stderr
    return ending.exitCode.toUInt32
  | .error failure =>
    IO.eprintln failure.message
    return 1
