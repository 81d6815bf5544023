import CoreCheck.CommandLine

/-!
# Main — the program on a real machine

The operations of a run are carried out on the files, the variables and the clock of the machine the
program runs on. Everything that is decided is decided by `CommandLine.run`.
-/

namespace CoreCheck

/-- The cause of a failed file operation. -/
def FileCause.ofError : IO.Error → FileCause
  | .noFileOrDirectory .. => .notFound
  | .inappropriateType _ _ details =>
    if details = FileCause.isDirectory.text then .isDirectory else .notDirectory
  | .permissionDenied .. => .denied
  | e => .other (toString e)

/-- Carries out a file operation; what fails is answered with the name of the operation. -/
def FileError.catching {α : Type} (operation path : String) (act : IO α) :
    IO (Except FileError α) := do
  try return .ok (← act)
  catch e => return .error ⟨operation, path, .ofError e⟩

/-- What a name stands for, found out by opening it. -/
def statFile (path : String) : IO (Except FileError FileKind) := do
  match ← FileError.catching "stat" path (IO.FS.readBinFile path) with
  | .ok _ => return .ok .regular
  | .error e =>
    return match e.cause with
      | .isDirectory => .ok .directory
      | .denied => .ok .regular
      | _ => .error e

/-- The bytes of a file. A directory can be opened and not read. -/
def readFile (path : String) : IO (Except FileError (List UInt8)) := do
  match ← FileError.catching "open" path (IO.FS.readBinFile path) with
  | .ok bytes => return .ok bytes.toList
  | .error e =>
    return .error (if e.cause = .isDirectory then { e with operation := "read" } else e)

/-- The variables that a run looks at. -/
def variableNames : List String :=
  [Settings.manifestVariable, Settings.frontendVariable, Settings.timeoutVariable,
    Settings.thresholdVariable]

/-- **The machine the program runs on.** It starts no other programs: a frontend is answered as one
that could not be started. -/
def Host.machine : IO (Host IO) := do
  let workdir ← IO.currentDir
  let environment ← variableNames.mapM fun name => return (name, ← IO.getEnv name)
  return {
    workdir := workdir.toString
    environment := fun name => (environment.lookup name).join
    stat := statFile
    read := readFile
    create := fun path => FileError.catching "open" path (IO.FS.writeFile path "")
    write := fun path text => do
      let _ ← FileError.catching "write" path (IO.FS.writeFile path text)
    start := fun command _ _ =>
      return .notStarted ("exec: " ++ Text.quote command ++ ": executable file not found in $PATH")
    now := return (← IO.monoNanosNow) }

end CoreCheck

/-- Runs the command that the arguments name. -/
def main (args : List String) : IO UInt32 := do
  let host ← CoreCheck.Host.machine
  let stdout ← IO.getStdout
  let output ← CoreCheck.CommandLine.run host {} (← stdout.isTty) args
  stdout.putStr output.stdout
  stdout.flush
  let stderr ← IO.getStderr
  stderr.putStr output.stderr
  return UInt32.ofNat output.status
