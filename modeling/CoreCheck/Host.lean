import CoreCheck.Duration

/-!
# Host — what a run needs from the machine

A run reads files, looks whether files are there, creates the file of a trace, starts the frontend
and asks for the time. These operations are passed in, so that a run can be carried out on a real
machine and on one that is kept in memory.
-/

namespace CoreCheck

/-- **Why a file operation failed.** -/
inductive FileCause where
  | notFound | notDirectory | isDirectory | denied
  /-- Anything else, in the words of the machine. -/
  | other (text : String)
deriving DecidableEq, Inhabited

/-- The wording of a cause. -/
def FileCause.text : FileCause → String
  | .notFound => "no such file or directory"
  | .notDirectory => "not a directory"
  | .isDirectory => "is a directory"
  | .denied => "permission denied"
  | .other text => text

/-- **A file operation that failed**, with the name it was asked for. -/
structure FileError where
  operation : String
  path : String
  cause : FileCause
deriving DecidableEq, Inhabited

/-- The wording of the failure. -/
def FileError.message (e : FileError) : String :=
  e.operation ++ " " ++ e.path ++ ": " ++ e.cause.text

/-- What kind of thing a name stands for. -/
inductive FileKind where
  | regular | directory
deriving DecidableEq, Inhabited

/-- **How a started command ended.** -/
inductive CommandEnd where
  | exited (code : Nat) (stdout stderr : List UInt8)
  /-- It was stopped because its time was up. -/
  | timedOut
  /-- It could not be started, in the words of the machine. -/
  | notStarted (text : String)

/-- **The machine**, as far as a run needs it. -/
structure Host (m : Type → Type) where
  /-- The directory that relative names start from. -/
  workdir : String
  environment : String → Option String
  stat : String → m (Except FileError FileKind)
  read : String → m (Except FileError (List UInt8))
  create : String → m (Except FileError Unit)
  /-- Writes a text to a file that was created; failures are passed over. -/
  write : String → String → m Unit
  /-- Runs a command with its arguments for a limited time. -/
  start : String → List String → Duration → m CommandEnd
  /-- The time in nanoseconds, from any fixed point. -/
  now : m Int

end CoreCheck
