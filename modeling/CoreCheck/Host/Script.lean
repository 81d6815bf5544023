import CoreCheck.Host.FileTree
import CoreCheck.Text.Quoted
import CoreCheck.Text.Utf8

/-!
# Host/Script — small commands for a machine in memory

A machine in memory knows a handful of commands: printing files, succeeding, failing, waiting, and a
shell that runs short scripts of such commands. That is enough to stand in for a frontend.
-/

namespace CoreCheck.Script

/-! ## Reading scripts -/

/-- A token of a script: a word, or an operator between commands. -/
inductive Token where
  | word (s : String)
  /-- Sends the output to the error channel. -/
  | outToErr
  /-- Sends the error channel to the output. -/
  | errToOut
  /-- Ends a command. -/
  | next
  /-- Goes on only after success. -/
  | andThen
  /-- Goes on only after failure. -/
  | orElse
deriving DecidableEq

/-- The value of a parameter: the name of the script, or one of its arguments. -/
def parameter (args : List String) (c : Char) : String :=
  if c == '@' || c == '*' then Text.join " " args.tail
  else if isDigit c then (args[c.toNat - 48]?).getD ""
  else ""

/-- Reads the part of a word in double quotes. -/
def doubleQuoted (args : List String) : List Char → Option (List Char × List Char)
  | [] => none
  | '"' :: rest => some ([], rest)
  | '\\' :: c :: rest => do
    let (more, rest) ← doubleQuoted args rest
    return (if c == '"' || c == '\\' || c == '$' then (c :: more, rest)
      else ('\\' :: c :: more, rest))
  | '$' :: c :: rest => do
    let (more, rest) ← doubleQuoted args rest
    return ((parameter args c).toList ++ more, rest)
  | c :: rest => do
    let (more, rest) ← doubleQuoted args rest
    return (c :: more, rest)

/-- Reads tokens; the word under construction is kept in reverse. -/
def tokens (args : List String) : Nat → Option (List Char) → List Char → Option (List Token)
  | 0, _, _ => none
  | fuel + 1, word, cs =>
    let ended (more : List Token) : List Token :=
      match word with
      | some w => .word (String.ofList w.reverse) :: more
      | none => more
    let grown (w : List Char) : Option (List Char) := some (w.reverse ++ word.getD [])
    match cs with
    | [] => some (ended [])
    | '\'' :: rest =>
      let body := rest.takeWhile (· != '\'')
      if body.length < rest.length then tokens args fuel (grown body) (rest.drop (body.length + 1))
      else none
    | '"' :: rest => do
      let (body, rest) ← doubleQuoted args rest
      tokens args fuel (grown body) rest
    | '\\' :: c :: rest => tokens args fuel (grown [c]) rest
    | '$' :: c :: rest => tokens args fuel (grown (parameter args c).toList) rest
    | '>' :: '&' :: '2' :: rest => (tokens args fuel none rest).map fun ts =>
        if word == some ['1'] then .outToErr :: ts else ended (.outToErr :: ts)
    | '>' :: '&' :: '1' :: rest => (tokens args fuel none rest).map fun ts =>
        if word == some ['2'] then .errToOut :: ts else ended ts
    | '&' :: '&' :: rest => (tokens args fuel none rest).map fun ts => ended (.andThen :: ts)
    | '|' :: '|' :: rest => (tokens args fuel none rest).map fun ts => ended (.orElse :: ts)
    | c :: rest =>
      if c == ';' || c == '\n' then (tokens args fuel none rest).map fun ts => ended (.next :: ts)
      else if c == ' ' || c == '\t' then (tokens args fuel none rest).map ended
      else tokens args fuel (grown [c]) rest

/-! ## Running commands -/

/-- How far a script has come: what it printed, its last status, how long it took, and whether it
is over. -/
structure Progress where
  stdout : List Char := []
  stderr : List Char := []
  status : Nat := 0
  elapsed : Duration := ⟨0⟩
  ended : Bool := false

/-- The characters of a text with the escapes of a format. -/
def unescape : List Char → List Char
  | [] => []
  | '\\' :: 'n' :: rest => '\n' :: unescape rest
  | '\\' :: 't' :: rest => '\t' :: unescape rest
  | '\\' :: 'r' :: rest => '\r' :: unescape rest
  | '\\' :: '\\' :: rest => '\\' :: unescape rest
  | '\\' :: '"' :: rest => '"' :: unescape rest
  | c :: rest => c :: unescape rest

/-- Fills the places of a format. -/
def fill (args : List String) : List Char → List Char
  | [] => []
  | '%' :: '%' :: rest => '%' :: fill args rest
  | '%' :: 's' :: rest => (args.headD "").toList ++ fill args.tail rest
  | '%' :: 'd' :: rest => (args.headD "0").toList ++ fill args.tail rest
  | c :: rest => c :: fill args rest

/-- What printing files answers: the text, the complaints and the status. -/
def concatenate (t : FileTree) (workdir : String) :
    List String → List Char × List Char × Nat
  | [] => ([], [], 0)
  | path :: rest =>
    let (out, err, status) := concatenate t workdir rest
    match t.read workdir path with
    | .ok bytes => (Text.lossy bytes ++ out, err, status)
    | .error e =>
      let why := match e.cause with
        | .isDirectory => "Is a directory"
        | .notDirectory => "Not a directory"
        | _ => "No such file or directory"
      (out, ("cat: " ++ path ++ ": " ++ why ++ "\n").toList ++ err, 1)

/-- A number of seconds, possibly with a fraction. -/
def secondsOf (s : String) : Duration := (Duration.parse? (s ++ "s")).getD ⟨0⟩

/-- Runs one command. -/
def step (t : FileTree) (workdir : String) (p : Progress) : List String → Progress
  | [] => p
  | "exec" :: command :: args =>
    { stepPlain p command args with ended := true }
  | command :: args => stepPlain p command args
where
  /-- Runs a command that is not replaced by another. -/
  stepPlain (p : Progress) (command : String) (args : List String) : Progress :=
    match command with
    | "echo" =>
      let (args, tail) := match args with
        | "-n" :: rest => (rest, [])
        | args => (args, ['\n'])
      { p with stdout := p.stdout ++ unescape (Text.join " " args).toList ++ tail, status := 0 }
    | "printf" =>
      { p with stdout := p.stdout ++ fill args.tail (unescape (args.headD "").toList), status := 0 }
    | "cat" =>
      let (out, err, status) := concatenate t workdir args
      { p with stdout := p.stdout ++ out, stderr := p.stderr ++ err, status }
    | "exit" =>
      { p with status := (args.head?.map fun s => natOfDigits s.toList).getD p.status % 256,
               ended := true }
    | "sleep" =>
      { p with elapsed := ⟨p.elapsed.nanos + (secondsOf (args.headD "")).nanos⟩, status := 0 }
    | "true" | ":" => { p with status := 0 }
    | "false" => { p with status := 1 }
    | other =>
      { p with stderr := p.stderr ++ ("sh: 1: " ++ other ++ ": not found\n").toList, status := 127 }

/-- The words of a command, and whether its channels are redirected. -/
structure Simple where
  words : List String := []
  outToErr : Bool := false
  errToOut : Bool := false

/-- Runs a command with its redirections. -/
def Simple.run (c : Simple) (t : FileTree) (workdir : String) (p : Progress) : Progress :=
  let q := step t workdir { p with stdout := [], stderr := [] } c.words
  let out := if c.outToErr then [] else q.stdout ++ (if c.errToOut then q.stderr else [])
  let err := (if c.outToErr then q.stdout else []) ++ (if c.errToOut then [] else q.stderr)
  { q with stdout := p.stdout ++ out, stderr := p.stderr ++ err }

/-- Runs the commands of a script. A command is skipped when the operator before it says so. -/
def runTokens (t : FileTree) (workdir : String) (c : Simple) (skip : Bool) (p : Progress) :
    List Token → Progress
  | [] => if skip then p else c.run t workdir p
  | .word w :: rest => runTokens t workdir { c with words := c.words ++ [w] } skip p rest
  | .outToErr :: rest => runTokens t workdir { c with outToErr := true } skip p rest
  | .errToOut :: rest => runTokens t workdir { c with errToOut := true } skip p rest
  | op :: rest =>
    let p := if skip then p else c.run t workdir p
    if p.ended then p
    else
      let skip := match op with
        | .andThen => p.status != 0
        | .orElse => p.status == 0
        | _ => false
      runTokens t workdir {} skip p rest

/-- Runs a script with its arguments, the first of which is its name. -/
def runScript (t : FileTree) (workdir script : String) (args : List String) : Progress :=
  match tokens args (2 * script.length + 2) none script.toList with
  | some ts => runTokens t workdir {} false {} ts
  | none => { stderr := "sh: 1: Syntax error: Unterminated quoted string\n".toList, status := 2 }

/-- How a command ends, given how far it came within its time. -/
def Progress.finish (p : Progress) (timeout : Duration) : CommandEnd :=
  if timeout.nanos ≤ p.elapsed.nanos then .timedOut
  else
    .exited p.status (String.ofList p.stdout).toUTF8.toList (String.ofList p.stderr).toUTF8.toList

/-- **Starts a command.** -/
def start (t : FileTree) (workdir command : String) (args : List String) (timeout : Duration) :
    CommandEnd :=
  match command, args with
  | "sh", "-c" :: script :: args => (runScript t workdir script args).finish timeout
  | "cat", _ | "true", _ | "false", _ | "echo", _ | "printf", _ | "sleep", _ =>
    (step t workdir {} (command :: args)).finish timeout
  | _, _ =>
    if command.toList.contains '/' then
      .notStarted ("fork/exec " ++ command ++ ": " ++ (match t.stat workdir command with
        | .ok _ => FileCause.denied.text
        | .error e => e.cause.text))
    else .notStarted ("exec: " ++ Text.quote command ++ ": executable file not found in $PATH")

end CoreCheck.Script

namespace CoreCheck

/-- **A machine in memory**: its files change only when a run creates one, and its clock stands. -/
def FileTree.host (workdir : String) (environment : String → Option String) :
    Host (StateM FileTree) where
  workdir := workdir
  environment := environment
  stat path := return (← get).stat workdir path
  read path := return (← get).read workdir path
  create path := do
    match (← get).create workdir path with
    | .ok t => set t; return .ok ()
    | .error e => return .error e
  write path text := modify fun t => t.write workdir path text.toUTF8.toList
  start command args timeout := return Script.start (← get) workdir command args timeout
  now := return 0

end CoreCheck
