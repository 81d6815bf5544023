import CoreCheck.Document.JsonText
import CoreCheck.Number.Decimal
import CoreCheck.Text.Quoted
import CoreCheck.Text.Split

/-!
# CommandLine/Argument — flags and positional arguments

Flags start with two dashes; their value follows an equals sign or is the next argument. Truth
values need no value. Flags and other arguments may be mixed; two dashes alone end the flags. The
first argument that cannot be read is the failure.
-/

namespace CoreCheck.CommandLine

/-- **What kind of value a flag takes.** -/
inductive FlagKind where
  | text | bool | int
  /-- Several texts, joined by commas; the flag may be repeated. -/
  | texts
deriving DecidableEq

/-- **A flag** that a command knows. -/
structure Flag where
  name : String
  kind : FlagKind
  short : Option Char := none

/-- A value that a flag was given. -/
inductive FlagValue where
  | text (s : String)
  | bool (b : Bool)
  | int (n : Int)
  | texts (ss : List String)

/-- **The arguments as they were read**: flags in order, and all else. -/
structure Arguments where
  flags : List (String × FlagValue) := []
  positional : List String := []

/-- **Why arguments cannot be read.** -/
inductive ArgumentError where
  | badSyntax (argument : String)
  | unknownFlag (name : String)
  /-- A letter that is no flag, with the letters from there on. -/
  | unknownShort (c : Char) (letters : List Char)
  | needsValue (argument : String)
  | badValue (flag : Flag) (value cause : String)

/-- The first byte of a character, as a character: letters of flags are compared by bytes. -/
def firstByte (c : Char) : Char :=
  ((String.singleton c).toUTF8.toList.head?.map fun b => Char.ofNat b.toNat).getD c

/-- How a flag is called in messages. -/
def Flag.label (f : Flag) : String :=
  match f.short with
  | some c => "-" ++ String.singleton c ++ ", --" ++ f.name
  | none => "--" ++ f.name

/-- The wording of the failure. -/
def ArgumentError.message : ArgumentError → String
  | .badSyntax argument => "bad flag syntax: " ++ argument
  | .unknownFlag name => "unknown flag: --" ++ name
  | .unknownShort c letters =>
    "unknown shorthand flag: " ++ Text.quoteLetter (firstByte c) ++ " in "
      ++ String.ofList ('-' :: letters)
  | .needsValue argument => "flag needs an argument: " ++ argument
  | .badValue flag value cause =>
    "invalid argument " ++ Text.quote value ++ " for " ++ Text.quote flag.label ++ " flag: "
      ++ cause

/-! ## Values -/

/-- Reads a truth value. -/
def bool? (s : String) : Option Bool :=
  if ["1", "t", "T", "TRUE", "true", "True"].contains s then some true
  else if ["0", "f", "F", "FALSE", "false", "False"].contains s then some false
  else none

/-- Whether underscores stand between digits only; a mark of the base counts as a digit. -/
def underscoresFit : Bool → List Char → Bool
  | afterMark, [] => !afterMark
  | _, '_' :: '_' :: _ => false
  | _, '_' :: rest => !rest.isEmpty && underscoresFit true rest
  | _, _ :: rest => underscoresFit false rest

/-- The base of a number by its first characters, with its digits. -/
def baseOf (cs : List Char) : Nat × List Char :=
  match cs with
  | '0' :: c :: rest =>
    if c == 'x' || c == 'X' then (16, rest)
    else if c == 'b' || c == 'B' then (2, rest)
    else if c == 'o' || c == 'O' then (8, rest)
    else (8, c :: rest)
  | cs => (10, cs)

/-- What became of reading a number. -/
inductive IntReading where
  | value (n : Int)
  | malformed
  | outOfRange

/-- Reads a whole number of 64 bits, in a base that its first characters give. -/
def readNumber (s : String) : IntReading :=
  let (negative, cs) := match s.toList with
    | '-' :: r => (true, r)
    | '+' :: r => (false, r)
    | r => (false, r)
  let (base, body) := baseOf cs
  let digits := body.filter (· != '_')
  let fits := cs.head? != some '_' && underscoresFit false cs
  match digits.mapM Document.JsonText.hexValue? with
  | some (d :: ds) =>
    if fits && (d :: ds).all (· < base) then
      let n : Int := ((d :: ds).foldl (fun n d => n * base + d) 0 : Nat)
      let n := if negative then -n else n
      if fitsInt64 n then .value n else .outOfRange
    else .malformed
  | _ => .malformed

/-- The number of bytes of a text. -/
def byteCount (cs : List Char) : Nat := (String.ofList cs).utf8ByteSize

/-- A place in a list of fields where quotes are wrong. -/
structure FieldError where
  column : Nat
  bare : Bool

/-- The wording of the failure. -/
def FieldError.message (e : FieldError) : String :=
  s!"parse error on line 1, column {e.column}: " ++
    (if e.bare then "bare \" in non-quoted field" else "extraneous or missing \" in quoted-field")

/-- Reads the rest of a field in quotes; a quote inside is written twice. Answers the field and what
follows its closing quote, with the column there. -/
def quotedField (column : Nat) (acc : List Char) :
    List Char → Except FieldError (String × List Char × Nat)
  | [] => .error ⟨column, false⟩
  | '"' :: '"' :: rest => quotedField (column + 2) ('"' :: acc) rest
  | '"' :: rest => .ok (String.ofList acc.reverse, rest, column + 1)
  | c :: rest => quotedField (column + c.utf8Size) (c :: acc) rest

/-- **Reads fields joined by commas.** A field in quotes may hold commas. -/
def fields : Nat → Nat → List Char → Except FieldError (List String)
  | 0, _, _ => .ok []
  | fuel + 1, column, '"' :: rest =>
    match quotedField (column + 1) [] rest with
    | .error e => .error e
    | .ok (field, [], _) => .ok [field]
    | .ok (field, ',' :: rest, column) => (fields fuel (column + 1) rest).map (field :: ·)
    | .ok (_, _, column) => .error ⟨column - 1, false⟩
  | fuel + 1, column, cs =>
    let body := cs.takeWhile (· != ',')
    match body.findIdx? (· == '"') with
    | some i => .error ⟨column + byteCount (body.take i), true⟩
    | none =>
      match cs.drop body.length with
      | _ :: rest => (fields fuel (column + byteCount body + 1) rest).map (String.ofList body :: ·)
      | [] => .ok [String.ofList body]

/-- Reads the value of a flag. -/
def FlagKind.read (k : FlagKind) (s : String) : Except String FlagValue :=
  match k with
  | .text => .ok (.text s)
  | .bool =>
    match bool? s with
    | some b => .ok (.bool b)
    | none => .error ("strconv.ParseBool: parsing " ++ Text.quote s ++ ": invalid syntax")
  | .int =>
    match readNumber s with
    | .value n => .ok (.int n)
    | .malformed => .error ("strconv.ParseInt: parsing " ++ Text.quote s ++ ": invalid syntax")
    | .outOfRange =>
      .error ("strconv.ParseInt: parsing " ++ Text.quote s ++ ": value out of range")
  | .texts =>
    if s = "" then .ok (.texts [])
    else
      match fields (s.length + 1) 1 (s.toList.takeWhile (· != '\n')) with
      | .ok fs => .ok (.texts fs)
      | .error e => .error e.message

/-! ## Arguments -/

/-- Gives a flag its value. -/
def Arguments.set (a : Arguments) (f : Flag) (value : String) : Except ArgumentError Arguments :=
  match f.kind.read value with
  | .ok v => .ok { a with flags := a.flags ++ [(f.name, v)] }
  | .error cause => .error (.badValue f value cause)

/-- The name and the value of a flag around its equals sign. -/
def splitValue (cs : List Char) : String × Option String :=
  let name := cs.takeWhile (· != '=')
  (String.ofList name, (cs.drop name.length).tail?.map String.ofList)

/-- Reads flags of one letter. Only truth values have one, so none of them takes a value but after
an equals sign. -/
def readShort (known : List Flag) (a : Arguments) :
    List Char → Except ArgumentError Arguments
  | [] => .ok a
  | c :: rest =>
    match known.find? (·.short == some c) with
    | none => .error (.unknownShort c (c :: rest))
    | some f =>
      match rest with
      | '=' :: d :: value => a.set f (String.ofList (d :: value))
      | rest => (a.set f "true").bind fun a => readShort known a rest

/-- **Reads arguments** against the flags that are known. -/
def Arguments.read (known : List Flag) (a : Arguments) :
    List String → Except ArgumentError Arguments
  | [] => .ok a
  | s :: rest =>
    match s.toList with
    | ['-', '-'] => .ok { a with positional := a.positional ++ rest }
    | '-' :: '-' :: cs =>
      if cs.head? == some '-' || cs.head? == some '=' then .error (.badSyntax s)
      else
        let (name, value) := splitValue cs
        match known.find? (·.name = name) with
        | none => .error (.unknownFlag name)
        | some f =>
          match value, f.kind, rest with
          | some v, _, rest => (a.set f v).bind fun a => Arguments.read known a rest
          | none, .bool, rest => (a.set f "true").bind fun a => Arguments.read known a rest
          | none, _, v :: rest => (a.set f v).bind fun a => Arguments.read known a rest
          | none, _, [] => .error (.needsValue s)
    | '-' :: c :: cs =>
      (readShort known a (c :: cs)).bind fun a =>
        Arguments.read known a rest
    | _ => Arguments.read known { a with positional := a.positional ++ [s] } rest

namespace Arguments

/-- Reads arguments from the start. -/
def ofList (known : List Flag) (args : List String) : Except ArgumentError Arguments :=
  Arguments.read known {} args

/-- The last value of a flag. -/
def last? (a : Arguments) (name : String) : Option FlagValue :=
  (a.flags.reverse.find? (·.1 = name)).map (·.2)

/-- The text of a flag, if it was given. -/
def text? (a : Arguments) (name : String) : Option String :=
  match a.last? name with
  | some (.text s) => some s
  | _ => none

/-- The truth value of a flag, if it was given. -/
def bool? (a : Arguments) (name : String) : Option Bool :=
  match a.last? name with
  | some (.bool b) => some b
  | _ => none

/-- The number of a flag, if it was given. -/
def int? (a : Arguments) (name : String) : Option Int :=
  match a.last? name with
  | some (.int n) => some n
  | _ => none

/-- All texts of a flag that may be repeated. -/
def texts (a : Arguments) (name : String) : List String :=
  a.flags.flatMap fun
    | (n, .texts ss) => if n = name then ss else []
    | _ => []

end Arguments

end CoreCheck.CommandLine
